import FlashSale.Http.Head
import FlashSale.Proofs.Http.Transparency

/-! # What becomes of a message

    Every message that can be read gets one response.  The handler is asked
    exactly if the message asks for one of the two paths with a query that is
    not broken; all else is answered without it.  Any page may read a response,
    and those that carry an envelope are marked with the id of the message. -/

namespace FlashSale.Http

open Text

/-! ### What a message asks for -/

/-- The target is the path of a kind of request, or this path, a `?` and the
    query. -/
structure Message.AsksFor (m : Message) (kind : RequestKind) (query : String) : Prop where
  method : m.method = "GET"
  target : m.target = pathOf kind ++ "?" ++ query ∨ m.target = pathOf kind ∧ query = ""

/-- The message asks for a kind of request, and in its query every `%` starts an
    escape. -/
def Message.Reaches (m : Message) : Prop :=
  ∃ kind query, m.AsksFor kind query ∧ Percent.AllEscapes (bytesOf query)

theorem eq_pathOf_of_kindOfPath? {path : String} {kind : RequestKind}
    (h : kindOfPath? path = some kind) : path = pathOf kind := by
  unfold kindOfPath? at h
  split at h
  · obtain rfl := Option.some.inj h
    assumption
  split at h
  · obtain rfl := Option.some.inj h
    assumption
  · cases h

/-- No path has a `?` in it, so the target comes apart behind the path. -/
theorem Message.asksFor_iff {m : Message} {kind : RequestKind} {query : String} :
    m.AsksFor kind query ↔
      m.method = "GET" ∧ splitFirst '?' m.target.toList = ((pathOf kind).toList, query.toList) := by
  have hmark : '?' ∉ (pathOf kind).toList := by
    cases kind <;> decide
  have htarget : m.target.toList = (pathOf kind).toList ++ '?' :: query.toList ↔
      m.target = pathOf kind ++ "?" ++ query := by
    rw [← String.toList_inj, String.toList_append, String.toList_append, List.append_assoc]
    rfl
  rw [splitFirst_eq_iff, htarget, String.toList_inj, String.toList_eq_nil_iff]
  constructor
  · intro h
    exact ⟨h.method, hmark, h.target⟩
  · rintro ⟨hmethod, -, htarget⟩
    exact ⟨hmethod, htarget⟩

namespace Message.AsksFor

variable {m : Message} {kind : RequestKind} {query : String}

theorem method_ne (h : m.AsksFor kind query) : m.method ≠ "OPTIONS" := by
  rw [h.method]
  decide

theorem splitFirst_eq (h : m.AsksFor kind query) :
    splitFirst '?' m.target.toList = ((pathOf kind).toList, query.toList) :=
  (asksFor_iff.mp h).2

theorem kindOfPath?_eq (h : m.AsksFor kind query) : kindOfPath? m.path = some kind := by
  rw [path, h.splitFirst_eq, String.ofList_toList, kindOfPath?_pathOf]

theorem query_eq (h : m.AsksFor kind query) : m.query = bytesOf query := by
  rw [Message.query, h.splitFirst_eq]
  rfl

/-- A message asks for one thing. -/
theorem unique {kind' : RequestKind} {query' : String} (h : m.AsksFor kind query)
    (h' : m.AsksFor kind' query') : kind = kind' ∧ query = query' := by
  constructor
  · exact Option.some.inj (h.kindOfPath?_eq.symm.trans h'.kindOfPath?_eq)
  · have hsplit := h.splitFirst_eq.symm.trans h'.splitFirst_eq
    exact String.toList_inj.mp (Prod.mk.inj hsplit).2

theorem reaches_iff (h : m.AsksFor kind query) :
    m.Reaches ↔ Percent.AllEscapes (bytesOf query) := by
  constructor
  · rintro ⟨kind', query', h', hescapes⟩
    obtain ⟨-, rfl⟩ := h.unique h'
    exact hescapes
  · intro hescapes
    exact ⟨kind, query, h, hescapes⟩

end Message.AsksFor

/-- On no other path is anything asked for. -/
theorem Message.kindOfPath?_eq_none {m : Message} (hmethod : m.method = "GET")
    (h : ∀ kind query, ¬m.AsksFor kind query) : kindOfPath? m.path = none := by
  cases hkind : kindOfPath? m.path with
  | none => rfl
  | some kind =>
    obtain ⟨before, query, hsplit⟩ : ∃ before query,
        splitFirst '?' m.target.toList = (before, query) := ⟨_, _, rfl⟩
    have hpath : (pathOf kind).toList = before := by
      rw [← eq_pathOf_of_kindOfPath? hkind, path, hsplit, String.toList_ofList]
    have hasks : m.AsksFor kind (String.ofList query) := by
      refine asksFor_iff.mpr ⟨hmethod, ?_⟩
      rw [hsplit, hpath, String.toList_ofList]
    exact absurd hasks (h _ _)

/-! ### Ids -/

/-- The id in a header, if it is the header for ids and its value is one. -/
def headerId? (header : String × String) : Option RequestId :=
  if isNamed "x-request-id" header then RequestId.parse? (trim header.2.toList) else none

/-- The id that the message goes by: of its headers the first that has an id
    tells it, and without such a header the id is minted. -/
inductive Message.GoesBy (m : Message) (minted : RequestId) : RequestId → Prop
  | brought {before after : List (String × String)} {header : String × String} {id : RequestId}
    (headers_eq : m.headers = before ++ header :: after) (told : headerId? header = some id)
    (first : ∀ earlier ∈ before, headerId? earlier = none) : GoesBy m minted id
  | minted (none : ∀ header ∈ m.headers, headerId? header = none) : GoesBy m minted minted

/-- Looking at the headers for ids one by one is looking at their values. -/
theorem findSome?_headerId? (headers : List (String × String)) :
    headers.findSome? headerId? =
      (((headers.filter (isNamed "x-request-id")).map Prod.snd).map trimmed).findSome?
        fun value => RequestId.parse? value.toList := by
  induction headers with
  | nil => rfl
  | cons header headers ih =>
    rw [List.findSome?_cons, ih, headerId?, List.filter_cons]
    by_cases hnamed : isNamed "x-request-id" header
    · simp only [if_pos hnamed, List.map_cons, List.findSome?_cons, trimmed, String.toList_ofList]
    · simp only [if_neg hnamed]

theorem Message.requestId?_eq (m : Message) : m.requestId? = m.headers.findSome? headerId? := by
  rw [Message.requestId?, values_eq, sent, findSome?_headerId?]

/-- This is the id that the surface finds. -/
theorem Message.goesBy_iff {m : Message} {minted id : RequestId} :
    m.GoesBy minted id ↔ m.requestId?.getD minted = id := by
  rw [requestId?_eq]
  constructor
  · rintro (⟨hheaders, htold, hfirst⟩ | hnone)
    · rw [List.findSome?_eq_some_iff.mpr ⟨_, _, _, hheaders, htold, hfirst⟩]
      rfl
    · rw [List.findSome?_eq_none_iff.mpr hnone]
      rfl
  · intro h
    cases hfind : m.headers.findSome? headerId? with
    | none =>
      rw [hfind] at h
      obtain rfl : minted = id := h
      exact .minted (List.findSome?_eq_none_iff.mp hfind)
    | some found =>
      rw [hfind] at h
      obtain rfl : found = id := h
      obtain ⟨before, header, after, hheaders, htold, hfirst⟩ :=
        List.findSome?_eq_some_iff.mp hfind
      exact .brought hheaders htold hfirst

/-! ### Responses -/

/-- The values of a header of a response. -/
def Response.values (response : Response) (name : String) : List String :=
  (response.headers.filter (·.1 == name)).map Prod.snd

/-- The names of the headers by which any page may read a response. -/
def sharedNames : List String :=
  ["access-control-request-method", "access-control-allow-origin", "access-control-allow-headers",
    "access-control-expose-headers"]

/-- They are in every response that has the shared headers and no other ones of
    these names. -/
theorem Response.values_of_sharedHeaders {response : Response} {others : List (String × String)}
    (hheaders : response.headers = sharedHeaders ++ others)
    (hothers : ∀ header ∈ others, header.1 ∉ sharedNames) {name : String}
    (hname : name ∈ sharedNames) : response.values name = ["*"] := by
  have hshared : ∀ name ∈ sharedNames,
      (sharedHeaders.filter (·.1 == name)).map Prod.snd = ["*"] := by decide
  have hnone : others.filter (·.1 == name) = [] := by
    refine List.filter_eq_nil_iff.mpr fun header hheader heq => ?_
    exact hothers header hheader (beq_iff_eq.mp heq ▸ hname)
  rw [values, hheaders, List.filter_append, hnone, List.append_nil, hshared name hname]

theorem Response.values_ofEnvelope_shared (id : RequestId) (e : Envelope) :
    ∀ name ∈ sharedNames, (Response.ofEnvelope id e).values name = ["*"] := by
  intro name hname
  have hothers : ∀ header ∈ [("content-type", "application/json"), ("x-request-id", id.text)],
      header.1 ∉ sharedNames := by
    simp only [List.forall_mem_cons]
    decide
  exact values_of_sharedHeaders rfl hothers hname

/-- An envelope goes out as JSON under the id of the message. -/
theorem exists_mark_ofEnvelope {m : Message} {minted id : RequestId} (hid : m.GoesBy minted id)
    (e : Envelope) {asked : List Request} (hasked : ∀ r ∈ asked, r.id = id) :
    ∃ id' text, m.GoesBy minted id' ∧ (∀ r ∈ asked, r.id = id') ∧ id'.IsHyphenated text ∧
      (Response.ofEnvelope id e).values "content-type" = ["application/json"] ∧
      (Response.ofEnvelope id e).values "x-request-id" = [text] :=
  ⟨id, id.text, hid, hasked, id.isHyphenated_text, rfl, rfl⟩

/-! ### Serving -/

variable {σ : Type} {minted : RequestId} {time : Int64}

/-- The handler, which also keeps the requests that it was asked. -/
def recorded (handle : σ → Request → Envelope × σ) (s : σ × List Request) (r : Request) :
    Envelope × σ × List Request :=
  ((handle s.1 r).1, (handle s.1 r).2, s.2 ++ [r])

/-- The envelope for a query whose first broken escape is at the position. -/
def brokenQuery (position : Nat) : Envelope :=
  .status .invalidRequest
    ("invalid request: malformed query: broken percent escape at byte " ++ natText position)

/-- What comes of a message: its response, the state afterwards, and the requests
    that the handler was asked. -/
structure Served (handle : σ → Request → Envelope × σ) (minted : RequestId) (time : Int64) (s : σ)
    (m : Message) (response : Response) (s' : σ) (asked : List Request) : Prop where
  /-- A message that reaches the handler is answered by it, once. -/
  reached : m.Reaches → ∃ r query, asked = [r] ∧ m.AsksFor r.kind query ∧ r.time = time ∧
    response.status = 200 ∧ response.body = (handle s r).1.body ∧ s' = (handle s r).2
  /-- The handler is not asked about any other. -/
  notReached : ¬m.Reaches → asked = [] ∧ s' = s
  /-- A broken query is an invalid request. -/
  broken : ∀ kind query, m.AsksFor kind query → ¬Percent.AllEscapes (bytesOf query) →
    ∃ position, Percent.FirstBroken (bytesOf query) position ∧
      response.status = 200 ∧ response.body = (brokenQuery position).body
  preflight : m.method = "OPTIONS" → response.status = 204
  notFound : m.method = "GET" → (∀ kind query, ¬m.AsksFor kind query) → response.status = 404
  notAllowed : m.method ≠ "OPTIONS" → m.method ≠ "GET" → response.status = 405
  /-- Any page may read the response. -/
  shared : ∀ name ∈ sharedNames, response.values name = ["*"]
  /-- What is asked for on one of the paths is answered in JSON, under the id
      that the handler saw. -/
  json : ∀ kind query, m.AsksFor kind query → ∃ id text, m.GoesBy minted id ∧
    (∀ r ∈ asked, r.id = id) ∧ id.IsHyphenated text ∧
    response.values "content-type" = ["application/json"] ∧ response.values "x-request-id" = [text]
  /-- And nothing else is. -/
  other : (∀ kind query, ¬m.AsksFor kind query) →
    "application/json" ∉ response.values "content-type" ∧ response.values "x-request-id" = []

variable {m : Message} {kind : RequestKind} {query : String} {id : RequestId}

/-- What is asked for on one of the paths gets to the handler or is refused. -/
theorem route_of_asksFor (h : m.AsksFor kind query) (hid : m.GoesBy minted id) :
    (Percent.AllEscapes (bytesOf query) ∧ ∃ r : Request, r.kind = kind ∧ r.time = time ∧ r.id = id ∧
      route minted time m = .asked r) ∨
    ∃ position, Percent.FirstBroken (bytesOf query) position ∧
      route minted time m = .answered (.ofEnvelope id (brokenQuery position)) := by
  rw [route, if_neg h.method_ne, if_pos h.method, h.kindOfPath?_eq, h.query_eq,
    Message.goesBy_iff.mp hid]
  unfold decodeQuery
  cases hbroken : Percent.broken? (bytesOf query) with
  | none => exact .inl ⟨Percent.broken?_eq_none_iff.mp hbroken, _, rfl, rfl, rfl, rfl⟩
  | some position => exact .inr ⟨position, Percent.broken?_eq_some_iff.mp hbroken, rfl⟩

/-- Without it there is a response at once. -/
theorem route_of_not_asksFor (h : ∀ kind query, ¬m.AsksFor kind query) :
    route minted time m = .answered
      (if m.method = "OPTIONS" then .empty 204 else if m.method = "GET" then .notFound
        else .empty 405) := by
  rw [route]
  split
  · rfl
  split
  next hget => rw [Message.kindOfPath?_eq_none hget h]
  next => rfl

variable {handle : σ → Request → Envelope × σ} {s : σ}

/-- A message that reaches the handler gets its answer. -/
theorem served_asked {r : Request} (h : m.AsksFor r.kind query)
    (hescapes : Percent.AllEscapes (bytesOf query)) (htime : r.time = time)
    (hid : m.GoesBy minted r.id) :
    Served handle minted time s m (.ofEnvelope r.id (handle s r).1) (handle s r).2 [r] where
  reached _ := ⟨r, query, rfl, h, htime, rfl, rfl, rfl⟩
  notReached hnot := absurd ⟨r.kind, query, h, hescapes⟩ hnot
  broken kind' query' h' hbroken := by
    obtain ⟨-, rfl⟩ := h.unique h'
    exact absurd hescapes hbroken
  preflight hoptions := absurd hoptions h.method_ne
  notFound _ hnot := absurd h (hnot _ _)
  notAllowed _ hget := absurd h.method hget
  shared := Response.values_ofEnvelope_shared _ _
  json _ _ _ := by
    refine exists_mark_ofEnvelope hid _ ?_
    intro r' hr'
    rw [List.mem_singleton.mp hr']
  other hnot := absurd h (hnot _ _)

/-- A message with a broken query does not get there. -/
theorem served_refused {position : Nat} (h : m.AsksFor kind query)
    (hbroken : Percent.FirstBroken (bytesOf query) position) (hid : m.GoesBy minted id) :
    Served handle minted time s m (.ofEnvelope id (brokenQuery position)) s [] where
  reached hreaches := absurd (h.reaches_iff.mp hreaches) hbroken.not_allEscapes
  notReached _ := ⟨rfl, rfl⟩
  broken kind' query' h' _ := by
    obtain ⟨-, rfl⟩ := h.unique h'
    exact ⟨position, hbroken, rfl, rfl⟩
  preflight hoptions := absurd hoptions h.method_ne
  notFound _ hnot := absurd h (hnot _ _)
  notAllowed _ hget := absurd h.method hget
  shared := Response.values_ofEnvelope_shared _ _
  json _ _ _ := exists_mark_ofEnvelope hid _ fun _ hnone => absurd hnone List.not_mem_nil
  other hnot := absurd h (hnot _ _)

/-- Nor does one that asks for nothing that there is. -/
theorem served_unasked (h : ∀ kind query, ¬m.AsksFor kind query) :
    Served handle minted time s m
      (if m.method = "OPTIONS" then .empty 204 else if m.method = "GET" then .notFound
        else .empty 405) s [] where
  reached hreaches := by
    obtain ⟨kind, query, hasks, -⟩ := hreaches
    exact absurd hasks (h kind query)
  notReached _ := ⟨rfl, rfl⟩
  broken kind query hasks := absurd hasks (h kind query)
  preflight hoptions := by
    rw [if_pos hoptions]
    rfl
  notFound hget _ := by
    rw [if_neg (by rw [hget]; decide), if_pos hget]
    rfl
  notAllowed hoptions hget := by
    rw [if_neg hoptions, if_neg hget]
    rfl
  shared := by
    split
    · decide
    split
    · decide
    · decide
  json kind query hasks := absurd hasks (h kind query)
  other _ := by
    split
    · decide
    split
    · decide
    · decide

/-- Every message that can be read gets one response, whatever its method, its
    target and its headers are.  The handler is asked about it once, if it asks
    for one of the two paths with a query in which every `%` starts an escape,
    and otherwise not at all. -/
theorem served_once (handle : σ → Request → Envelope × σ) (minted : RequestId) (time : Int64)
    (s : σ) {text : String} {m : Message} (hread : Message.read text = .ok m) :
    ∃ response s' asked, serveText (recorded handle) minted time (s, []) text =
        (some response, s', asked) ∧
      Served handle minted time s m response s' asked := by
  rw [serveText, hread]
  dsimp only
  rw [serve]
  -- Without a path that leads somewhere neither the query nor the id matters.
  by_cases hasks : ∃ kind query, m.AsksFor kind query
  · obtain ⟨kind, query, h⟩ := hasks
    have hid : m.GoesBy minted (m.requestId?.getD minted) := Message.goesBy_iff.mpr rfl
    rcases route_of_asksFor h hid with
      ⟨hescapes, r, rfl, htime, hrid, hroute⟩ | ⟨position, hbroken, hroute⟩
    · rw [hroute]
      exact ⟨_, _, _, rfl, served_asked h hescapes htime (hrid ▸ hid)⟩
    · rw [hroute]
      exact ⟨_, _, _, rfl, served_refused h hbroken hid⟩
  · have hnot : ∀ kind query, ¬m.AsksFor kind query := by simpa using hasks
    rw [route_of_not_asksFor hnot]
    exact ⟨_, _, _, rfl, served_unasked hnot⟩

/-- The third header for ids is the first that has one; the fourth does not
    matter.  In the query the second `?` and the `%41` are as they should be. -/
theorem served_once_late_id :
    let text := "GET /secinfo?a=%41?b HTTP/1.1\r\nX-Request-Id: none\r\nx-request-id: 12-34\r\n" ++
      "X-REQUEST-ID: 0123456789ABCDEF0123456789ABCDEF\r\n" ++
      "X-Request-Id: 00000000-0000-0000-0000-000000000001\r\n\r\n"
    let m : Message :=
      { method := "GET"
        target := "/secinfo?a=%41?b"
        headers := [("X-Request-Id", "none"), ("x-request-id", "12-34"),
          ("X-REQUEST-ID", "0123456789ABCDEF0123456789ABCDEF"),
          ("X-Request-Id", "00000000-0000-0000-0000-000000000001")] }
    let handle (n : Nat) (_ : Request) : Envelope × Nat := (.success, n + 1)
    let id : RequestId := .ofNat 0x0123456789ABCDEF0123456789ABCDEF
    Message.read text = .ok m ∧
      ∃ response asked mark, serveText (recorded handle) (.ofNat 0) 5 (0, []) text =
          (some response, 1, asked) ∧
        response.status = 200 ∧ response.body = Envelope.success.body ∧
        asked.map Request.id = [id] ∧ id.IsHyphenated mark ∧
        response.values "x-request-id" = [mark] := by
  intro text m handle id
  have hread : Message.read text = .ok m := by decide +kernel
  have hasks : m.AsksFor .info "a=%41?b" := ⟨rfl, .inl (by decide)⟩
  have hescapes : Percent.AllEscapes (bytesOf "a=%41?b") :=
    Percent.broken?_eq_none_iff.mp (by decide +kernel)
  obtain ⟨response, s', asked, hserve, hserved⟩ := served_once handle (.ofNat 0) 5 0 hread
  obtain ⟨r, -, rfl, -, -, hstatus, hbody, rfl⟩ := hserved.reached ⟨_, _, hasks, hescapes⟩
  obtain ⟨found, mark, hgoesBy, hsame, hmark, -, hvalues⟩ := hserved.json _ _ hasks
  have hid : found = id := by
    rw [← Message.goesBy_iff.mp hgoesBy]
    decide +kernel
  subst hid
  refine ⟨hread, response, [r], mark, hserve, hstatus, hbody, ?_, hmark, hvalues⟩
  rw [List.map_singleton, hsame r (List.mem_singleton_self r)]

end FlashSale.Http
