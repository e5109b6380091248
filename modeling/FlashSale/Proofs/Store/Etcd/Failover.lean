import FlashSale.Proofs.Store.Etcd.Lines

/-! # Endpoints in turn

    A client asks its endpoints one after the other and stops at the first one
    that answers.  What counts as an answer depends on what is asked: a
    question about a key wants a whole document whose first pair can be read,
    a watch only a status that tells of no error.  If no endpoint answers, each
    of them was asked once and the last one's error is told. -/

namespace FlashSale.Etcd

open Text

variable {network : Network} {key endpoint : String} {start : Int64}

/-! ### One request -/

/-- The request has a response, and its status tells of no error. -/
structure Responds (network : Network) (request : Request) (r : Http.Received) : Prop where
  arrived : network request = some r
  status : r.status < 400 ∨ 600 ≤ r.status

/-- The request has no response, or one whose status tells of an error. -/
inductive Unanswered (network : Network) (request : Request) : Prop
  | lost (nothing : network request = none)
  | refused {r : Http.Received} (arrived : network request = some r)
    (status : 400 ≤ r.status ∧ r.status < 600)

theorem isError_eq_false_iff {r : Http.Received} :
    r.isError = false ↔ r.status < 400 ∨ 600 ≤ r.status := by
  simp only [Http.Received.isError, Bool.and_eq_false_iff, decide_eq_false_iff_not]
  omega

theorem isError_eq_true_iff {r : Http.Received} :
    r.isError = true ↔ 400 ≤ r.status ∧ r.status < 600 := by
  simp only [Http.Received.isError, Bool.and_eq_true, decide_eq_true_eq]

theorem send_eq_ok_iff {request : Request} {r : Http.Received} :
    send network request = .ok r ↔ Responds network request r := by
  constructor
  · intro h
    unfold send at h
    split at h
    · cases h
    next r' harrived =>
    split at h
    · cases h
    next hstatus =>
    obtain rfl := Except.ok.inj h
    exact ⟨harrived, isError_eq_false_iff.mp (eq_false_of_ne_true hstatus)⟩
  · intro h
    rw [send, h.arrived]
    simp only [isError_eq_false_iff.mpr h.status, Bool.false_eq_true, if_false]

theorem send_eq_error_iff {request : Request} {error : StoreError} :
    send network request = .error error ↔
      Unanswered network request ∧ error = .transport request.endpoint := by
  constructor
  · intro h
    unfold send at h
    split at h
    · next hnothing =>
      exact ⟨.lost hnothing, (Except.error.inj h).symm⟩
    next r harrived =>
    split at h
    · next hstatus =>
      exact ⟨.refused harrived (isError_eq_true_iff.mp hstatus), (Except.error.inj h).symm⟩
    · cases h
  · intro h
    obtain ⟨hunanswered, rfl⟩ := h
    cases hunanswered with
    | lost hnothing => rw [send, hnothing]
    | refused harrived hstatus =>
      rw [send, harrived]
      simp only [isError_eq_true_iff.mpr hstatus, if_true]

/-! ### What an endpoint says of a key -/

/-- The answer tells what is stored: nothing, if it has no pair, and else its
    first pair, which can be read. -/
inductive RangeAnswer.Tells (a : RangeAnswer) : Fetched → Prop
  | absent (kvs_eq : a.kvs = []) : Tells a { kv := none, revision := a.revision.getD 0 }
  | first {sent : SentKeyValue} {others : List SentKeyValue} {kv : KeyValue}
    (kvs_eq : a.kvs = sent :: others) (pair : sent.Tells kv) :
    Tells a { kv := some kv, revision := a.revision.getD 0 }

/-- The first pair of the answer cannot be read. -/
inductive RangeAnswer.Fails (a : RangeAnswer) : Defect → Prop
  | first {sent : SentKeyValue} {others : List SentKeyValue} {defect : Defect}
    (kvs_eq : a.kvs = sent :: others) (bad : sent.Fails defect) : Fails a defect

theorem RangeAnswer.fetched_eq_ok_iff {a : RangeAnswer} {fetched : Fetched} :
    a.fetched = .ok fetched ↔ a.Tells fetched := by
  constructor
  · intro h
    unfold RangeAnswer.fetched at h
    split at h
    · next hnone =>
      obtain rfl := Except.ok.inj h
      exact .absent hnone
    · next sent others hfirst =>
      obtain ⟨kv, hkv, rfl⟩ := map_eq_ok_iff.mp h
      exact .first hfirst (SentKeyValue.decode_eq_ok_iff.mp hkv)
  · intro h
    cases h with
    | absent hnone => rw [RangeAnswer.fetched, hnone]
    | first hfirst hpair =>
      rw [RangeAnswer.fetched, hfirst]
      exact map_eq_ok_iff.mpr ⟨_, SentKeyValue.decode_eq_ok_iff.mpr hpair, rfl⟩

theorem RangeAnswer.fetched_eq_error_iff {a : RangeAnswer} {defect : Defect} :
    a.fetched = .error defect ↔ a.Fails defect := by
  constructor
  · intro h
    unfold RangeAnswer.fetched at h
    split at h
    · cases h
    · next sent others hfirst =>
      exact .first hfirst (SentKeyValue.decode_eq_error_iff.mp (map_eq_error_iff.mp h))
  · intro h
    obtain ⟨hfirst, hbad⟩ := h
    rw [RangeAnswer.fetched, hfirst]
    exact map_eq_error_iff.mpr (SentKeyValue.decode_eq_error_iff.mpr hbad)

/-- The text is a document that tells what is stored. -/
theorem RangeAnswer.read_eq_ok_iff {text : Bytes} {fetched : Fetched} :
    RangeAnswer.read text = .ok fetched ↔
      ∃ a, (Json.parse? text).bind RangeAnswer.ofJson? = some a ∧ a.Tells fetched := by
  unfold RangeAnswer.read
  cases hdocument : (Json.parse? text).bind RangeAnswer.ofJson? with
  | none => simp
  | some a => simp [RangeAnswer.fetched_eq_ok_iff]

/-- It is no document, or one whose first pair cannot be read. -/
theorem RangeAnswer.read_eq_error_iff {text : Bytes} {defect : Defect} :
    RangeAnswer.read text = .error defect ↔
      (Json.parse? text).bind RangeAnswer.ofJson? = none ∧ defect = .unreadable ∨
      ∃ a, (Json.parse? text).bind RangeAnswer.ofJson? = some a ∧ a.Fails defect := by
  unfold RangeAnswer.read
  cases hdocument : (Json.parse? text).bind RangeAnswer.ofJson? with
  | none => simp [eq_comm]
  | some a => simp [RangeAnswer.fetched_eq_error_iff]

/-- The endpoint answers the question about the key: its response is a whole
    document, and the document tells what is stored. -/
inductive Answers (network : Network) (key endpoint : String) : Fetched → Prop
  | mk {r : Http.Received} {a : RangeAnswer} {fetched : Fetched}
    (responds : Responds network (rangeRequest key endpoint) r) (whole : r.complete = true)
    (document : (Json.parse? r.body).bind RangeAnswer.ofJson? = some a)
    (told : a.Tells fetched) : Answers network key endpoint fetched

/-- The endpoint does not answer the question: there is no response, or a status
    that tells of an error, or a part of a body, or no document, or one whose
    first pair cannot be read. -/
inductive AnswerFails (network : Network) (key endpoint : String) : StoreError → Prop
  | unanswered (none : Unanswered network (rangeRequest key endpoint)) :
    AnswerFails network key endpoint (.transport endpoint)
  | part {r : Http.Received} (responds : Responds network (rangeRequest key endpoint) r)
    (part : r.complete = false) : AnswerFails network key endpoint (.transport endpoint)
  | unreadable {r : Http.Received} (responds : Responds network (rangeRequest key endpoint) r)
    (whole : r.complete = true)
    (noDocument : (Json.parse? r.body).bind RangeAnswer.ofJson? = none) :
    AnswerFails network key endpoint (.protocol endpoint .unreadable)
  | pair {r : Http.Received} {a : RangeAnswer} {defect : Defect}
    (responds : Responds network (rangeRequest key endpoint) r) (whole : r.complete = true)
    (document : (Json.parse? r.body).bind RangeAnswer.ofJson? = some a) (bad : a.Fails defect) :
    AnswerFails network key endpoint (.protocol endpoint defect)

/-- What a response says depends on its body alone, once all of it arrived. -/
theorem getFrom_of_responds {r : Http.Received}
    (h : Responds network (rangeRequest key endpoint) r) :
    Client.getFrom network key endpoint =
      if r.complete then (RangeAnswer.read r.body).mapError (.protocol endpoint)
      else .error (.transport endpoint) := by
  rw [Client.getFrom, send_eq_ok_iff.mpr h]

theorem getFrom_eq_ok_iff {fetched : Fetched} :
    Client.getFrom network key endpoint = .ok fetched ↔ Answers network key endpoint fetched := by
  constructor
  · intro h
    unfold Client.getFrom at h
    split at h
    · cases h
    next r hsent =>
    split at h
    · next hwhole =>
      obtain ⟨a, hdocument, htold⟩ := RangeAnswer.read_eq_ok_iff.mp (mapError_eq_ok_iff.mp h)
      exact .mk (send_eq_ok_iff.mp hsent) hwhole hdocument htold
    · cases h
  · intro h
    obtain ⟨hresponds, hwhole, hdocument, htold⟩ := h
    rw [getFrom_of_responds hresponds, if_pos hwhole, mapError_eq_ok_iff]
    exact RangeAnswer.read_eq_ok_iff.mpr ⟨_, hdocument, htold⟩

theorem getFrom_eq_error_iff {error : StoreError} :
    Client.getFrom network key endpoint = .error error ↔
      AnswerFails network key endpoint error := by
  constructor
  · intro h
    unfold Client.getFrom at h
    split at h
    · next hsent =>
      obtain rfl := Except.error.inj h
      obtain ⟨hunanswered, rfl⟩ := send_eq_error_iff.mp hsent
      exact .unanswered hunanswered
    next r hsent =>
    have hresponds := send_eq_ok_iff.mp hsent
    split at h
    · next hwhole =>
      -- All of the body arrived, so the fault is in what it says.
      obtain ⟨defect, hread, rfl⟩ := mapError_eq_error_iff.mp h
      rcases RangeAnswer.read_eq_error_iff.mp hread with ⟨hnone, rfl⟩ | ⟨a, hdocument, hbad⟩
      · exact .unreadable hresponds hwhole hnone
      · exact .pair hresponds hwhole hdocument hbad
    · next hpart =>
      obtain rfl := Except.error.inj h
      exact .part hresponds (eq_false_of_ne_true hpart)
  · intro h
    cases h with
    | unanswered hunanswered =>
      rw [Client.getFrom, send_eq_error_iff.mpr ⟨hunanswered, rfl⟩]
      rfl
    | part hresponds hpart =>
      rw [getFrom_of_responds hresponds, hpart]
      rfl
    | unreadable hresponds hwhole hnone =>
      rw [getFrom_of_responds hresponds, if_pos hwhole, mapError_eq_error_iff]
      exact ⟨_, RangeAnswer.read_eq_error_iff.mpr (.inl ⟨hnone, rfl⟩), rfl⟩
    | pair hresponds hwhole hdocument hbad =>
      rw [getFrom_of_responds hresponds, if_pos hwhole, mapError_eq_error_iff]
      exact ⟨_, RangeAnswer.read_eq_error_iff.mpr (.inr ⟨_, hdocument, hbad⟩), rfl⟩

/-! ### What an endpoint says of the changes of a key -/

/-- The endpoint takes the watch.  Its messages are those of the body, which is
    not looked at before. -/
inductive Streams (network : Network) (key : String) (start : Int64) (endpoint : String) :
    List Message → Prop
  | mk {r : Http.Received} (responds : Responds network (watchRequest key start endpoint) r) :
    Streams network key start endpoint (messagesOf endpoint r.complete r.body)

/-- The endpoint does not take the watch. -/
inductive StreamFails (network : Network) (key : String) (start : Int64) (endpoint : String) :
    StoreError → Prop
  | mk (none : Unanswered network (watchRequest key start endpoint)) :
    StreamFails network key start endpoint (.transport endpoint)

theorem watchFrom_eq_ok_iff {messages : List Message} :
    Client.watchFrom network key start endpoint = .ok messages ↔
      Streams network key start endpoint messages := by
  rw [Client.watchFrom, map_eq_ok_iff]
  constructor
  · intro h
    obtain ⟨r, hsent, rfl⟩ := h
    exact .mk (send_eq_ok_iff.mp hsent)
  · intro h
    obtain ⟨hresponds⟩ := h
    exact ⟨_, send_eq_ok_iff.mpr hresponds, rfl⟩

theorem watchFrom_eq_error_iff {error : StoreError} :
    Client.watchFrom network key start endpoint = .error error ↔
      StreamFails network key start endpoint error := by
  rw [Client.watchFrom, map_eq_error_iff, send_eq_error_iff]
  constructor
  · intro h
    obtain ⟨hunanswered, rfl⟩ := h
    exact .mk hunanswered
  · intro h
    obtain ⟨hunanswered⟩ := h
    exact ⟨hunanswered, rfl⟩

/-! ### One endpoint after the other -/

section

variable {α : Type}

/-- How asking endpoints in turn ends, and which of them were asked.  `Yields`
    says when an endpoint gives something, `Fails` when it gives an error
    instead. -/
inductive InTurn (Yields : String → α → Prop) (Fails : String → StoreError → Prop)
    (endpoints : List String) : Except StoreError α → List String → Prop
  /-- The endpoints before one that gives something all fail, and those behind
      it are not asked. -/
  | first {before after : List String} {endpoint : String} {a : α}
    (split : endpoints = before ++ endpoint :: after)
    (earlier : ∀ e ∈ before, ∃ error, Fails e error) (yields : Yields endpoint a) :
    InTurn Yields Fails endpoints (.ok a) (before ++ [endpoint])
  /-- All endpoints fail, and the last one's error is told. -/
  | none {before : List String} {last : String} {error : StoreError}
    (split : endpoints = before ++ [last]) (earlier : ∀ e ∈ before, ∃ error, Fails e error)
    (fails : Fails last error) : InTurn Yields Fails endpoints (.error error) endpoints

variable {attempt : String → Except StoreError α} {endpoints : List String}

/-- Endpoints that fail are asked, and it goes on with the error of the last. -/
theorem firstSuccess_append {before : List String}
    (h : ∀ e ∈ before, ∃ error, attempt e = .error error) (error : StoreError)
    (rest : List String) :
    ∃ later, firstSuccess attempt error (before ++ rest) =
      ((firstSuccess attempt later rest).1, before ++ (firstSuccess attempt later rest).2) := by
  induction before generalizing error with
  | nil => exact ⟨error, rfl⟩
  | cons e before ih =>
    obtain ⟨⟨found, hfound⟩, hothers⟩ := List.forall_mem_cons.mp h
    obtain ⟨later, hlater⟩ := ih hothers found
    refine ⟨later, ?_⟩
    rw [List.cons_append, firstSuccess, hfound]
    simp only [hlater, List.cons_append]

/-- The error before the first endpoint is asked is never told. -/
theorem firstSuccess_eq_iff (hendpoints : endpoints ≠ []) {error : StoreError}
    {result : Except StoreError α} {asked : List String} :
    firstSuccess attempt error endpoints = (result, asked) ↔
      InTurn (fun e a => attempt e = .ok a) (fun e error => attempt e = .error error) endpoints
        result asked := by
  constructor
  · intro h
    induction endpoints generalizing error asked with
    | nil => exact absurd rfl hendpoints
    | cons e rest ih =>
      rw [firstSuccess] at h
      cases hattempt : attempt e with
      | ok a =>
        rw [hattempt] at h
        obtain ⟨rfl, rfl⟩ := Prod.mk.inj h
        exact .first (List.nil_append (e :: rest)).symm
          (fun _ hmem => absurd hmem List.not_mem_nil) hattempt
      | error found =>
        rw [hattempt] at h
        obtain ⟨hresult, rfl⟩ := Prod.mk.inj h
        by_cases hrest : rest = []
        · -- This was the last endpoint.
          subst hrest
          obtain rfl : Except.error found = result := hresult
          exact .none (List.nil_append [e]).symm (fun _ hmem => absurd hmem List.not_mem_nil)
            hattempt
        · -- Another endpoint follows, and what comes of it comes of the whole.
          have hearlier {before : List String}
              (hbefore : ∀ e ∈ before, ∃ error, attempt e = .error error) :
              ∀ e' ∈ e :: before, ∃ error, attempt e' = .error error :=
            List.forall_mem_cons.mpr ⟨⟨found, hattempt⟩, hbefore⟩
          have hthen : firstSuccess attempt found rest =
              (result, (firstSuccess attempt found rest).2) := by rw [← hresult]
          generalize (firstSuccess attempt found rest).2 = asked at hthen ⊢
          cases ih hrest hthen with
          | first hsplit hbefore hyields =>
            exact .first (congrArg (e :: ·) hsplit) (hearlier hbefore) hyields
          | none hsplit hbefore hfails =>
            exact .none (congrArg (e :: ·) hsplit) (hearlier hbefore) hfails
  · intro h
    cases h with
    | first hsplit hbefore hyields =>
      subst hsplit
      obtain ⟨later, hlater⟩ := firstSuccess_append hbefore error _
      rw [hlater, firstSuccess, hyields]
    | none hsplit hbefore hfails =>
      obtain ⟨later, hlater⟩ := firstSuccess_append hbefore error _
      rw [hsplit, hlater, firstSuccess, hfails]
      rfl

end

/-! ### The client -/

theorem answers_eq :
    Answers network key = fun e fetched => Client.getFrom network key e = .ok fetched :=
  funext₂ fun _ _ => propext getFrom_eq_ok_iff.symm

theorem answerFails_eq :
    AnswerFails network key = fun e error => Client.getFrom network key e = .error error :=
  funext₂ fun _ _ => propext getFrom_eq_error_iff.symm

theorem streams_eq :
    Streams network key start =
      fun e messages => Client.watchFrom network key start e = .ok messages :=
  funext₂ fun _ _ => propext watchFrom_eq_ok_iff.symm

theorem streamFails_eq :
    StreamFails network key start =
      fun e error => Client.watchFrom network key start e = .error error :=
  funext₂ fun _ _ => propext watchFrom_eq_error_iff.symm

/-- Endpoints make a client that knows them in their order.  A question goes to
    each of them up to the first that answers it, and a watch to each up to the
    first that takes it; the others are not asked, whatever the stream of that
    one says.  If there is no such endpoint, each was asked once and the error
    is that of the last. -/
theorem Client.fails_over {texts : List String} (h : texts ≠ []) :
    ∃ client, Client.ofEndpoints texts = .ok client ∧
      client.endpoints = texts.map endpointUrl ∧
      ∀ network key,
        (∀ result requests, client.get network key = (result, requests) ↔
          ∃ asked, InTurn (Answers network key) (AnswerFails network key) client.endpoints
              result asked ∧ requests = asked.map (rangeRequest key)) ∧
        ∀ start result requests, client.watch network key start = (result, requests) ↔
          ∃ asked, InTurn (Streams network key start) (StreamFails network key start)
              client.endpoints result asked ∧ requests = asked.map (watchRequest key start) := by
  have hmade : Client.ofEndpoints texts = .ok { endpoints := texts.map endpointUrl } := by
    rw [Client.ofEndpoints, if_neg (by simpa using h)]
  have hendpoints : texts.map endpointUrl ≠ [] := by simpa using h
  refine ⟨_, hmade, rfl, ?_⟩
  intro network key
  constructor
  · intro result requests
    rw [answers_eq, answerFails_eq]
    constructor
    · intro hget
      obtain ⟨rfl, rfl⟩ := Prod.mk.inj hget
      exact ⟨_, (firstSuccess_eq_iff hendpoints).mp rfl, rfl⟩
    · intro hturn
      obtain ⟨asked, hturn, rfl⟩ := hturn
      rw [Client.get, (firstSuccess_eq_iff hendpoints).mpr hturn]
  · intro start result requests
    rw [streams_eq, streamFails_eq]
    constructor
    · intro hwatch
      obtain ⟨rfl, rfl⟩ := Prod.mk.inj hwatch
      exact ⟨_, (firstSuccess_eq_iff hendpoints).mp rfl, rfl⟩
    · intro hturn
      obtain ⟨asked, hturn, rfl⟩ := hturn
      rw [Client.watch, (firstSuccess_eq_iff hendpoints).mpr hturn]

/-- The first endpoint is down.  The second knows only a key that is not in
    base64, which is no answer, and its stream begins with a bad frame, which
    does not count against it. -/
theorem Client.fails_over_bad_key_bad_frame :
    let texts := ["down:1", " http://etcd:2379/ ", "other:2379"]
    let down := "http://down:1"
    let etcd := "http://etcd:2379"
    let other := "http://other:2379"
    let badKey : Json := .ofMembers [("kvs", .array [.ofMembers [("key", .ofString "?")]])]
    let absent : Json := .ofMembers [("header", .ofMembers [("revision", .ofInt 9)])]
    let network : Network := fun request =>
      if request.endpoint = down then none
      else if request.path = "/v3/watch" then
        some { status := 200, body := [0x78, 0x0A], complete := true }
      else some { status := 200, body := (if request.endpoint = etcd then badKey else absent).render,
                  complete := true }
    texts ≠ [] ∧
      (∃ client, Client.ofEndpoints texts = .ok client ∧
        client.get network "/k" =
          (.ok { kv := none, revision := 9 }, [down, etcd, other].map (rangeRequest "/k")) ∧
        client.watch network "/k" 10 =
          (.ok [.error (.protocol etcd .unreadable)], [down, etcd].map (watchRequest "/k" 10))) ∧
      ∃ client, Client.ofEndpoints (texts.take 2) = .ok client ∧
        client.get network "/k" =
          (.error (.protocol etcd .badKey), [down, etcd].map (rangeRequest "/k")) := by
  intro texts down etcd other badKey absent network
  have hdown : ∃ error, AnswerFails network "/k" down error :=
    ⟨.transport down, .unanswered (.lost rfl)⟩
  have hetcd : AnswerFails network "/k" etcd (.protocol etcd .badKey) :=
    getFrom_eq_error_iff.mp (by decide +kernel)
  have hother : Answers network "/k" other { kv := none, revision := 9 } :=
    getFrom_eq_ok_iff.mp (by decide +kernel)
  have hlost : ∃ error, StreamFails network "/k" 10 down error :=
    ⟨.transport down, .mk (.lost rfl)⟩
  have hstream : Streams network "/k" 10 etcd [.error (.protocol etcd .unreadable)] :=
    watchFrom_eq_ok_iff.mp (by decide +kernel)
  have htexts : texts ≠ [] := by decide
  have hfirst : texts.take 2 ≠ [] := by decide
  refine ⟨htexts, ?_, ?_⟩
  · obtain ⟨client, hmade, hendpoints, hturn⟩ := Client.fails_over htexts
    have hsplit : client.endpoints = [down, etcd, other] :=
      hendpoints.trans (by decide +kernel)
    refine ⟨client, hmade, ?_, ?_⟩
    · apply ((hturn network "/k").1 _ _).mpr
      refine ⟨[down, etcd] ++ [other], ?_, rfl⟩
      exact .first hsplit (by simpa using ⟨hdown, _, hetcd⟩) hother
    · apply ((hturn network "/k").2 10 _ _).mpr
      refine ⟨[down] ++ [etcd], ?_, rfl⟩
      exact .first hsplit (by simpa using hlost) hstream
  · obtain ⟨client, hmade, hendpoints, hturn⟩ := Client.fails_over hfirst
    have hsplit : client.endpoints = [down] ++ [etcd] :=
      hendpoints.trans (by decide +kernel)
    refine ⟨client, hmade, ((hturn network "/k").1 _ _).mpr ⟨client.endpoints, ?_, ?_⟩⟩
    · exact .none hsplit (by simpa using hdown) hetcd
    · rw [hsplit]
      rfl

end FlashSale.Etcd
