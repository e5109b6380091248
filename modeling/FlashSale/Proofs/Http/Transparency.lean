import FlashSale.Http.Surface
import FlashSale.Proofs.Gateway.Launch
import FlashSale.Proofs.Http.CookieHeaders
import FlashSale.Proofs.RequestId

/-! # What HTTP leaves unchanged

    A request can be handed to the gateway as it is, or written as an HTTP
    request: the kind as a path, the query and the cookies in escapes, the id in
    a header.  Both ways lead to the same answer and to the same gateway.

    The gateway looks at a request only by names, and of equal names at the
    first; so it does not matter either what else is handed over. -/

namespace FlashSale

/-! ### What the gateway looks at -/

/-- Requests that agree in all that a gateway looks at: of equal names only the
    first counts. -/
structure Request.Agrees (r r' : Request) : Prop where
  kind : r.kind = r'.kind
  query : ∀ name, r.query.lookup name = r'.query.lookup name
  cookies : ∀ name, r.cookies.lookup name = r'.cookies.lookup name
  time : r.time = r'.time

namespace Request.Agrees

variable {r r' : Request}

theorem product? (h : r.Agrees r') : r.product? = r'.product? := by
  rw [Request.product?, Request.product?, h.query]

theorem purchase (h : r.Agrees r') (a : Authenticator) : r.purchase a = r'.purchase a := by
  unfold Request.purchase Request.user Request.checkSignature
  rw [h.product?, h.time, h.cookies "userId", h.cookies "userAuthSign"]

/-- A gateway does the same for requests that agree. -/
theorem handle (h : r.Agrees r') (g : Gateway) : g.handle r = g.handle r' := by
  unfold Gateway.handle Gateway.purchase Gateway.tell
  rw [h.kind, h.purchase, h.product?, h.time]

end Request.Agrees

namespace Http

open Text

/-! ### Requests as messages -/

/-- The path on which a kind of request is made. -/
def pathOf : RequestKind → String
  | .purchase => "/seckill"
  | .info => "/secinfo"

theorem kindOfPath?_pathOf (kind : RequestKind) : kindOfPath? (pathOf kind) = some kind := by
  cases kind <;> decide

/-- Does a header have this name?  Case does not matter. -/
def isNamed (name : String) (header : String × String) : Bool :=
  asciiLower header.1.toList == asciiLower name.toList

/-- The values of a header as they were sent. -/
def Message.sent (m : Message) (name : String) : List String :=
  (m.headers.filter (isNamed name)).map Prod.snd

theorem Message.values_eq (m : Message) (name : String) :
    m.values name = (m.sent name).map trimmed := by
  rw [values, sent, List.map_map]
  rfl

theorem Message.cookies_eq {m : Message} {groups : List (List (String × String))}
    (h : List.Forall₂ HeaderTells (m.sent "cookie") groups) : m.cookies = groups.flatten := by
  rw [cookies, values_eq]
  exact flatMap_decodeCookies_eq h

/-- The message is the request.  Without pairs the query has no `?`; the cookies
    are spread over headers, each of which takes a group of them. -/
structure Message.Conveys (m : Message) (r : Request) (groups : List (List (String × String))) :
    Prop where
  method : m.method = "GET"
  target : ∃ query, SpellsPairs ['&'] r.query query ∧
    m.target = pathOf r.kind ++ if r.query = [] then "" else "?" ++ String.ofList query
  cookies : List.Forall₂ (fun group value => SpellsPairs [';', ' '] group value.toList) groups
    (m.sent "cookie")
  id : m.sent "x-request-id" = [r.id.text]

/-- Every request is some message, however its cookies are spread. -/
theorem exists_conveys (r : Request) (groups : List (List (String × String))) :
    ∃ m : Message, m.Conveys r groups := by
  obtain ⟨query, hquery⟩ := exists_spellsPairs ['&'] r.query
  obtain ⟨values, hvalues⟩ := exists_values groups
  have hdistinct : asciiLower "cookie".toList ≠ asciiLower "x-request-id".toList := by decide
  -- The headers are told apart by their names, so neither is in the way of the other.
  refine ⟨{ method := "GET", target := _, headers := ("x-request-id", r.id.text) ::
    values.map ("cookie", ·) }, rfl, ⟨query, hquery, rfl⟩, ?_, ?_⟩
  · have hid : isNamed "cookie" ("x-request-id", r.id.text) = false :=
      beq_eq_false_iff_ne.mpr hdistinct.symm
    have hcookies : (values.map ("cookie", ·)).filter (isNamed "cookie") =
        values.map ("cookie", ·) :=
      List.filter_eq_self.mpr (by simp [isNamed])
    simpa [Message.sent, hid, hcookies, Function.comp_def] using hvalues
  · have hid : isNamed "x-request-id" ("x-request-id", r.id.text) = true := beq_self_eq_true _
    have hcookies : (values.map ("cookie", ·)).filter (isNamed "x-request-id") = [] := by
      refine List.filter_eq_nil_iff.mpr fun header hheader => ?_
      obtain ⟨value, -, rfl⟩ := List.mem_map.mp hheader
      exact Bool.eq_false_iff.mp (beq_eq_false_iff_ne.mpr hdistinct)
    simp [Message.sent, hid, hcookies]

namespace Message.Conveys

variable {m : Message} {r : Request} {groups : List (List (String × String))}

/-- The target comes apart into the path and the query. -/
theorem splitFirst_target (h : m.Conveys r groups) :
    ∃ query, decodeQuery (utf8Encode query) = .ok r.query ∧
      splitFirst '?' m.target.toList = ((pathOf r.kind).toList, query) := by
  obtain ⟨query, hquery, htarget⟩ := h.target
  have hpath : '?' ∉ (pathOf r.kind).toList := by
    cases r.kind <;> decide
  rw [htarget, splitFirst]
  by_cases hempty : r.query = []
  · refine ⟨[], ?_, ?_⟩
    · rw [hempty]
      rfl
    · rw [if_pos hempty, String.append_empty, splitFirst?_eq_none hpath]
      rfl
  · refine ⟨query, decodeQuery_spelled hquery, ?_⟩
    have hmark : ("?" ++ String.ofList query).toList = '?' :: query := by simp
    rw [if_neg hempty, String.toList_append, hmark, splitFirst?_eq_some hpath]
    rfl

/-- The id is found. -/
theorem requestId? (h : m.Conveys r groups) : m.requestId? = some r.id := by
  have htrim : trimmed r.id.text = r.id.text := by
    rw [trimmed, trim_of_not_blank fun c => RequestId.not_blank_of_mem_text, String.ofList_toList]
  rw [Message.requestId?, values_eq, h.id, List.map_singleton, htrim, List.findSome?_cons,
    RequestId.parse?_text]

/-- The cookies of all headers are found, in their order. -/
theorem cookies_eq (h : m.Conveys r groups) (hnames : ∀ cookie ∈ groups.flatten, cookie.1 ≠ "") :
    m.cookies = groups.flatten :=
  Message.cookies_eq (forall₂_headerTells_spelled h.cookies hnames)

/-- The surface takes the message apart into the request. -/
theorem route_eq (h : m.Conveys r groups) (hcookies : groups.flatten = r.cookies)
    (hnames : ∀ cookie ∈ r.cookies, cookie.1 ≠ "") (minted : RequestId) :
    route minted r.time m = .asked r := by
  obtain ⟨query, hquery, htarget⟩ := h.splitFirst_target
  have hpath : m.path = pathOf r.kind := by
    rw [path, htarget, String.ofList_toList]
  have hbytes : m.query = utf8Encode query := by
    rw [Message.query, htarget]
  rw [route, h.method, hpath, kindOfPath?_pathOf, h.requestId?, hbytes, hquery,
    h.cookies_eq (hcookies ▸ hnames), hcookies]
  rfl

end Message.Conveys

/-! ### Both ways -/

/-- Every request can be written as a message, in many ways, and each of these
    messages is answered by the very answer that the gateway gives when the
    request is handed to it, under the id of the request; the gateway is the
    same afterwards.  It does so for every request that agrees. -/
theorem serve_eq_handle (g : Gateway) (minted : RequestId) {r : Request}
    {groups : List (List (String × String))} (hcookies : groups.flatten = r.cookies)
    (hnames : ∀ cookie ∈ r.cookies, cookie.1 ≠ "") :
    (∃ m : Message, m.Conveys r groups) ∧
      ∀ m : Message, m.Conveys r groups → ∀ direct : Request, r.Agrees direct →
        let (response, g') := serve Gateway.handle minted r.time g m
        response.status = 200 ∧ response.body = (g.handle direct).1.body ∧
          response.headers.lookup "x-request-id" = some r.id.text ∧ g' = (g.handle direct).2 := by
  refine ⟨exists_conveys r groups, fun m hm direct hdirect => ?_⟩
  rw [serve, hm.route_eq hcookies hnames, ← hdirect.handle g]
  exact ⟨rfl, rfl, rfl, rfl⟩

/-- A question about a product that is named twice, with signs in the other
    pairs that mean something in a query or in a cookie header.  The cookies are
    in three headers, one of them empty; the digits are of both cases. -/
theorem serve_eq_handle_question :
    let s : Settings := { secret := "k", scheme := .md5, accessLimit := 1 }
    let sale : Product :=
      { id := 1, startTime := 0, endTime := 10, status := .normal, count := 1, left := 1 }
    let g := Gateway.ofFetched s s.authenticator
      { kv := some { key := s.watchedKey, value := Product.writeList [sale], revision := 1 }
        revision := 1 }
    let r : Request :=
      { kind := .info
        query := [("product_id", "1"), ("product_id", "2"), ("&=", "é +")]
        cookies := [("a;", ""), ("é", " ")]
        time := 5
        id := .ofNat 7 }
    let groups := [[("a;", "")], [], [("é", " ")]]
    let m : Message :=
      { method := "GET"
        target := "/secinfo?%70%72%6f%64%75%63%74%5f%69%64=%31&" ++
          "%70%72%6F%64%75%63%74%5F%69%64=%32&%26%3d=%c3%a9%20%2b"
        headers := [("Cookie", "%61%3B="), ("X-Request-Id", r.id.text), ("cookie", ""),
          ("COOKIE", "%C3%A9=%20")] }
    let direct := { r with query := [("product_id", "1"), ("&=", "é +")] }
    groups.flatten = r.cookies ∧ (∀ cookie ∈ r.cookies, cookie.1 ≠ "") ∧ m.Conveys r groups ∧
      r.Agrees direct ∧ (g.handle direct).1 = .item (sale.offerAt 5) ∧
      let (response, g') := serve Gateway.handle (.ofNat 0) r.time g m
      response.status = 200 ∧ response.body = (g.handle direct).1.body ∧
        response.headers.lookup "x-request-id" = some r.id.text ∧ g' = (g.handle direct).2 := by
  intro s sale g r groups m direct
  have hnames : ∀ cookie ∈ r.cookies, cookie.1 ≠ "" := by decide
  have hm : m.Conveys r groups := by
    -- The escapes of each side, then the text around them.
    have hproduct : SpellsPair ("product_id", "1") "%70%72%6f%64%75%63%74%5f%69%64=%31".toList :=
      ⟨"%70%72%6f%64%75%63%74%5f%69%64".toList, "%31".toList, by decide +kernel, by decide +kernel,
        by decide⟩
    have hagain : SpellsPair ("product_id", "2") "%70%72%6F%64%75%63%74%5F%69%64=%32".toList :=
      ⟨"%70%72%6F%64%75%63%74%5F%69%64".toList, "%32".toList, by decide +kernel, by decide +kernel,
        by decide⟩
    have hsigns : SpellsPair ("&=", "é +") "%26%3d=%c3%a9%20%2b".toList :=
      ⟨"%26%3d".toList, "%c3%a9%20%2b".toList, by decide +kernel, by decide +kernel, by decide⟩
    have hfirst : SpellsPair ("a;", "") "%61%3B=".toList :=
      ⟨"%61%3B".toList, [], by decide +kernel, by decide +kernel, by decide⟩
    have hsecond : SpellsPair ("é", " ") "%C3%A9=%20".toList :=
      ⟨"%C3%A9".toList, "%20".toList, by decide +kernel, by decide +kernel, by decide⟩
    refine ⟨rfl, ⟨_, ⟨_, .cons hproduct (.cons hagain (.cons hsigns .nil)), rfl⟩, ?_⟩, ?_, ?_⟩
    · decide +kernel
    · have hsent : m.sent "cookie" = ["%61%3B=", "", "%C3%A9=%20"] := by decide +kernel
      rw [hsent]
      exact .cons ⟨_, .cons hfirst .nil, List.intercalate_singleton.symm⟩
        (.cons ⟨[], .nil, rfl⟩
          (.cons ⟨_, .cons hsecond .nil, List.intercalate_singleton.symm⟩ .nil))
    · decide +kernel
  have hdirect : r.Agrees direct := by
    refine ⟨rfl, fun name => ?_, fun _ => rfl, rfl⟩
    simp only [r, direct, List.lookup_cons]
    split
    · rfl
    · rfl
  refine ⟨rfl, hnames, hm, hdirect, by decide +kernel, ?_⟩
  exact (serve_eq_handle g (.ofNat 0) rfl hnames).2 m hm direct hdirect

end Http

end FlashSale
