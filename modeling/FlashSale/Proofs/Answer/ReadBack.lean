import FlashSale.Answer.Reply
import FlashSale.Proofs.Json.Data
import FlashSale.Proofs.Json.Reading
import FlashSale.Proofs.Json.Rendering

/-! # Answers as clients read them

    The body of an envelope obeys the grammar of JSON, and whatever obeys it is
    read.  So a client finds code, message and data as they were sent, and
    nothing else can be told from a body. -/

namespace FlashSale

open Text

/-! ### Bodies are JSON -/

theorem Offer.writtenAs_toJson (o : Offer) : o.toJson.WrittenAs o.toJson.render := by
  refine Json.writtenAs_ofMembers ?_
  simp only [List.forall_mem_cons]
  exact ⟨Json.writtenAs_ofInt _, Json.writtenAs_bool _, Json.writtenAs_bool _,
    Json.writtenAs_ofString _, fun _ h => absurd h List.not_mem_nil⟩

theorem Envelope.writtenAs_body (e : Envelope) : e.toJson.WrittenAs e.body := by
  refine Json.writtenAs_ofMembers fun m hm => ?_
  rcases List.mem_append.mp hm with hm | hm
  · simp only [List.mem_cons, List.not_mem_nil, or_false] at hm
    rcases hm with rfl | rfl
    · exact Json.writtenAs_ofInt _
    · exact Json.writtenAs_ofString _
  · -- There are data, and so a list of offers.
    obtain ⟨offers, -, rfl⟩ := List.mem_map.mp hm
    refine Json.writtenAs_array fun v hv => ?_
    obtain ⟨o, -, rfl⟩ := List.mem_map.mp hv
    exact o.writtenAs_toJson

/-! ### Reading back -/

theorem Offer.ofJson?_toJson (o : Offer) : ofJson? o.toJson = some o := by
  have hfields : Json.fields? { names := ["product_id", "start", "end", "status"], atLeast := 4 }
      o.toJson = some [("product_id", .ofInt o.productId.toNat), ("start", .bool o.start),
        ("end", .bool o.finished), ("status", .ofString o.status)] :=
    (Json.hasFields_ofMembers (by simp)).fields?_eq
  simp [ofJson?, hfields, Json.Fields.required?, List.lookup_cons, Json.uint64?_toNat, Json.bool?,
    Json.string?_ofString]

/-- The data that a list of offers is read as. -/
theorem Offer.list?_toJson (offers : List Offer) :
    Json.nullable? (Json.list? ofJson?) (.array (offers.map toJson)) = some (some offers) := by
  have hlist : Json.list? ofJson? (.array (offers.map toJson)) = some offers :=
    Json.list?_of_forall₂ (List.forall₂_map_left_iff.mpr
      (List.forall₂_same.mpr fun o _ => o.ofJson?_toJson))
  rw [Json.nullable?, hlist, Option.map_some]
  exact Json.noConfusion

namespace Envelope

theorem ofJson?_toJson (e : Envelope) :
    Reply.ofJson? e.toJson =
      some { code := e.code.number, message := e.message, data := e.data? } := by
  unfold Reply.ofJson?
  cases hdata : e.data? with
  | none =>
    have hfields : Json.fields? { names := ["code", "message", "data"], atLeast := 2 } e.toJson =
        some [("code", .ofInt e.code.number.toNat), ("message", .ofString e.message)] := by
      rw [toJson, hdata]
      exact (Json.hasFields_ofMembers (by simp)).fields?_eq
    simp [hfields, Json.Fields.required?, Json.Fields.orDefault?, List.lookup_cons, Json.uint32?_toNat,
      Json.string?_ofString]
  | some offers =>
    have hfields : Json.fields? { names := ["code", "message", "data"], atLeast := 2 } e.toJson =
        some [("code", .ofInt e.code.number.toNat), ("message", .ofString e.message),
          ("data", .array (offers.map Offer.toJson))] := by
      rw [toJson, hdata]
      exact (Json.hasFields_ofMembers (by simp)).fields?_eq
    simp [hfields, Json.Fields.required?, Json.Fields.orDefault?, List.lookup_cons, Json.uint32?_toNat,
      Json.string?_ofString, Offer.list?_toJson]

/-- A body is read as its code, its message and its data. -/
theorem parse?_body (e : Envelope) :
    Reply.parse? e.body =
      some { code := e.code.number, message := e.message, data := e.data? } := by
  rw [Reply.parse?, Json.parse?_of_paddedAs e.writtenAs_body.padded, Option.bind_some,
    ofJson?_toJson]

end Envelope

/-- A code is known by its number. -/
theorem Code.ofNumber?_number (c : Code) : ofNumber? c.number = some c := by
  cases c <;> decide

theorem Code.number_inj {c c' : Code} (h : c.number = c'.number) : c = c' := by
  have hcode := ofNumber?_number c
  rw [h, ofNumber?_number c'] at hcode
  exact (Option.some.inj hcode).symm

/-- Every body is read back: the number of the code, which tells the code, the
    message and the data.  A status brings its own code and message and no data;
    one offer and a list of offers come with the code and the message of
    success.  Envelopes that differ in code, message or data have different
    bodies, and all others have the same. -/
theorem Envelope.read_back (e : Envelope) :
    (∃ r, Reply.parse? e.body = some r ∧
      match e with
      | .status code message =>
        r.code = code.number ∧ r.kind? = some code ∧ r.message = message ∧ r.data = none
      | .item offer =>
        r.code = 0 ∧ r.kind? = some .ok ∧ r.message = "success" ∧ r.data = some [offer]
      | .list offers =>
        r.code = 0 ∧ r.kind? = some .ok ∧ r.message = "success" ∧ r.data = some offers) ∧
    ∀ e' : Envelope, e.body = e'.body ↔
      e.code = e'.code ∧ e.message = e'.message ∧ e.data? = e'.data? := by
  constructor
  · refine ⟨_, e.parse?_body, ?_⟩
    cases e with
    | status code message => exact ⟨rfl, Code.ofNumber?_number code, rfl, rfl⟩
    | item offer => exact ⟨rfl, Code.ofNumber?_number .ok, rfl, rfl⟩
    | list offers => exact ⟨rfl, Code.ofNumber?_number .ok, rfl, rfl⟩
  · intro e'
    constructor
    · intro h
      -- Equal bodies are read as the same reply.
      have hreply := e.parse?_body
      rw [h, e'.parse?_body, Option.some.injEq, Reply.mk.injEq] at hreply
      obtain ⟨hcode, hmessage, hdata⟩ := hreply
      exact ⟨(Code.number_inj hcode).symm, hmessage.symm, hdata.symm⟩
    · rintro ⟨hcode, hmessage, hdata⟩
      rw [body, body, toJson, toJson, hcode, hmessage, hdata]

/-- A quote, a backslash and control characters are escaped, and what is not
    ASCII stands as it is; they come back in a message and in the words of an
    offer, whose id is the greatest one.  One offer and a list of nothing else
    are the same to a client. -/
theorem Envelope.read_back_escapes :
    let text := "\"\\\n\x01é😀"
    let offer : Offer :=
      { productId := 18446744073709551615, start := false, finished := true, status := text }
    let refused : Envelope := .status .invalidRequest text
    let shown : Envelope := .item offer
    refused.body =
        bytesOf "\x7b\"code\":1001,\"message\":\"\\\"\\\\\\n\\u0001é😀\"\x7d" ∧
      shown.body =
        bytesOf ("\x7b\"code\":0,\"message\":\"success\",\"data\":[" ++
          "\x7b\"product_id\":18446744073709551615,\"start\":false,\"end\":true," ++
          "\"status\":\"\\\"\\\\\\n\\u0001é😀\"\x7d]\x7d") ∧
      (∃ r, Reply.parse? refused.body = some r ∧ r.code = 1001 ∧
        r.kind? = some .invalidRequest ∧ r.message = text ∧ r.data = none) ∧
      (∃ r, Reply.parse? shown.body = some r ∧ r.code = 0 ∧ r.kind? = some .ok ∧
        r.message = "success" ∧ r.data = some [offer]) ∧
      shown.body = (Envelope.list [offer]).body := by
  intro text offer refused shown
  exact ⟨by decide +kernel, by decide +kernel, (read_back refused).1, (read_back shown).1,
    ((read_back shown).2 (.list [offer])).mpr ⟨rfl, rfl, rfl⟩⟩

end FlashSale
