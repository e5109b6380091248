import FlashSale.Proofs.Json.Reading
import FlashSale.Proofs.Json.Rendering
import FlashSale.Proofs.Store.Etcd.Documents
import FlashSale.Proofs.Store.Etcd.Failover
import FlashSale.Proofs.Store.Etcd.Lines
import FlashSale.Store.Etcd.Client

/-! # What a client is told

    The body of a watch is lines of frames, with blank lines among them.  Each
    line is read as the changes that its frame shows, so the stream is the
    changes of all lines one after the other, however they are spread over the
    lines, and then the end.  An answer is read as what it shows. -/

namespace FlashSale.Etcd

open Text

/-! ### What is sent -/

/-- The line is a frame with the changes, or it is blank and there are none. -/
inductive LineWrittenAs : List Change → Bytes → Prop
  | blank {cs : List Char} {line : Bytes} (isText : utf8Encode cs = line)
    (blank : ∀ c ∈ cs, isBlank c = true) : LineWrittenAs [] line
  | frame {changes : List Change} {v : Json} {cs : List Char} {line : Bytes}
    (isText : utf8Encode cs = line) (shown : FrameShown changes v)
    (written : Json.PaddedAs v line) : LineWrittenAs changes line

/-- The body has a line for each group of changes.  After the last line feed
    there may be nothing, which is a blank line. -/
def BodyWrittenAs (groups : List (List Change)) (body : Bytes) : Prop :=
  ∃ lines, List.Forall₂ LineWrittenAs groups lines ∧ (∀ line ∈ lines, 0x0A ∉ line) ∧
    body = [0x0A].intercalate lines

/-- The body is an answer with the pairs and the revision. -/
def AnswerWrittenAs (kvs : List KeyValue) (revision : Int64) (body : Bytes) : Prop :=
  ∃ v, AnswerShown kvs revision v ∧ Json.PaddedAs v body

/-! ### Objects in lines -/

/-- An object is written between braces. -/
theorem exists_braces {members : List (List Json.Piece × Json)} {text : Bytes}
    (h : Json.WrittenAs (.object members) text) : ∃ inner, text = 0x7B :: (inner ++ [0x7D]) := by
  cases h with
  | emptyObject space => exact ⟨_, rfl⟩
  | object written => exact ⟨_, rfl⟩

/-- So a carriage return behind it is white space. -/
theorem paddedAs_of_concat {members : List (List Json.Piece × Json)} {text : Bytes}
    (h : Json.PaddedAs (.object members) (text ++ [0x0D])) :
    Json.PaddedAs (.object members) text := by
  generalize hline : text ++ [0x0D] = line at h
  cases h with
  | @mk _ before value after hbefore hvalue hafter =>
    obtain ⟨inner, rfl⟩ := exists_braces hvalue
    rcases List.eq_nil_or_concat after with rfl | ⟨after', b, rfl⟩
    · -- The last byte would be the brace.
      rw [List.append_nil, ← List.cons_append, ← List.append_assoc] at hline
      obtain ⟨-, hlast⟩ := List.append_inj' hline rfl
      cases hlast
    · rw [List.concat_eq_append, ← List.append_assoc, ← List.append_assoc] at hline
      obtain ⟨rfl, -⟩ := List.append_inj' hline rfl
      rw [List.append_assoc]
      refine .mk hbefore hvalue fun c hc => hafter c ?_
      rw [List.concat_eq_append]
      exact List.mem_append_left _ hc

/-! ### Lines -/

namespace LineWrittenAs

variable {changes : List Change} {line : Bytes}

/-- A carriage return at the end of a line does not matter. -/
theorem dropReturn (h : LineWrittenAs changes line) : LineWrittenAs changes (dropReturn line) := by
  unfold Etcd.dropReturn
  split
  case isFalse => exact h
  case isTrue hlast =>
    cases h with
    | @blank cs _ isText blank =>
      subst isText
      obtain ⟨ds, rfl⟩ := exists_eq_append_of_getLast?_utf8Encode (c := '\r') (by decide) hlast
      rw [utf8Encode_append, show utf8Encode ['\r'] = [0x0D] from rfl, List.dropLast_concat]
      exact .blank rfl fun c hc => blank c (List.mem_append_left _ hc)
    | @frame _ v cs _ isText shown written =>
      subst isText
      obtain ⟨ds, rfl⟩ := exists_eq_append_of_getLast?_utf8Encode (c := '\r') (by decide) hlast
      rw [utf8Encode_append, show utf8Encode ['\r'] = [0x0D] from rfl] at written ⊢
      rw [List.dropLast_concat]
      have hshown := shown
      obtain ⟨fields, members, rfl, -⟩ := shown
      exact .frame rfl hshown (paddedAs_of_concat written)

theorem readLine_eq (h : LineWrittenAs changes line) (endpoint : String) :
    readLine endpoint line = .ok changes := by
  cases h with
  | @blank cs _ isText blank =>
    subst isText
    have htrim : trim cs = [] := trim_eq_nil_iff.mpr blank
    rw [readLine, utf8Decode?_utf8Encode]
    simp only [htrim, List.isEmpty_nil, if_true]
  | @frame _ v cs _ isText shown written =>
    obtain ⟨frame, hread, hchanges⟩ := shown.changes_eq endpoint
    -- The brace at the start of the object is no white space.
    have htrim : trim cs ≠ [] := by
      intro hblank
      obtain ⟨fields, members, rfl, -⟩ := shown
      obtain ⟨-, hvalue, -⟩ := written
      obtain ⟨inner, rfl⟩ := exists_braces hvalue
      have hbrace : '{' ∈ cs := by
        refine mem_of_mem_utf8Encode (by decide) ?_
        rw [isText]
        simp
      have hfalse := trim_eq_nil_iff.mp hblank _ hbrace
      exact absurd hfalse (by decide)
    have hempty : (trim cs).isEmpty = false := by simpa using htrim
    have hdecode : utf8Decode? line = some cs := isText ▸ utf8Decode?_utf8Encode cs
    rw [readLine, hdecode]
    simp only [hempty, Json.parse?_of_paddedAs written, Option.bind_some, hread]
    exact hchanges

end LineWrittenAs

/-! ### Bodies -/

variable {groups : List (List Change)} {endpoint : String} {ending : StoreError}

/-- The changes of one line go before those of the lines after it. -/
theorem messagesOfLines_eq {lines : List Bytes} (h : List.Forall₂ LineWrittenAs groups lines) :
    messagesOfLines endpoint ending lines = groups.flatten.map .ok ++ [.error ending] := by
  have htold : List.Forall₂ LineTells lines groups :=
    (h.imp fun _ _ written => readLine_eq_ok_iff.mp (written.readLine_eq endpoint)).flip
  rw [← List.append_nil lines, messagesOfLines_append htold, messagesOfLines]

/-- An empty line at the end might as well be missing. -/
theorem messagesOfLines_concat_nil (lines : List Bytes) :
    messagesOfLines endpoint ending (lines ++ [[]]) = messagesOfLines endpoint ending lines := by
  induction lines with
  | nil => rfl
  | cons line lines ih => rw [List.cons_append, messagesOfLines, ih, messagesOfLines]

/-- Among the lines as they are read only the last may keep its carriage
    return. -/
theorem forall₂_dropReturn {lines : List Bytes} (h : List.Forall₂ LineWrittenAs groups lines) :
    List.Forall₂ LineWrittenAs groups
      (lines.dropLast.map dropReturn ++ lines.getLast?.toList) := by
  induction h with
  | nil => exact .nil
  | cons first others ih =>
    cases others with
    | nil => exact .cons first .nil
    | cons second others =>
      rw [List.dropLast_cons_cons, List.getLast?_cons_cons]
      exact .cons first.dropReturn ih

/-- A complete body tells the changes of its groups one after the other, and
    then that it was closed. -/
theorem messagesOf_eq {body : Bytes} (h : BodyWrittenAs groups body) :
    messagesOf endpoint true body = groups.flatten.map .ok ++ [.error .closed] := by
  obtain ⟨lines, hlines, hfeed, rfl⟩ := h
  rw [← messagesOfLines_eq (forall₂_dropReturn hlines)]
  rcases List.eq_nil_or_concat' lines with rfl | ⟨before, last, rfl⟩
  · rfl
  · rw [messagesOf, linesOf_intercalate hfeed, List.dropLast_concat, List.getLast?_concat]
    by_cases hempty : last = []
    · subst hempty
      simp [messagesOfLines_concat_nil]
    · simp [hempty]

/-! ### Failover -/

/-- The first endpoint that can be used is asked after all before it. -/
theorem firstSuccess_eq_ok {α : Type} {attempt : String → Except StoreError α} {a : α}
    {failed others : List String} (hfailed : ∀ e ∈ failed, ∃ err, attempt e = .error err)
    (hattempt : attempt endpoint = .ok a) (last : StoreError) :
    (firstSuccess attempt last (failed ++ endpoint :: others)).1 = .ok a := by
  obtain ⟨later, hlater⟩ := firstSuccess_append hfailed last (endpoint :: others)
  rw [hlater, firstSuccess, hattempt]

theorem send_eq_ok {network : Network} {request : Request} {r : Http.Received}
    (hnetwork : network request = some r) (herror : r.isError = false) :
    send network request = .ok r :=
  send_eq_ok_iff.mpr ⟨hnetwork, isError_eq_false_iff.mp herror⟩

/-! ### One way to show them -/

/-- A pair with its revision as a text, and with a member that is not known. -/
def pairJson (key value : String) (revision : Int64) : Json :=
  .ofMembers [("key", inBase64 key), ("create_revision", .ofString "3"),
    ("mod_revision", .ofString (String.ofList (decimalInt revision.toInt))),
    ("value", inBase64 value)]

/-- The deletion of a key, with its revision as a number. -/
def deleteJson (key : String) (revision : Int64) : Json :=
  .ofMembers [("type", .ofString "DELETE"),
    ("kv", .ofMembers [("mod_revision", .ofInt revision.toInt), ("key", inBase64 key)])]

/-- A frame with some events, and with a member that is not known. -/
def frameJson (events : List Json) : Json :=
  .ofMembers [("result", .ofMembers [("created", .bool true), ("events", .array events)])]

theorem bytesShown_inBase64 (s : String) : BytesShown (bytesOf s) (inBase64 s) := by
  have hspells := Json.spells_piecesOf (String.ofList (Base64.encode (bytesOf s)))
  rw [String.toList_ofList] at hspells
  exact .mk hspells

theorem keyValueShown_pairJson (key value : String) (revision : Int64) :
    KeyValueShown { key, value := bytesOf value, revision } (pairJson key value revision) := by
  have hspells := Json.spells_piecesOf (String.ofList (decimalInt revision.toInt))
  rw [String.toList_ofList] at hspells
  have hrevision : IntegerShown revision (.ofString (String.ofList (decimalInt revision.toInt))) :=
    .text (signedNumeral?_decimalInt revision.toInt) hspells
  exact Json.isRecord_ofMembers (by simp) ⟨⟨_, rfl, bytesShown_inBase64 key⟩,
    .inl ⟨_, rfl, bytesShown_inBase64 value⟩, .inl ⟨_, rfl, hrevision⟩⟩

theorem changeShown_pairJson {kv : KeyValue} {pair : Json} (h : KeyValueShown kv pair) :
    ChangeShown (.put kv) (.ofMembers [("kv", pair)]) :=
  .plain (Json.isRecord_ofMembers (by simp) ⟨.inr ⟨rfl, rfl⟩, _, rfl, h⟩)

theorem changeShown_deleteJson (key : String) (revision : Int64) :
    ChangeShown (.delete key revision) (deleteJson key revision) := by
  have hkv : KeyValueShown { key, value := [], revision }
      (.ofMembers [("mod_revision", .ofInt revision.toInt), ("key", inBase64 key)]) :=
    Json.isRecord_ofMembers (by simp) ⟨⟨_, rfl, bytesShown_inBase64 key⟩, .inr ⟨rfl, rfl⟩,
      .inl ⟨_, rfl, .number⟩⟩
  have htype : Json.TextShown "DELETE" (.ofString "DELETE") := .mk (Json.spells_piecesOf "DELETE")
  exact .delete (Json.isRecord_ofMembers (by simp) ⟨.inl ⟨_, rfl, htype⟩, _, rfl, hkv⟩)

theorem frameShown_frameJson {changes : List Change} {events : List Json}
    (h : List.Forall₂ ChangeShown changes events) : FrameShown changes (frameJson events) := by
  have hresult : ResultShown changes
      (.ofMembers [("created", .bool true), ("events", .array events)]) :=
    Json.isRecord_ofMembers (by simp) ⟨.inr ⟨rfl, trivial⟩, .inr ⟨rfl, trivial⟩,
      .inl ⟨_, rfl, _, rfl, h⟩⟩
  exact Json.isRecord_ofMembers (by simp) ⟨.inl ⟨_, rfl, .inl hresult⟩, .inr ⟨rfl, trivial⟩⟩

theorem writtenAs_pairJson (key value : String) (revision : Int64) :
    (pairJson key value revision).WrittenAs (pairJson key value revision).render :=
  Json.writtenAs_ofMembers (by simp [inBase64, Json.writtenAs_ofString])

theorem writtenAs_deleteJson (key : String) (revision : Int64) :
    (deleteJson key revision).WrittenAs (deleteJson key revision).render := by
  let kv : Json := .ofMembers [("mod_revision", .ofInt revision.toInt), ("key", inBase64 key)]
  have hkv : kv.WrittenAs kv.render :=
    Json.writtenAs_ofMembers (by simp [inBase64, Json.writtenAs_ofString, Json.writtenAs_ofInt])
  exact Json.writtenAs_ofMembers (by simpa [Json.writtenAs_ofString] using hkv)

theorem writtenAs_single {name : String} {v : Json} (h : v.WrittenAs v.render) :
    (Json.ofMembers [(name, v)]).WrittenAs (Json.ofMembers [(name, v)]).render :=
  Json.writtenAs_ofMembers (by simpa using h)

theorem writtenAs_frameJson {events : List Json} (h : ∀ v ∈ events, v.WrittenAs v.render) :
    (frameJson events).WrittenAs (frameJson events).render :=
  writtenAs_single (Json.writtenAs_ofMembers
    (by simp [Json.writtenAs_bool, Json.writtenAs_array h]))

/-- It is a line, whatever white space follows it. -/
theorem lineWrittenAs_frameJson {changes : List Change} {events : List Json} {after : Bytes}
    (hshown : List.Forall₂ ChangeShown changes events) (h : ∀ v ∈ events, v.WrittenAs v.render)
    (hspace : Json.IsSpace after)
    (hascii : ((frameJson events).render ++ after).all (· < 0x80) = true) :
    LineWrittenAs changes ((frameJson events).render ++ after) := by
  obtain ⟨cs, hcs⟩ := exists_utf8Encode_eq fun b hb =>
    of_decide_eq_true (List.all_eq_true.mp hascii b hb)
  have hpadded : Json.PaddedAs (frameJson events) ([] ++ ((frameJson events).render ++ after)) :=
    .mk Json.isSpace_nil (writtenAs_frameJson h) hspace
  exact .frame hcs (frameShown_frameJson hshown) hpadded

/-! ### The client -/

/-- Behind endpoints that could not be used, whatever is shown is told.  A watch
    delivers the changes of all groups, in their order and each of them once,
    and then that it was closed; a question is answered by the first pair and
    the revision. -/
theorem Client.watch_and_get_eq_ok_of_written {c : Client} {failed others : List String}
    (hendpoints : c.endpoints = failed ++ endpoint :: others) (network : Network) (key : String) :
    (∀ groups start r, (∀ e ∈ failed, ∃ err, watchFrom network key start e = .error err) →
      network (watchRequest key start endpoint) = some r → r.isError = false → r.complete = true →
      BodyWrittenAs groups r.body →
      (c.watch network key start).1 = .ok (groups.flatten.map .ok ++ [.error .closed])) ∧
    ∀ kvs revision r, (∀ e ∈ failed, ∃ err, getFrom network key e = .error err) →
      network (rangeRequest key endpoint) = some r → r.isError = false → r.complete = true →
      AnswerWrittenAs kvs revision r.body →
      (c.get network key).1 = .ok { kv := kvs.head?, revision } := by
  constructor
  · intro groups start r hfailed hnetwork herror hcomplete hbody
    have hfrom : watchFrom network key start endpoint =
        .ok (groups.flatten.map .ok ++ [.error .closed]) := by
      rw [watchFrom, send_eq_ok hnetwork herror, Except.map, hcomplete, messagesOf_eq hbody]
    rw [watch, hendpoints]
    exact firstSuccess_eq_ok hfailed hfrom .noEndpoints
  · intro kvs revision r hfailed hnetwork herror hcomplete hbody
    obtain ⟨v, hshown, hwritten⟩ := hbody
    obtain ⟨answer, hread, hfetched⟩ := hshown.fetched_eq
    have hfrom : getFrom network key endpoint = .ok { kv := kvs.head?, revision } := by
      rw [getFrom, send_eq_ok hnetwork herror]
      simp only [hcomplete, if_true, RangeAnswer.read, Json.parse?_of_paddedAs hwritten,
        Option.bind_some, hread, hfetched]
      rfl
    rw [get, hendpoints]
    exact firstSuccess_eq_ok hfailed hfrom .noEndpoints

/-- The first endpoint is down.  The second has a frame without events, two
    blank lines, a put and a delete, with a carriage return here and there. -/
theorem Client.watch_and_get_eq_ok_of_written_put_delete :
    let c : Client := { endpoints := ["http://down", "http://etcd:2379"] }
    let found : KeyValue := { key := "/k", value := bytesOf "[]", revision := 11 }
    let pair := pairJson "/k" "[]" 11
    let events := frameJson [.ofMembers [("kv", pair)], deleteJson "/k" 12]
    let frames := (frameJson []).render ++ [0x0D, 0x0A, 0x0D, 0x0A, 0x0A] ++ events.render ++ [0x0A]
    let answer : Json := .ofMembers [("header", .ofMembers [("revision", .ofInt 12)]),
      ("kvs", .array [pair])]
    let network : Network := fun request =>
      if request.endpoint = "http://down" then none
      else if request.path = "/v3/watch" then
        some { status := 200, body := frames, complete := true }
      else some { status := 200, body := answer.render, complete := true }
    BodyWrittenAs [[], [], [], [.put found, .delete "/k" 12], []] frames ∧
      (c.watch network "/k" 11).1 =
        .ok [.ok (.put found), .ok (.delete "/k" 12), .error .closed] ∧
      AnswerWrittenAs [found] 12 answer.render ∧
      (c.get network "/k").1 = .ok { kv := some found, revision := 12 } := by
  intro c found pair events frames answer network
  have hpair : KeyValueShown found pair := keyValueShown_pairJson "/k" "[]" 11
  have hwritten := writtenAs_pairJson "/k" "[]" 11
  have hframes : BodyWrittenAs [[], [], [], [.put found, .delete "/k" 12], []] frames := by
    have hfirst : LineWrittenAs [] ((frameJson []).render ++ [0x0D]) :=
      lineWrittenAs_frameJson .nil (by simp) (by decide) (by decide +kernel)
    have hreturn : LineWrittenAs [] (utf8Encode ['\r']) := by
      refine .blank rfl fun c hc => ?_
      rw [List.mem_singleton.mp hc]
      decide
    have hempty : LineWrittenAs [] (utf8Encode []) :=
      .blank rfl fun _ hc => absurd hc List.not_mem_nil
    have hfourth : LineWrittenAs [.put found, .delete "/k" 12] (events.render ++ []) :=
      lineWrittenAs_frameJson
        (.cons (changeShown_pairJson hpair) (.cons (changeShown_deleteJson "/k" 12) .nil))
        (by simpa [writtenAs_deleteJson] using writtenAs_single hwritten) Json.isSpace_nil
        (by decide +kernel)
    exact ⟨_, .cons hfirst (.cons hreturn (.cons hempty (.cons hfourth (.cons hempty .nil)))),
      by decide +kernel, by decide +kernel⟩
  have hanswer : AnswerWrittenAs [found] 12 answer.render := by
    have hheader : HeaderShown 12 (.ofMembers [("revision", .ofInt 12)]) :=
      Json.isRecord_ofMembers (by decide) (.inl ⟨_, rfl, .number⟩)
    have hshown : AnswerShown [found] 12 answer := Json.isRecord_ofMembers (by decide)
      ⟨.inl ⟨_, rfl, .inl hheader⟩, .inl ⟨_, rfl, _, rfl, .cons hpair .nil⟩⟩
    have hkvs : (Json.array [pair]).WrittenAs (Json.array [pair]).render :=
      Json.writtenAs_array (by simpa using hwritten)
    have htext : answer.WrittenAs answer.render := Json.writtenAs_ofMembers (by
      simpa using ⟨writtenAs_single (Json.writtenAs_ofInt 12), hkvs⟩)
    exact ⟨_, hshown, htext.padded⟩
  have hfailed {α : Type} {attempt : String → Except StoreError α}
      (h : ∃ err, attempt "http://down" = .error err) :
      ∀ e ∈ ["http://down"], ∃ err, attempt e = .error err := by
    simpa using h
  have hendpoints : c.endpoints = ["http://down"] ++ "http://etcd:2379" :: [] := rfl
  have htells := Client.watch_and_get_eq_ok_of_written hendpoints network "/k"
  have hwatch := htells.1 _ 11 { status := 200, body := frames, complete := true }
    (hfailed ⟨_, rfl⟩) rfl rfl rfl hframes
  have hget := htells.2 _ _ { status := 200, body := answer.render, complete := true }
    (hfailed ⟨_, rfl⟩) rfl rfl rfl hanswer
  exact ⟨hframes, hwatch, hanswer, hget⟩

end FlashSale.Etcd
