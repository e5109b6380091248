import FlashSale.Proofs.Json.Data
import FlashSale.Proofs.Text.Base64
import FlashSale.Store.Etcd.Message

/-! # The documents that etcd may send

    A gateway has a choice in how it shows changes and pairs.  Keys and values
    are texts in base64, integers are numbers or texts, what equals its default
    may be missing, and there may be members that are not known here.  Whatever
    is chosen, what was shown is read. -/

namespace FlashSale.Etcd

open Text
open Json (TextShown NullOr ListShown IsRecord Has HasOrOmits)

/-! ### What may be chosen -/

/-- The value is the bytes in base64, with pads. -/
inductive BytesShown (bs : Bytes) : Json → Prop
  | mk {content : List Json.Piece} (spelled : Json.Spells (Base64.encode bs) content) :
    BytesShown bs (.string content)

/-- The value is the integer, as a number or as a text. -/
inductive IntegerShown (n : Int64) : Json → Prop
  | number : IntegerShown n (.ofInt n.toInt)
  | text {digits : List Char} {content : List Json.Piece}
    (value : signedNumeral? digits = some n.toInt) (spelled : Json.Spells digits content) :
    IntegerShown n (.string content)

/-! ### Documents -/

/-- The value is a key with its value. -/
def KeyValueShown (kv : KeyValue) : Json → Prop :=
  IsRecord ["key", "value", "mod_revision"] fun fields =>
    Has fields "key" (BytesShown (bytesOf kv.key)) ∧
    HasOrOmits fields "value" (BytesShown kv.value) (kv.value = []) ∧
    HasOrOmits fields "mod_revision" (IntegerShown kv.revision) (kv.revision = 0)

/-- The value is an event of the type. -/
def EventShown (type : Option String) (kv : KeyValue) : Json → Prop :=
  IsRecord ["type", "kv"] fun fields =>
    HasOrOmits fields "type" (NullOr TextShown type) (type = none) ∧
    Has fields "kv" (KeyValueShown kv)

/-- The value is a change.  A put may do without its type; with a delete there
    may be any value. -/
inductive ChangeShown : Change → Json → Prop
  | plain {kv : KeyValue} {v : Json} (event : EventShown none kv v) : ChangeShown (.put kv) v
  | put {kv : KeyValue} {v : Json} (event : EventShown (some "PUT") kv v) : ChangeShown (.put kv) v
  | delete {kv : KeyValue} {v : Json} (event : EventShown (some "DELETE") kv v) :
    ChangeShown (.delete kv.key kv.revision) v

/-- The value is a result with the changes, one that does not end the watch. -/
def ResultShown (changes : List Change) : Json → Prop :=
  IsRecord ["canceled", "cancel_reason", "events"] fun fields =>
    HasOrOmits fields "canceled" (· = .bool false) True ∧
    HasOrOmits fields "cancel_reason" (fun v => ∃ reason, TextShown reason v) True ∧
    HasOrOmits fields "events" (ListShown ChangeShown changes) (changes = [])

/-- The value is a frame with the changes. -/
def FrameShown (changes : List Change) : Json → Prop :=
  IsRecord ["result", "error"] fun fields =>
    HasOrOmits fields "result" (fun v => ResultShown changes v ∨ v = .null ∧ changes = [])
      (changes = []) ∧
    HasOrOmits fields "error" (· = .null) True

/-- The value is a header with the revision. -/
def HeaderShown (revision : Int64) : Json → Prop :=
  IsRecord ["revision"] fun fields =>
    HasOrOmits fields "revision" (IntegerShown revision) (revision = 0)

/-- The value is an answer with the pairs that were found and the revision. -/
def AnswerShown (kvs : List KeyValue) (revision : Int64) : Json → Prop :=
  IsRecord ["header", "kvs"] fun fields =>
    HasOrOmits fields "header" (fun v => HeaderShown revision v ∨ v = .null ∧ revision = 0)
      (revision = 0) ∧
    HasOrOmits fields "kvs" (ListShown KeyValueShown kvs) (kvs = [])

/-! ### Reading documents -/

theorem BytesShown.string?_eq {bs : Bytes} {v : Json} (h : BytesShown bs v) :
    Json.string? v = some (String.ofList (Base64.encode bs)) := by
  cases h with
  | mk spelled => exact Json.string?_of_spells (by rwa [String.toList_ofList])

theorem IntegerShown.integer?_eq {n : Int64} {v : Json} (h : IntegerShown n v) :
    integer? v = some n := by
  cases h with
  | number => exact Json.int64?_toInt n
  | @text digits content value spelled =>
    have htext : Json.pieceText? content = some (String.ofList digits) :=
      Json.Spells.pieceText?_eq (by rwa [String.toList_ofList])
    rw [integer?, htext, Option.bind_some, String.toList_ofList, readInt64_eq_ok_iff.mpr value]
    rfl

theorem KeyValueShown.ofJson?_eq {kv : KeyValue} {v : Json} (h : KeyValueShown kv v) :
    ∃ sent, SentKeyValue.ofJson? v = some sent ∧ sent.decode = .ok kv := by
  obtain ⟨fields, hfields, hkey, hvalue, hrevision⟩ := h.fields?_eq 1
  have hfields : Json.fields? SentKeyValue.shape v = some fields := hfields
  have hkey : fields.required? "key" Json.string? =
      some (String.ofList (Base64.encode (bytesOf kv.key))) :=
    hkey.required?_eq fun _ h => h.string?_eq
  have hvalue : fields.orDefault? "value" Json.string? "" =
      some (String.ofList (Base64.encode kv.value)) := by
    refine hvalue.orDefault?_eq (fun _ h => h.string?_eq) fun hempty => ?_
    rw [hempty]
    rfl
  have hrevision : fields.orDefault? "mod_revision" integer? 0 = some kv.revision :=
    hrevision.orDefault?_eq (fun _ h => h.integer?_eq) id
  refine ⟨{ key := String.ofList (Base64.encode (bytesOf kv.key))
            value := String.ofList (Base64.encode kv.value), modRevision := kv.revision }, ?_, ?_⟩
  · rw [SentKeyValue.ofJson?, hfields]
    simp only [Option.bind_eq_bind, Option.bind_some, hkey, hvalue, hrevision, Option.pure_def]
  · rw [SentKeyValue.decode]
    simp only [String.toList_ofList, Base64.decode?_encode, bytesOf, utf8DecodeLossy_utf8Encode,
      String.ofList_toList]

theorem EventShown.ofJson?_eq {type : Option String} {kv : KeyValue} {v : Json}
    (h : EventShown type kv v) :
    ∃ sent, SentEvent.ofJson? v = some { type, kv := sent } ∧ sent.decode = .ok kv := by
  obtain ⟨fields, hfields, htype, w, hlookup, hkv⟩ := h.fields?_eq 2
  obtain ⟨sent, hsent, hdecode⟩ := hkv.ofJson?_eq
  have htype : fields.orDefault? "type" (Json.nullable? Json.string?) none = some type := by
    refine htype.orDefault?_eq (fun v hv => ?_) id
    cases type with
    | none =>
      obtain rfl : v = .null := hv
      rfl
    | some s =>
      have hv : TextShown s v := hv
      exact Json.nullable?_eq_some rfl hv.string?_eq
  refine ⟨sent, ?_, hdecode⟩
  rw [SentEvent.ofJson?, hfields]
  simp only [Option.bind_eq_bind, Option.bind_some, htype, Json.Fields.required?, hlookup, hsent,
    Option.pure_def]

theorem ChangeShown.ofJson?_eq {change : Change} {v : Json} (h : ChangeShown change v) :
    ∃ sent, SentEvent.ofJson? v = some sent ∧ sent.decode = .ok change := by
  cases h with
  | plain event =>
    obtain ⟨sent, hread, hdecode⟩ := event.ofJson?_eq
    exact ⟨_, hread, by simp only [SentEvent.decode, hdecode]⟩
  | put event =>
    obtain ⟨sent, hread, hdecode⟩ := event.ofJson?_eq
    exact ⟨_, hread, by simp only [SentEvent.decode, hdecode, if_true]⟩
  | delete event =>
    obtain ⟨sent, hread, hdecode⟩ := event.ofJson?_eq
    have hother : "DELETE" ≠ "PUT" := by decide
    exact ⟨_, hread, by simp only [SentEvent.decode, hdecode, if_neg hother, if_true]⟩

theorem ResultShown.ofJson?_eq {changes : List Change} {v : Json} (h : ResultShown changes v) :
    ∃ result, WatchResult.ofJson? v = some result ∧ result.canceled = false ∧
      result.events.mapM SentEvent.decode = .ok changes := by
  obtain ⟨fields, hfields, hcanceled, hreason, hevents⟩ := h.fields?_eq 0
  have hcanceled : fields.orDefault? "canceled" Json.bool? false = some false := by
    refine hcanceled.orDefault?_eq (fun v hv => ?_) fun _ => rfl
    rw [hv]
    rfl
  -- The reason may be any text; nobody looks at it.
  obtain ⟨reason, hreason, -⟩ : ∃ reason,
      fields.orDefault? "cancel_reason" Json.string? "" = some reason ∧ True :=
    hreason.exists_orDefault?_eq (fun _ ⟨_, h⟩ => ⟨_, h.string?_eq, trivial⟩) id
  obtain ⟨events, hevents, hdecode⟩ : ∃ events,
      fields.orDefault? "events" (Json.list? SentEvent.ofJson?) [] = some events ∧
      List.Forall₂ (fun change sent => sent.decode = .ok change) changes events := by
    refine hevents.exists_orDefault?_eq (fun _ h => h.list?_eq fun _ _ h => h.ofJson?_eq) ?_
    rintro rfl
    exact .nil
  refine ⟨{ canceled := false, reason, events }, ?_, rfl, mapM_eq_pure_of_forall₂ hdecode.flip⟩
  rw [WatchResult.ofJson?, hfields]
  simp only [Option.bind_eq_bind, Option.bind_some, hcanceled, hreason, hevents, Option.pure_def]

/-- A frame tells of the changes that it shows. -/
theorem FrameShown.changes_eq {changes : List Change} {v : Json} (h : FrameShown changes v)
    (endpoint : String) :
    ∃ frame, Frame.ofJson? v = some frame ∧ frame.changes endpoint = .ok changes := by
  obtain ⟨fields, hfields, hresult, herror⟩ := h.fields?_eq 2
  have herror : fields.orDefault? "error" (Json.nullable? errorMessage?) none = some none := by
    refine herror.orDefault?_eq (fun v hv => ?_) fun _ => rfl
    rw [hv]
    rfl
  obtain ⟨result, hresult, hchanges⟩ : ∃ result,
      fields.orDefault? "result" (Json.nullable? WatchResult.ofJson?) none = some result ∧
      { result, error := none : Frame }.changes endpoint = .ok changes := by
    refine hresult.exists_orDefault?_eq (fun v hv => ?_) ?_
    · rcases hv with hv | ⟨rfl, rfl⟩
      · obtain ⟨result, hread, hcanceled, hdecode⟩ := hv.ofJson?_eq
        refine ⟨some result, Json.nullable?_eq_some rfl hread, ?_⟩
        simp only [Frame.changes, hcanceled, hdecode]
        rfl
      · exact ⟨none, rfl, rfl⟩
    · rintro rfl
      rfl
  refine ⟨_, ?_, hchanges⟩
  rw [Frame.ofJson?, hfields]
  simp only [Option.bind_eq_bind, Option.bind_some, hresult, herror, Option.pure_def]

theorem HeaderShown.headerRevision?_eq {revision : Int64} {v : Json} (h : HeaderShown revision v) :
    headerRevision? v = some revision := by
  obtain ⟨fields, hfields, hrevision⟩ := h.fields?_eq 0
  rw [headerRevision?, hfields]
  exact hrevision.orDefault?_eq (fun _ h => h.integer?_eq) id

/-- An answer says what it shows: the first pair and the revision. -/
theorem AnswerShown.fetched_eq {kvs : List KeyValue} {revision : Int64} {v : Json}
    (h : AnswerShown kvs revision v) :
    ∃ answer, RangeAnswer.ofJson? v = some answer ∧
      answer.fetched = .ok { kv := kvs.head?, revision } := by
  obtain ⟨fields, hfields, hheader, hkvs⟩ := h.fields?_eq 1
  obtain ⟨told, hheader, hrevision⟩ : ∃ told,
      fields.orDefault? "header" (Json.nullable? headerRevision?) none = some told ∧
      told.getD 0 = revision := by
    refine hheader.exists_orDefault?_eq (fun v hv => ?_) Eq.symm
    rcases hv with hv | ⟨rfl, hzero⟩
    · exact ⟨some revision, Json.nullable?_eq_some rfl hv.headerRevision?_eq, rfl⟩
    · exact ⟨none, rfl, hzero.symm⟩
  obtain ⟨sent, hkvs, hdecode⟩ : ∃ sent,
      fields.orDefault? "kvs" (Json.list? SentKeyValue.ofJson?) [] = some sent ∧
      List.Forall₂ (fun kv sent => sent.decode = .ok kv) kvs sent := by
    refine hkvs.exists_orDefault?_eq (fun _ h => h.list?_eq fun _ _ h => h.ofJson?_eq) ?_
    rintro rfl
    exact .nil
  refine ⟨{ revision := told, kvs := sent }, ?_, ?_⟩
  · rw [RangeAnswer.ofJson?, hfields]
    simp only [Option.bind_eq_bind, Option.bind_some, hheader, hkvs, Option.pure_def]
  · cases hdecode with
    | nil => simp only [RangeAnswer.fetched, hrevision, List.head?_nil]
    | cons first others =>
      simp only [RangeAnswer.fetched, hrevision, first, List.head?_cons]
      rfl

end FlashSale.Etcd
