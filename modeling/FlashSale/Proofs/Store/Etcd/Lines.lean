import FlashSale.Proofs.Outcome
import FlashSale.Proofs.Sequence
import FlashSale.Proofs.Text.Base64
import FlashSale.Proofs.Text.Pieces
import FlashSale.Proofs.Text.Utf8
import FlashSale.Store.Etcd.Client
import FlashSale.Store.Etcd.Stream

/-! # The lines of a watch

    A line of a watch tells changes or ends the watch with an error, and never
    both.  It ends the watch if it is no text, if it is no frame, if the frame
    tells of an error or that the watch was canceled, or if one of its events
    cannot be read; then none of its events counts.  So whoever listens is told
    the changes of all lines before the first of these, and then its error. -/

namespace FlashSale.Etcd

open Text

/-! ### Pairs and events -/

/-- The pair has its key and its value in base64. -/
inductive SentKeyValue.Tells (kv : SentKeyValue) : KeyValue → Prop
  | mk {key value : Bytes} (key_eq : kv.key.toList = Base64.encode key)
    (value_eq : kv.value.toList = Base64.encode value) :
    Tells kv { key := String.ofList (utf8DecodeLossy key), value, revision := kv.modRevision }

/-- The key is not in base64, or the value is not. -/
inductive SentKeyValue.Fails (kv : SentKeyValue) : Defect → Prop
  | key (bad : ∀ bs, kv.key.toList ≠ Base64.encode bs) : Fails kv .badKey
  | value {key : Bytes} (key_eq : kv.key.toList = Base64.encode key)
    (bad : ∀ bs, kv.value.toList ≠ Base64.encode bs) : Fails kv .badValue

/-- The event is a put or a delete.  Without a type it is a put. -/
inductive SentEvent.Tells (e : SentEvent) : Change → Prop
  | put {kv : KeyValue} (pair : e.kv.Tells kv) (type : e.type = none ∨ e.type = some "PUT") :
    Tells e (.put kv)
  | delete {kv : KeyValue} (pair : e.kv.Tells kv) (type : e.type = some "DELETE") :
    Tells e (.delete kv.key kv.revision)

/-- The pair of the event cannot be read, or its type is not known. -/
inductive SentEvent.Fails (e : SentEvent) : Defect → Prop
  | pair {defect : Defect} (bad : e.kv.Fails defect) : Fails e defect
  | type {kv : KeyValue} {type : String} (pair : e.kv.Tells kv) (type_eq : e.type = some type)
    (unknown : type ≠ "PUT" ∧ type ≠ "DELETE") : Fails e (.unknownEvent type)

theorem SentKeyValue.decode_eq_ok_iff {sent : SentKeyValue} {kv : KeyValue} :
    sent.decode = .ok kv ↔ sent.Tells kv := by
  constructor
  · intro h
    unfold SentKeyValue.decode at h
    split at h
    · cases h
    next key hkey =>
    split at h
    · cases h
    next value hvalue =>
    obtain rfl := Except.ok.inj h
    exact .mk (Base64.decode?_eq_some_iff.mp hkey) (Base64.decode?_eq_some_iff.mp hvalue)
  · rintro ⟨hkey, hvalue⟩
    rw [SentKeyValue.decode, Base64.decode?_eq_some_iff.mpr hkey,
      Base64.decode?_eq_some_iff.mpr hvalue]

theorem SentKeyValue.decode_eq_error_iff {sent : SentKeyValue} {defect : Defect} :
    sent.decode = .error defect ↔ sent.Fails defect := by
  constructor
  · intro h
    unfold SentKeyValue.decode at h
    split at h
    · next hkey =>
      obtain rfl := Except.error.inj h
      exact .key (Base64.decode?_eq_none_iff.mp hkey)
    next key hkey =>
    split at h
    · next hvalue =>
      obtain rfl := Except.error.inj h
      exact .value (Base64.decode?_eq_some_iff.mp hkey) (Base64.decode?_eq_none_iff.mp hvalue)
    · cases h
  · rintro (hkey | ⟨hkey, hvalue⟩)
    · rw [SentKeyValue.decode, Base64.decode?_eq_none_iff.mpr hkey]
    · rw [SentKeyValue.decode, Base64.decode?_eq_some_iff.mpr hkey,
        Base64.decode?_eq_none_iff.mpr hvalue]

theorem SentEvent.decode_eq_ok_iff {e : SentEvent} {change : Change} :
    e.decode = .ok change ↔ e.Tells change := by
  constructor
  · intro h
    unfold SentEvent.decode at h
    split at h
    · cases h
    next kv hkv =>
    have hpair := SentKeyValue.decode_eq_ok_iff.mp hkv
    split at h
    · next htype =>
      obtain rfl := Except.ok.inj h
      exact .put hpair (.inl htype)
    next type htype =>
    split at h
    · next hput =>
      obtain rfl := Except.ok.inj h
      exact .put hpair (.inr (htype.trans (congrArg some hput)))
    split at h
    · next hdelete =>
      obtain rfl := Except.ok.inj h
      exact .delete hpair (htype.trans (congrArg some hdelete))
    · cases h
  · rintro (⟨hpair, htype | htype⟩ | ⟨hpair, htype⟩)
    · rw [SentEvent.decode, SentKeyValue.decode_eq_ok_iff.mpr hpair, htype]
    · rw [SentEvent.decode, SentKeyValue.decode_eq_ok_iff.mpr hpair, htype]
      rfl
    · rw [SentEvent.decode, SentKeyValue.decode_eq_ok_iff.mpr hpair, htype]
      rfl

theorem SentEvent.decode_eq_error_iff {e : SentEvent} {defect : Defect} :
    e.decode = .error defect ↔ e.Fails defect := by
  constructor
  · intro h
    unfold SentEvent.decode at h
    split at h
    · next hkv =>
      obtain rfl := Except.error.inj h
      exact .pair (SentKeyValue.decode_eq_error_iff.mp hkv)
    next kv hkv =>
    split at h
    · cases h
    next type htype =>
    split at h
    · cases h
    next hput =>
    split at h
    · cases h
    next hdelete =>
    obtain rfl := Except.error.inj h
    exact .type (SentKeyValue.decode_eq_ok_iff.mp hkv) htype ⟨hput, hdelete⟩
  · rintro (hbad | ⟨hpair, htype, hput, hdelete⟩)
    · rw [SentEvent.decode, SentKeyValue.decode_eq_error_iff.mpr hbad]
    · rw [SentEvent.decode, SentKeyValue.decode_eq_ok_iff.mpr hpair, htype]
      simp only [if_neg hput, if_neg hdelete]

/-! ### Frames -/

/-- The frame tells changes: it has no result, or one with events all of which
    can be read. -/
inductive Frame.Tells (f : Frame) : List Change → Prop
  | nothing (noError : f.error = none) (noResult : f.result = none) : Tells f []
  | events {result : WatchResult} {changes : List Change} (noError : f.error = none)
    (result_eq : f.result = some result) (goesOn : result.canceled = false)
    (told : List.Forall₂ SentEvent.Tells result.events changes) : Tells f changes

/-- The frame ends the watch: with an error that it carries, or by being
    canceled, or by the first of its events that cannot be read. -/
inductive Frame.Fails (endpoint : String) (f : Frame) : StoreError → Prop
  | error {message : String} (error_eq : f.error = some message) :
    Fails endpoint f (.protocol endpoint (.reported message))
  | canceled {result : WatchResult} (noError : f.error = none) (result_eq : f.result = some result)
    (canceled : result.canceled = true) : Fails endpoint f (.canceled result.reason)
  | event {result : WatchResult} {before after : List SentEvent} {e : SentEvent}
    {changes : List Change} {defect : Defect} (noError : f.error = none)
    (result_eq : f.result = some result) (goesOn : result.canceled = false)
    (events_eq : result.events = before ++ e :: after)
    (told : List.Forall₂ SentEvent.Tells before changes) (bad : e.Fails defect) :
    Fails endpoint f (.protocol endpoint defect)

variable {endpoint : String}

theorem SentEvent.tells_eq : SentEvent.Tells = fun e change => e.decode = .ok change :=
  funext₂ fun _ _ => propext SentEvent.decode_eq_ok_iff.symm

/-- The events of a result are read whole. -/
theorem WatchResult.decode_eq_ok_iff {result : WatchResult} {changes : List Change} :
    (result.events.mapM SentEvent.decode).mapError (StoreError.protocol endpoint) = .ok changes ↔
      List.Forall₂ SentEvent.Tells result.events changes := by
  rw [SentEvent.tells_eq, ← mapM_eq_ok_iff, mapError_eq_ok_iff]

theorem WatchResult.decode_eq_error_iff {result : WatchResult} {error : StoreError} :
    (result.events.mapM SentEvent.decode).mapError (StoreError.protocol endpoint) =
        .error error ↔
      ∃ before e after changes defect, result.events = before ++ e :: after ∧
        List.Forall₂ SentEvent.Tells before changes ∧ SentEvent.Fails e defect ∧
        error = .protocol endpoint defect := by
  rw [SentEvent.tells_eq, mapError_eq_error_iff]
  constructor
  · intro h
    obtain ⟨defect, hevents, rfl⟩ := h
    obtain ⟨before, e, after, changes, hsplit, htold, hbad⟩ := mapM_eq_error_iff.mp hevents
    exact ⟨before, e, after, changes, defect, hsplit, htold,
      SentEvent.decode_eq_error_iff.mp hbad, rfl⟩
  · intro h
    obtain ⟨before, e, after, changes, defect, hsplit, htold, hbad, rfl⟩ := h
    exact ⟨defect, mapM_eq_error_iff.mpr
      ⟨before, e, after, changes, hsplit, htold, SentEvent.decode_eq_error_iff.mpr hbad⟩, rfl⟩

theorem Frame.changes_eq_ok_iff {f : Frame} {changes : List Change} :
    f.changes endpoint = .ok changes ↔ f.Tells changes := by
  constructor
  · intro h
    unfold Frame.changes at h
    split at h
    · cases h
    next hnoError =>
    split at h
    · next hnoResult =>
      obtain rfl := Except.ok.inj h
      exact .nothing hnoError hnoResult
    next result hresult =>
    split at h
    · cases h
    next hgoesOn =>
    exact .events hnoError hresult (eq_false_of_ne_true hgoesOn)
      (WatchResult.decode_eq_ok_iff.mp h)
  · rintro (⟨hnoError, hnoResult⟩ | ⟨hnoError, hresult, hgoesOn, htold⟩)
    · rw [Frame.changes, hnoError, hnoResult]
    · rw [Frame.changes, hnoError, hresult]
      simp only [hgoesOn, Bool.false_eq_true, if_false]
      exact WatchResult.decode_eq_ok_iff.mpr htold

theorem Frame.changes_eq_error_iff {f : Frame} {error : StoreError} :
    f.changes endpoint = .error error ↔ f.Fails endpoint error := by
  constructor
  · intro h
    unfold Frame.changes at h
    split at h
    · next message herror =>
      obtain rfl := Except.error.inj h
      exact .error herror
    next hnoError =>
    split at h
    · cases h
    next result hresult =>
    split at h
    · next hcanceled =>
      obtain rfl := Except.error.inj h
      exact .canceled hnoError hresult hcanceled
    next hgoesOn =>
    obtain ⟨before, e, after, changes, defect, hsplit, htold, hbad, rfl⟩ :=
      WatchResult.decode_eq_error_iff.mp h
    exact .event hnoError hresult (eq_false_of_ne_true hgoesOn) hsplit htold hbad
  · intro h
    cases h with
    | error herror => rw [Frame.changes, herror]
    | canceled hnoError hresult hcanceled =>
      rw [Frame.changes, hnoError, hresult]
      simp only [hcanceled, if_true]
    | event hnoError hresult hgoesOn hsplit htold hbad =>
      rw [Frame.changes, hnoError, hresult]
      simp only [hgoesOn, Bool.false_eq_true, if_false]
      exact WatchResult.decode_eq_error_iff.mpr ⟨_, _, _, _, _, hsplit, htold, hbad, rfl⟩

/-! ### Lines -/

/-- The line is a text that holds more than white space, and it is read as the
    frame, or as none. -/
structure LineIs (line : Bytes) (f? : Option Frame) : Prop where
  worded : ∃ cs, utf8Encode cs = line ∧ ∃ c ∈ cs, isBlank c = false
  read : (Json.parse? line).bind Frame.ofJson? = f?

/-- The line tells changes.  A blank one tells none. -/
inductive LineTells (line : Bytes) : List Change → Prop
  | blank {cs : List Char} (text : utf8Encode cs = line)
    (blank : ∀ c ∈ cs, isBlank c = true) : LineTells line []
  | frame {f : Frame} {changes : List Change} (is : LineIs line (some f)) (told : f.Tells changes) :
    LineTells line changes

/-- The line ends the watch. -/
inductive LineFails (endpoint : String) (line : Bytes) : StoreError → Prop
  | noText (noText : ∀ cs, utf8Encode cs ≠ line) : LineFails endpoint line (.broken endpoint)
  | noFrame (is : LineIs line none) : LineFails endpoint line (.protocol endpoint .unreadable)
  | frame {f : Frame} {error : StoreError} (is : LineIs line (some f))
    (failed : f.Fails endpoint error) : LineFails endpoint line error

variable {line : Bytes} {changes : List Change}

/-- The text is looked at first: without one nothing else matters. -/
theorem readLine_noText (h : ∀ cs, utf8Encode cs ≠ line) :
    readLine endpoint line = .error (.broken endpoint) := by
  rw [readLine, utf8Decode?_eq_none_iff.mpr h]

theorem readLine_blank {cs : List Char} (htext : utf8Encode cs = line)
    (hblank : ∀ c ∈ cs, isBlank c = true) : readLine endpoint line = .ok [] := by
  rw [readLine, utf8Decode?_eq_some_iff.mpr htext]
  simp only [trim_eq_nil_iff.mpr hblank, List.isEmpty_nil, if_true]

theorem LineIs.readLine_eq {f? : Option Frame} (h : LineIs line f?) :
    readLine endpoint line =
      f?.elim (.error (.protocol endpoint .unreadable)) (Frame.changes endpoint) := by
  obtain ⟨⟨cs, htext, c, hc, hworded⟩, hread⟩ := h
  -- What is no white space is not cut off, so the line is not passed over.
  have htrim : trim cs ≠ [] := by
    intro hnil
    rw [trim_eq_nil_iff.mp hnil c hc] at hworded
    cases hworded
  have hempty : (trim cs).isEmpty = false := by simpa using htrim
  rw [readLine, utf8Decode?_eq_some_iff.mpr htext]
  simp only [hempty, Bool.false_eq_true, if_false, hread]
  cases f? <;> rfl

/-- A line is no text, or blank, or it is read as a frame or as none. -/
theorem line_cases (line : Bytes) :
    (∀ cs, utf8Encode cs ≠ line) ∨
      (∃ cs, utf8Encode cs = line ∧ ∀ c ∈ cs, isBlank c = true) ∨ ∃ f?, LineIs line f? := by
  by_cases htext : ∃ cs, utf8Encode cs = line
  · obtain ⟨cs, hcs⟩ := htext
    by_cases hblank : ∀ c ∈ cs, isBlank c = true
    · exact .inr (.inl ⟨cs, hcs, hblank⟩)
    · exact .inr (.inr ⟨_, ⟨cs, hcs, by simpa using hblank⟩, rfl⟩)
  · exact .inl (not_exists.mp htext)

/-- A line tells changes exactly if they are read from it. -/
theorem readLine_eq_ok_iff : readLine endpoint line = .ok changes ↔ LineTells line changes := by
  constructor
  · intro h
    obtain hnoText | ⟨cs, htext, hblank⟩ | ⟨f?, his⟩ := line_cases line
    · rw [readLine_noText hnoText] at h
      cases h
    · rw [readLine_blank htext hblank] at h
      obtain rfl := Except.ok.inj h
      exact .blank htext hblank
    · rw [his.readLine_eq] at h
      cases f? with
      | none => cases h
      | some f => exact .frame his (Frame.changes_eq_ok_iff.mp h)
  · rintro (⟨htext, hblank⟩ | ⟨his, htold⟩)
    · exact readLine_blank htext hblank
    · rw [his.readLine_eq]
      exact Frame.changes_eq_ok_iff.mpr htold

/-- And it ends the watch exactly if it cannot be read. -/
theorem readLine_eq_error_iff {error : StoreError} :
    readLine endpoint line = .error error ↔ LineFails endpoint line error := by
  constructor
  · intro h
    obtain hnoText | ⟨cs, htext, hblank⟩ | ⟨f?, his⟩ := line_cases line
    · rw [readLine_noText hnoText] at h
      obtain rfl := Except.error.inj h
      exact .noText hnoText
    · rw [readLine_blank htext hblank] at h
      cases h
    · rw [his.readLine_eq] at h
      cases f? with
      | none =>
        obtain rfl := Except.error.inj h
        exact .noFrame his
      | some f => exact .frame his (Frame.changes_eq_error_iff.mp h)
  · rintro (hnoText | his | ⟨his, hfailed⟩)
    · exact readLine_noText hnoText
    · exact his.readLine_eq
    · rw [his.readLine_eq]
      exact Frame.changes_eq_error_iff.mpr hfailed

/-- A line tells the same whenever it tells something. -/
theorem rightUnique_lineTells : Relator.RightUnique LineTells := by
  intro line changes others h hothers
  have hread : readLine default line = .ok changes := readLine_eq_ok_iff.mpr h
  rw [readLine_eq_ok_iff.mpr hothers] at hread
  exact (Except.ok.inj hread).symm

/-- It does not end the watch then. -/
theorem LineTells.not_fails (h : LineTells line changes) (error : StoreError) :
    ¬LineFails endpoint line error := by
  rw [← readLine_eq_error_iff, readLine_eq_ok_iff.mpr h]
  exact nofun

/-! ### Bodies -/

/-- The lines of a body are what its line feeds end, and what is left behind the
    last of them if the body is complete. -/
theorem linesOf_intercalate {complete : Bool} {lines : List Bytes} {rest : Bytes}
    (hfeed : ∀ line ∈ lines ++ [rest], 0x0A ∉ line) :
    linesOf complete ([0x0A].intercalate (lines ++ [rest])) =
      lines.map dropReturn ++ if complete && !rest.isEmpty then [rest] else [] := by
  have hsplit : ([0x0A].intercalate (lines ++ [rest])).splitOn 0x0A = lines ++ [rest] :=
    List.splitOn_intercalate 0x0A hfeed (by simp)
  simp only [linesOf, hsplit, List.dropLast_concat, List.getLast?_concat, Option.getD_some]

variable {ending : StoreError} {before : List Bytes} {batches : List (List Change)}

/-- Lines that do not end the watch tell changes. -/
theorem exists_tells (h : ∀ line ∈ before, ∀ error, ¬LineFails endpoint line error) :
    ∃ batches, List.Forall₂ LineTells before batches := by
  refine exists_forall₂ fun line hline => ?_
  cases hread : readLine endpoint line with
  | ok changes => exact ⟨changes, readLine_eq_ok_iff.mp hread⟩
  | error error => exact absurd (readLine_eq_error_iff.mp hread) (h line hline error)

/-- Their changes come first, one line after the other. -/
theorem messagesOfLines_append (h : List.Forall₂ LineTells before batches) (rest : List Bytes) :
    messagesOfLines endpoint ending (before ++ rest) =
      batches.flatten.map .ok ++ messagesOfLines endpoint ending rest := by
  induction h with
  | nil => rfl
  | cons first _ ih =>
    rw [List.cons_append, messagesOfLines, readLine_eq_ok_iff.mpr first, List.flatten_cons,
      List.map_append, List.append_assoc, ← ih]

/-- Of a watch are told the changes of all lines before the first one that ends
    it, in their order and each of them once, and then the error of this line;
    nothing of the line itself or of what is behind it.  If no line ends the
    watch, the changes of all lines are told, and then that it was closed, or
    broken if the body is not complete. -/
theorem messages_up_to_failure (endpoint : String) (complete : Bool) (body : Bytes) :
    (∀ before line after error, linesOf complete body = before ++ line :: after →
      (∀ earlier ∈ before, ∀ error, ¬LineFails endpoint earlier error) →
      LineFails endpoint line error →
      ∃ batches, List.Forall₂ LineTells before batches ∧
        messagesOf endpoint complete body = batches.flatten.map .ok ++ [.error error]) ∧
    ((∀ line ∈ linesOf complete body, ∀ error, ¬LineFails endpoint line error) →
      ∃ batches, List.Forall₂ LineTells (linesOf complete body) batches ∧
        messagesOf endpoint complete body =
          batches.flatten.map .ok ++ [.error (if complete then .closed else .broken endpoint)]) := by
  constructor
  · -- The lines before it are told; with its error the messages end.
    intro before line after error hlines hbefore hfails
    obtain ⟨batches, htold⟩ := exists_tells hbefore
    refine ⟨batches, htold, ?_⟩
    rw [messagesOf, hlines, messagesOfLines_append htold, messagesOfLines,
      readLine_eq_error_iff.mpr hfails]
  · -- All lines are told, and nothing is left but the end of the body.
    intro hlines
    obtain ⟨batches, htold⟩ := exists_tells hlines
    refine ⟨batches, htold, ?_⟩
    rw [messagesOf, ← List.append_nil (linesOf complete body), messagesOfLines_append htold,
      messagesOfLines]

/-- An event of an unknown type takes with it the put before it in its frame, and
    all that is behind it; without it everything is told. -/
theorem messages_up_to_failure_unknown_event :
    let endpoint := "http://etcd:2379"
    let event (type : String) : Json := .ofMembers [("type", .ofString type),
      ("kv", .ofMembers [("key", inBase64 "/k"), ("mod_revision", .ofInt 7)])]
    let frame (events : List Json) : Bytes :=
      (Json.ofMembers [("result", .ofMembers [("events", .array events)])]).render
    let good := frame [event "PUT", event "DELETE"]
    let bad := frame [event "PUT", event "MOVE"]
    let told : List Change := [.put { key := "/k", value := [], revision := 7 }, .delete "/k" 7]
    let error : StoreError := .protocol endpoint (.unknownEvent "MOVE")
    LineFails endpoint bad error ∧
      messagesOf endpoint true ([0x0A].intercalate [good ++ [0x0D], [0x20], bad, good]) =
        told.map .ok ++ [.error error] ∧
      messagesOf endpoint true ([0x0A].intercalate [good ++ [0x0D], [0x20], good]) =
        (told ++ told).map .ok ++ [.error .closed] := by
  intro endpoint event frame good bad told error
  have hgood : LineTells good told :=
    readLine_eq_ok_iff.mp (show readLine endpoint good = .ok told by decide +kernel)
  have hspace : LineTells [0x20] [] :=
    readLine_eq_ok_iff.mp (show readLine endpoint [0x20] = .ok [] by decide +kernel)
  have hbad : LineFails endpoint bad error := readLine_eq_error_iff.mp (by decide +kernel)
  have hearlier : List.Forall₂ LineTells [good, [0x20]] [told, []] := .cons hgood (.cons hspace .nil)
  have hall : List.Forall₂ LineTells [good, [0x20], good] [told, [], told] :=
    .cons hgood (.cons hspace (.cons hgood .nil))
  have honly := rightUnique_lineTells.forall₂
  refine ⟨hbad, ?_, ?_⟩
  · have hup := (messages_up_to_failure endpoint true
      ([0x0A].intercalate [good ++ [0x0D], [0x20], bad, good])).1
    obtain ⟨batches, htold, hmessages⟩ := hup [good, [0x20]] bad [good] error
      (by decide +kernel) (by simpa using ⟨hgood.not_fails, hspace.not_fails⟩) hbad
    obtain rfl := honly htold hearlier
    exact hmessages
  · have hlines : linesOf true ([0x0A].intercalate [good ++ [0x0D], [0x20], good]) =
        [good, [0x20], good] := by decide +kernel
    have hup := (messages_up_to_failure endpoint true
      ([0x0A].intercalate [good ++ [0x0D], [0x20], good])).2
    rw [hlines] at hup
    obtain ⟨batches, htold, hmessages⟩ :=
      hup (by simpa using ⟨hgood.not_fails, hspace.not_fails, hgood.not_fails⟩)
    obtain rfl := honly htold hall
    exact hmessages

end FlashSale.Etcd
