import FlashSale.Proofs.Json.Grammar

/-! # Whatever the grammar allows is read

    The reader takes a text byte by byte and keeps the open containers on a
    stack.  A value that starts with some stack below it leaves this stack as
    it was, so each rule of the grammar is a stretch of a run, and stretches
    are put together as the rules are. -/

namespace FlashSale.Json

open Text

namespace Reader

/-! ### Runs -/

theorem run_append (s : State) (xs ys : Bytes) :
    run s (xs ++ ys) = (run s xs).bind fun s => run s ys := by
  induction xs generalizing s with
  | nil => rfl
  | cons x xs ih =>
    rw [List.cons_append, run, run]
    cases step s x with
    | none => rfl
    | some s => exact ih s

/-- A run that has come to a state goes on from there. -/
theorem run_append_of_run_eq {s s' : State} {xs : Bytes} (h : run s xs = some s') (ys : Bytes) :
    run s (xs ++ ys) = run s' ys := by
  rw [run_append, h, Option.bind_some]

theorem run_cons_of_step_eq {s s' : State} {b : UInt8} (h : step s b = some s') (bs : Bytes) :
    run s (b :: bs) = run s' bs := by
  rw [run, h, Option.bind_some]

/-! ### White space -/

theorem isSpace_of_mem {ws : Bytes} (h : IsSpace ws) {b : UInt8} (hb : b ∈ ws) :
    isSpace b = true := by
  rcases h b hb with rfl | rfl | rfl | rfl <;> decide

/-- The modes in which white space may stand. -/
def Mode.IsBetween : Mode → Prop
  | .literal _ _ | .number _ _ | .string _ _ _ => False
  | _ => True

theorem step_of_isBetween {s : State} (h : s.mode.IsBetween) (b : UInt8) :
    step s b = stepBetween s b := by
  unfold step
  cases hmode : s.mode <;> simp_all [Mode.IsBetween]

/-- White space that may stand somewhere changes nothing. -/
theorem run_space {s : State} (h : s.mode.IsBetween) {ws : Bytes} (hws : IsSpace ws) :
    run s ws = some s := by
  induction ws with
  | nil => rfl
  | cons b ws ih =>
    have hb : isSpace b = true := isSpace_of_mem hws List.mem_cons_self
    have hstep : step s b = some s := by
      rw [step_of_isBetween h, stepBetween, if_pos hb]
    rw [run_cons_of_step_eq hstep]
    exact ih fun c hc => hws c (List.mem_cons_of_mem _ hc)

/-! ### Values that have been taken -/

/-- A state in which a value has been taken: it is in its place already, or it
    is a number that the next byte ends. -/
inductive Taken (stack : List Frame) : Json → State → Prop
  | placed (v : Json) : Taken stack v (complete stack v)
  | number {part : NumberPart} (text : Bytes) (complete : part.complete = true) :
    Taken stack (.number text.reverse) { stack, mode := .number part text }

theorem isBetween_complete (stack : List Frame) (v : Json) :
    (complete stack v).mode.IsBetween := by
  unfold complete
  split <;> trivial

/-- What may stand directly behind a value inside a container, or white space. -/
def EndsValue (b : UInt8) : Prop :=
  b = 0x2C ∨ b = 0x5D ∨ b = 0x7D ∨ b = 0x20 ∨ b = 0x09 ∨ b = 0x0A ∨ b = 0x0D

instance (b : UInt8) : Decidable (EndsValue b) :=
  inferInstanceAs (Decidable (_ ∨ _))

/-- No number goes on with such a byte. -/
theorem next?_of_endsValue (part : NumberPart) {b : UInt8} (hb : EndsValue b) :
    part.next? b = none := by
  rcases hb with rfl | rfl | rfl | rfl | rfl | rfl | rfl <;> cases part <;> rfl

/-- A byte behind a value finds the value in its place. -/
theorem Taken.step_eq {stack : List Frame} {v : Json} {s : State} (h : Taken stack v s) {b : UInt8}
    (hb : EndsValue b) : step s b = stepBetween (complete stack v) b := by
  cases h with
  | placed v => exact step_of_isBetween (isBetween_complete stack v) b
  | number text hcomplete => simp [step, next?_of_endsValue _ hb, hcomplete]

/-- White space may follow. -/
theorem Taken.run_space {stack : List Frame} {v : Json} {s : State} (h : Taken stack v s)
    {ws : Bytes} (hws : IsSpace ws) : ∃ s', run s ws = some s' ∧ Taken stack v s' := by
  cases ws with
  | nil => exact ⟨s, rfl, h⟩
  | cons b ws =>
    have hb : EndsValue b := .inr (.inr (.inr (hws b List.mem_cons_self)))
    have hstep : step s b = some (complete stack v) := by
      rw [h.step_eq hb, stepBetween, if_pos (isSpace_of_mem hws List.mem_cons_self)]
    refine ⟨complete stack v, ?_, .placed v⟩
    rw [run_cons_of_step_eq hstep]
    exact Reader.run_space (isBetween_complete stack v) fun c hc => hws c (List.mem_cons_of_mem _ hc)

/-- A value with nothing around it is the value of the text. -/
theorem Taken.finish_eq {v : Json} {s : State} (h : Taken [] v s) : finish s = some v := by
  cases h with
  | placed v => rfl
  | number text hcomplete => simp [finish, hcomplete]

/-! ### Numbers -/

/-- The part that is reached with some more bytes of a number. -/
def NumberPart.after? (part : NumberPart) (bs : Bytes) : Option NumberPart :=
  bs.foldlM NumberPart.next? part

theorem NumberPart.after?_append (part : NumberPart) (xs ys : Bytes) :
    part.after? (xs ++ ys) = (part.after? xs).bind fun part => part.after? ys :=
  List.foldlM_append

theorem run_number (stack : List Frame) {part part' : NumberPart} {bs : Bytes}
    (h : part.after? bs = some part') (text : Bytes) :
    run { stack, mode := .number part text } bs =
      some { stack, mode := .number part' (bs.reverse ++ text) } := by
  induction bs generalizing part text with
  | nil =>
    obtain rfl : part = part' := Option.some.inj h
    rfl
  | cons b bs ih =>
    cases hnext : part.next? b with
    | none => simp [NumberPart.after?, hnext] at h
    | some next =>
      have hrest : next.after? bs = some part' := by simpa [NumberPart.after?, hnext] using h
      have hstep : step { stack, mode := .number part text } b =
          some { stack, mode := .number next (b :: text) } := by
        simp [step, hnext]
      rw [run_cons_of_step_eq hstep, ih hrest, List.reverse_cons, List.append_assoc]
      rfl

theorem isDigit_iff {b : UInt8} : isDigit b = true ↔ 0x30 ≤ b ∧ b ≤ 0x39 := by
  simp [isDigit]

/-- The parts that go on with any digit. -/
def NumberPart.TakesDigits : NumberPart → Prop
  | .whole | .fraction | .exponentDigits => True
  | _ => False

theorem NumberPart.after?_digits {part : NumberPart} (hpart : part.TakesDigits) {ds : Bytes}
    (hds : AllDigits ds) : part.after? ds = some part := by
  induction ds with
  | nil => rfl
  | cons d ds ih =>
    have hd : isDigit d = true := isDigit_iff.mpr (hds d List.mem_cons_self)
    have hnext : part.next? d = some part := by
      cases part <;> simp_all [NumberPart.TakesDigits, NumberPart.next?]
    rw [NumberPart.after?, List.foldlM_cons, hnext]
    exact ih fun c hc => hds c (List.mem_cons_of_mem _ hc)

/-- The first of some digits leads to a part that takes the others. -/
theorem NumberPart.after?_of_first {part part' : NumberPart} (hpart' : part'.TakesDigits)
    (hfirst : ∀ d, isDigit d = true → part.next? d = some part') {ds : Bytes} (hne : ds ≠ [])
    (hds : AllDigits ds) : part.after? ds = some part' := by
  obtain ⟨d, ds, rfl⟩ := List.exists_cons_of_ne_nil hne
  have hd : isDigit d = true := isDigit_iff.mpr (hds d List.mem_cons_self)
  rw [NumberPart.after?, List.foldlM_cons, hfirst d hd]
  exact NumberPart.after?_digits hpart' fun c hc => hds c (List.mem_cons_of_mem _ hc)

/-- The first digit of a number that is not zero is no zero. -/
theorem first_ne_zero {d : UInt8} (h : 0x31 ≤ d ∧ d ≤ 0x39) : d ≠ 0x30 ∧ isDigit d = true := by
  obtain ⟨hlow, hhigh⟩ := h
  rw [UInt8.le_iff_toNat_le] at hlow hhigh
  constructor
  · rintro rfl
    exact absurd hlow (by decide)
  · rw [isDigit_iff, UInt8.le_iff_toNat_le, UInt8.le_iff_toNat_le]
    exact ⟨Nat.le_trans (by decide) hlow, hhigh⟩

/-- The digits before the point. -/
theorem NumberPart.after?_whole {whole : Bytes} (h : IsWhole whole) :
    ∃ part : NumberPart, (part = .zero ∨ part = .whole) ∧
      NumberPart.minus.after? whole = some part := by
  cases h with
  | zero => exact ⟨.zero, .inl rfl, rfl⟩
  | @digits d ds hfirst hothers =>
    obtain ⟨hne, hdigit⟩ := first_ne_zero hfirst
    refine ⟨.whole, .inr rfl, ?_⟩
    rw [NumberPart.after?, List.foldlM_cons, NumberPart.next?, if_neg hne, if_pos hdigit]
    have htakes : NumberPart.whole.TakesDigits := trivial
    exact NumberPart.after?_digits htakes hothers

theorem NumberPart.after?_fraction {part : NumberPart} (hpart : part = .zero ∨ part = .whole)
    {fraction : Bytes} (h : IsFraction fraction) :
    ∃ part' : NumberPart, (part' = .zero ∨ part' = .whole ∨ part' = .fraction) ∧
      part.after? fraction = some part' := by
  cases h with
  | none => exact ⟨part, hpart.imp_right .inl, rfl⟩
  | @digits ds hne hds =>
    have hpoint : part.next? 0x2E = some .point := by
      rcases hpart with rfl | rfl <;> rfl
    refine ⟨.fraction, .inr (.inr rfl), ?_⟩
    rw [NumberPart.after?, List.foldlM_cons, hpoint]
    have htakes : NumberPart.fraction.TakesDigits := trivial
    have hbegin : ∀ d, isDigit d = true → NumberPart.point.next? d = some .fraction :=
      fun d hd => if_pos hd
    exact NumberPart.after?_of_first htakes hbegin hne hds

theorem NumberPart.after?_exponent {part : NumberPart}
    (hpart : part = .zero ∨ part = .whole ∨ part = .fraction) {exponent : Bytes}
    (h : IsExponent exponent) :
    ∃ part' : NumberPart, part'.complete = true ∧ part.after? exponent = some part' := by
  cases h with
  | none =>
    refine ⟨part, ?_, rfl⟩
    rcases hpart with rfl | rfl | rfl <;> rfl
  | @digits e sign ds hletter hsigned hne hds =>
    have hexponent : part.next? e = some .exponent := by
      rcases hletter with rfl | rfl <;> rcases hpart with rfl | rfl | rfl <;> rfl
    refine ⟨.exponentDigits, rfl, ?_⟩
    rw [NumberPart.after?, List.foldlM_cons, hexponent]
    show NumberPart.exponent.after? (sign ++ ds) = _
    rw [NumberPart.after?_append]
    have htakes : NumberPart.exponentDigits.TakesDigits := trivial
    have hbegin : ∀ d, isDigit d = true → NumberPart.exponentSign.next? d = some .exponentDigits :=
      fun d hd => if_pos hd
    have hbehind : NumberPart.exponentSign.after? ds = some .exponentDigits :=
      NumberPart.after?_of_first htakes hbegin hne hds
    rcases hsigned with rfl | rfl | rfl
    · -- Without a sign the first digit comes directly behind the letter.
      refine NumberPart.after?_of_first htakes (fun d hd => ?_) hne hds
      have hsign : ¬(d = 0x2B ∨ d = 0x2D) := by
        rintro (rfl | rfl) <;> exact absurd hd (by decide)
      rw [NumberPart.next?, if_neg hsign, if_pos hd]
    · exact hbehind
    · exact hbehind

/-- The first byte of a number leads to a part from which the others lead to
    one where the number may end. -/
theorem exists_parts_of_isNumber {text : Bytes} (h : IsNumber text) :
    ∃ b rest part part', text = b :: rest ∧ NumberPart.first? b = some part ∧
      part.after? rest = some part' ∧ part'.complete = true := by
  obtain ⟨hsigned, hwhole, hfraction, hexponent⟩ := h
  rename_i sign whole fraction exponent
  obtain ⟨part₁, hpart₁, hrun₁⟩ := NumberPart.after?_whole hwhole
  obtain ⟨part₂, hpart₂, hrun₂⟩ := NumberPart.after?_fraction hpart₁ hfraction
  obtain ⟨part₃, hcomplete, hrun₃⟩ := NumberPart.after?_exponent hpart₂ hexponent
  have hrun : NumberPart.minus.after? (whole ++ (fraction ++ exponent)) = some part₃ := by
    rw [NumberPart.after?_append, hrun₁, Option.bind_some, NumberPart.after?_append, hrun₂,
      Option.bind_some, hrun₃]
  rcases hsigned with rfl | rfl
  · -- Without a minus the first digit is taken as it would be behind one.
    obtain ⟨b, rest, htext⟩ : ∃ b rest, whole ++ (fraction ++ exponent) = b :: rest := by
      cases hwhole with
      | zero => exact ⟨_, _, rfl⟩
      | digits _ _ => exact ⟨_, _, rfl⟩
    rw [List.nil_append, htext]
    rw [htext, NumberPart.after?, List.foldlM_cons] at hrun
    cases hnext : NumberPart.minus.next? b with
    | none => simp [hnext] at hrun
    | some part =>
      rw [hnext] at hrun
      have hminus : b ≠ 0x2D := by
        rintro rfl
        cases hnext
      have hfirst : NumberPart.first? b = some part := by
        rw [NumberPart.first?, if_neg hminus, ← hnext, NumberPart.next?]
      exact ⟨b, rest, part, part₃, rfl, hfirst, hrun, hcomplete⟩
  · exact ⟨0x2D, _, .minus, part₃, rfl, rfl, hrun, hcomplete⟩

/-! ### Strings -/

/-- A piece of a string is taken. -/
theorem run_piece (stack : List Frame) (isName : Bool) (content : List Piece) {piece : Piece}
    {text : Bytes} (h : piece.WrittenAs text) :
    run { stack, mode := .string isName .plain content } text =
      some { stack, mode := .string isName .plain (piece :: content) } := by
  cases h with
  | @plain b hprinted hquote hbackslash =>
    have hcontrol : ¬ b < 0x20 := UInt8.not_lt.mpr hprinted
    simp [run, step, StringPart.step, hquote, hbackslash, hcontrol]
  | @short letter b hescape =>
    have hbyte : letter ≠ 0x75 ∧ shortEscape? letter = some b := by
      simp only [shortEscapes, List.mem_cons, Prod.mk.injEq, List.not_mem_nil, or_false] at hescape
      rcases hescape with h | h | h | h | h | h | h | h <;> obtain ⟨rfl, rfl⟩ := h <;> decide
    simp [run, step, StringPart.step, hbyte]
  | unit hfirst hsecond hthird hfourth =>
    simp [run, step, StringPart.step, hfirst, hsecond, hthird, hfourth]

theorem run_pieces (stack : List Frame) (isName : Bool) {pieces : List Piece} {text : Bytes}
    (h : PiecesWrittenAs pieces text) (content : List Piece) :
    run { stack, mode := .string isName .plain content } text =
      some { stack, mode := .string isName .plain (pieces.reverse ++ content) } := by
  induction h generalizing content with
  | nil => rfl
  | cons first others ih =>
    rw [run_append_of_run_eq (run_piece stack isName content first), ih, List.reverse_cons,
      List.append_assoc]
    rfl

/-! ### Beginning a value -/

/-- The modes in which a value may begin. -/
inductive Mode.AwaitsValue : Mode → Prop
  | value : AwaitsValue .value
  | firstItem : AwaitsValue .firstItem

theorem Mode.AwaitsValue.isBetween {mode : Mode} (h : mode.AwaitsValue) : mode.IsBetween := by
  cases h <;> trivial

theorem step_of_awaitsValue (stack : List Frame) {mode : Mode} (h : mode.AwaitsValue) {b : UInt8}
    (hspace : isSpace b = false) (hclose : b ≠ 0x5D) :
    step { stack, mode } b = beginValue stack b := by
  cases h <;> simp [step, stepBetween, hspace, hclose]

/-- What is left of a literal is taken. -/
theorem run_literal (stack : List Frame) (v : Json) {left : Bytes} (hne : left ≠ []) :
    run { stack, mode := .literal left v } left = some (complete stack v) := by
  induction left with
  | nil => exact absurd rfl hne
  | cons b rest ih =>
    cases rest with
    | nil => simp [run, step]
    | cons c rest =>
      have hstep : step { stack, mode := .literal (b :: c :: rest) v } b =
          some { stack, mode := .literal (c :: rest) v } := if_pos rfl
      rw [run_cons_of_step_eq hstep]
      exact ih (List.cons_ne_nil _ _)

/-- The first byte of a number is none that begins anything else. -/
theorem beginValue_of_first? (stack : List Frame) {b : UInt8} {part : NumberPart}
    (h : NumberPart.first? b = some part) :
    isSpace b = false ∧ b ≠ 0x5D ∧
      beginValue stack b = some { stack, mode := .number part [b] } := by
  have hne {c : UInt8} (hc : NumberPart.first? c = none) : b ≠ c := by
    rintro rfl
    rw [hc] at h
    cases h
  have hspace : isSpace b = false := by
    simp [isSpace, hne (c := 0x20) rfl, hne (c := 0x09) rfl, hne (c := 0x0A) rfl,
      hne (c := 0x0D) rfl]
  refine ⟨hspace, hne rfl, ?_⟩
  rw [beginValue, if_neg (hne rfl), if_neg (hne rfl), if_neg (hne rfl), if_neg (hne rfl),
    if_neg (hne rfl), if_neg (hne rfl), h]
  rfl

/-- A literal is taken where a value may begin. -/
theorem run_ascii (stack : List Frame) {mode : Mode} (h : mode.AwaitsValue) {b : UInt8}
    {left : Bytes} {v : Json} (hspace : isSpace b = false) (hclose : b ≠ 0x5D)
    (hbegin : beginValue stack b = some { stack, mode := .literal left v }) (hne : left ≠ []) :
    run { stack, mode } (b :: left) = some (complete stack v) := by
  rw [run_cons_of_step_eq ((step_of_awaitsValue stack h hspace hclose).trans hbegin)]
  exact run_literal stack v hne

theorem run_isNumber (stack : List Frame) {mode : Mode} (h : mode.AwaitsValue) {text : Bytes}
    (hnumber : IsNumber text) :
    ∃ s, run { stack, mode } text = some s ∧ Taken stack (.number text) s := by
  obtain ⟨b, rest, part, part', rfl, hfirst, hrest, hcomplete⟩ := exists_parts_of_isNumber hnumber
  obtain ⟨hspace, hclose, hbegin⟩ := beginValue_of_first? stack hfirst
  have hrun : run { stack, mode } (b :: rest) =
      some { stack, mode := .number part' (b :: rest).reverse } := by
    rw [run_cons_of_step_eq ((step_of_awaitsValue stack h hspace hclose).trans hbegin),
      run_number stack hrest, List.reverse_cons]
  have htaken : Taken stack (.number (b :: rest).reverse.reverse)
      { stack, mode := .number part' (b :: rest).reverse } := .number _ hcomplete
  rw [List.reverse_reverse] at htaken
  exact ⟨_, hrun, htaken⟩

/-- A string is taken where a value may begin. -/
theorem run_string (stack : List Frame) {mode : Mode} (h : mode.AwaitsValue)
    {content : List Piece} {text : Bytes} (hpieces : PiecesWrittenAs content text) :
    run { stack, mode } (0x22 :: (text ++ [0x22])) = some (complete stack (.string content)) := by
  have hbegin : step { stack, mode } 0x22 = some { stack, mode := .string false .plain [] } :=
    step_of_awaitsValue stack h rfl (by decide)
  rw [run_cons_of_step_eq hbegin, run_append_of_run_eq (run_pieces stack false hpieces [])]
  simp [run, step, StringPart.step]

/-! ### Containers -/

/-- The modes in which a name may begin. -/
inductive Mode.AwaitsName : Mode → Prop
  | name : AwaitsName .name
  | firstName : AwaitsName .firstName

theorem Mode.AwaitsName.isBetween {mode : Mode} (h : mode.AwaitsName) : mode.IsBetween := by
  cases h <;> trivial

/-- A name and its colon are taken where a name may begin, with white space
    around the name. -/
theorem run_name (stack : List Frame) (before : List (List Piece × Json)) {mode : Mode}
    (h : mode.AwaitsName) {content : List Piece} {ws name between : Bytes} (hws : IsSpace ws)
    (hname : PiecesWrittenAs content name) (hbetween : IsSpace between) (rest : Bytes) :
    run { stack := .members before :: stack, mode }
        (ws ++ 0x22 :: (name ++ 0x22 :: (between ++ 0x3A :: rest))) =
      run { stack := .member before content :: stack, mode := .value } rest := by
  have hbegin : step { stack := .members before :: stack, mode } 0x22 =
      some { stack := .members before :: stack, mode := .string true .plain [] } := by
    cases h <;> rfl
  have hend : step (.mk (.members before :: stack) (.string true .plain (content.reverse ++ []))) 0x22 =
      some { stack := .member before content :: stack, mode := .colon } := by
    simp [step, StringPart.step, endName]
  have hcolon : step { stack := .member before content :: stack, mode := .colon } 0x3A =
      some { stack := .member before content :: stack, mode := .value } := rfl
  rw [run_append_of_run_eq (run_space h.isBetween hws), run_cons_of_step_eq hbegin,
    run_append_of_run_eq (run_pieces _ true hname []), run_cons_of_step_eq hend,
    run_append_of_run_eq (run_space (s := { stack := _, mode := .colon }) trivial hbetween),
    run_cons_of_step_eq hcolon]

theorem step_openArray (stack : List Frame) {mode : Mode} (h : mode.AwaitsValue) :
    step { stack, mode } 0x5B = some { stack := .items [] :: stack, mode := .firstItem } :=
  step_of_awaitsValue stack h rfl (by decide)

theorem step_openObject (stack : List Frame) {mode : Mode} (h : mode.AwaitsValue) :
    step { stack, mode } 0x7B = some { stack := .members [] :: stack, mode := .firstName } :=
  step_of_awaitsValue stack h rfl (by decide)

mutual

/-- A value is taken where one may begin. -/
theorem run_written (stack : List Frame) {mode : Mode} (h : mode.AwaitsValue) :
    ∀ {v : Json} {text : Bytes}, WrittenAs v text →
      ∃ s, run { stack, mode } text = some s ∧ Taken stack v s
  | _, _, .null => ⟨_, run_ascii stack h rfl (by decide) rfl (by decide), .placed _⟩
  | _, _, .true => ⟨_, run_ascii stack h rfl (by decide) rfl (by decide), .placed _⟩
  | _, _, .false => ⟨_, run_ascii stack h rfl (by decide) rfl (by decide), .placed _⟩
  | _, _, .number hnumber => run_isNumber stack h hnumber
  | _, _, .string hpieces => ⟨_, run_string stack h hpieces, .placed _⟩
  | _, _, .emptyArray hws => by
    refine ⟨_, ?_, .placed _⟩
    rw [run_cons_of_step_eq (step_openArray stack h),
      run_append_of_run_eq (run_space (s := { stack := _, mode := .firstItem }) trivial hws)]
    rfl
  | _, _, .array hitems => by
    refine ⟨_, ?_, .placed _⟩
    rw [run_cons_of_step_eq (step_openArray stack h)]
    exact run_items stack [] .firstItem hitems
  | _, _, .emptyObject hws => by
    refine ⟨_, ?_, .placed _⟩
    rw [run_cons_of_step_eq (step_openObject stack h),
      run_append_of_run_eq (run_space (s := { stack := _, mode := .firstName }) trivial hws)]
    rfl
  | _, _, .object hmembers => by
    refine ⟨_, ?_, .placed _⟩
    rw [run_cons_of_step_eq (step_openObject stack h)]
    exact run_members stack [] .firstName hmembers

/-- So is a value with white space around it. -/
theorem run_padded (stack : List Frame) {mode : Mode} (h : mode.AwaitsValue) :
    ∀ {v : Json} {text : Bytes}, PaddedAs v text →
      ∃ s, run { stack, mode } text = some s ∧ Taken stack v s
  | _, _, .mk hbefore hvalue hafter => by
    obtain ⟨s, hrun, htaken⟩ := run_written stack h hvalue
    obtain ⟨s', hrun', htaken'⟩ := htaken.run_space hafter
    refine ⟨s', ?_, htaken'⟩
    rw [run_append_of_run_eq (run_space h.isBetween hbefore), run_append_of_run_eq hrun, hrun']

/-- Items are taken behind those that came before, and then the array is
    complete. -/
theorem run_items (stack : List Frame) (before : List Json) {mode : Mode} (h : mode.AwaitsValue) :
    ∀ {items : List Json} {text : Bytes}, ItemsWrittenAs items text →
      run { stack := .items before :: stack, mode } (text ++ [0x5D]) =
        some (complete stack (.array (before.reverse ++ items)))
  | _, _, @ItemsWrittenAs.one v _ hitem => by
    obtain ⟨s, hrun, htaken⟩ := run_padded (.items before :: stack) h hitem
    have hend : step s 0x5D = some (complete stack (.array (v :: before).reverse)) :=
      htaken.step_eq (by decide)
    rw [run_append_of_run_eq hrun, run_cons_of_step_eq hend, List.reverse_cons]
    rfl
  | _, _, @ItemsWrittenAs.more v _ _ _ hitem hothers => by
    obtain ⟨s, hrun, htaken⟩ := run_padded (.items before :: stack) h hitem
    have hcomma : step s 0x2C = some { stack := .items (v :: before) :: stack, mode := .value } :=
      htaken.step_eq (by decide)
    rw [List.append_assoc, run_append_of_run_eq hrun, List.cons_append, run_cons_of_step_eq hcomma,
      run_items stack (v :: before) .value hothers, List.reverse_cons, List.append_assoc]
    rfl

/-- A member is taken where a name may begin. -/
theorem run_member (stack : List Frame) (before : List (List Piece × Json)) {mode : Mode}
    (h : mode.AwaitsName) :
    ∀ {m : List Piece × Json} {text : Bytes}, MemberWrittenAs m text →
      ∃ s, run { stack := .members before :: stack, mode } text = some s ∧
        Taken (.member before m.1 :: stack) m.2 s
  | _, _, .mk hbefore hname hbetween hvalue => by
    obtain ⟨s, hrun, htaken⟩ := run_padded (.member before _ :: stack) .value hvalue
    refine ⟨s, ?_, htaken⟩
    rw [run_name stack before h hbefore hname hbetween, hrun]

/-- Members are taken behind those that came before, and then the object is
    complete. -/
theorem run_members (stack : List Frame) (before : List (List Piece × Json)) {mode : Mode}
    (h : mode.AwaitsName) :
    ∀ {members : List (List Piece × Json)} {text : Bytes}, MembersWrittenAs members text →
      run { stack := .members before :: stack, mode } (text ++ [0x7D]) =
        some (complete stack (.object (before.reverse ++ members)))
  | _, _, @MembersWrittenAs.one m _ hmember => by
    obtain ⟨s, hrun, htaken⟩ := run_member stack before h hmember
    have hend : step s 0x7D = some (complete stack (.object (m :: before).reverse)) :=
      htaken.step_eq (by decide)
    rw [run_append_of_run_eq hrun, run_cons_of_step_eq hend, List.reverse_cons]
    rfl
  | _, _, @MembersWrittenAs.more m _ _ _ hmember hothers => by
    obtain ⟨s, hrun, htaken⟩ := run_member stack before h hmember
    have hcomma : step s 0x2C = some { stack := .members (m :: before) :: stack, mode := .name } :=
      htaken.step_eq (by decide)
    rw [List.append_assoc, run_append_of_run_eq hrun, List.cons_append, run_cons_of_step_eq hcomma,
      run_members stack (m :: before) .name hothers, List.reverse_cons, List.append_assoc]
    rfl

end

end Reader

/-- Every way to write a value is read as this value. -/
theorem parse?_of_paddedAs {v : Json} {text : Bytes} (h : PaddedAs v text) :
    parse? text = some v := by
  obtain ⟨s, hrun, htaken⟩ := Reader.run_padded [] .value h
  have hstart : Reader.start = { stack := [], mode := .value } := rfl
  rw [parse?, hstart, hrun]
  exact htaken.finish_eq

end FlashSale.Json
