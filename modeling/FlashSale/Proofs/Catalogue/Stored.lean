import FlashSale.Product.Record
import FlashSale.Proofs.Json.Data
import FlashSale.Proofs.Json.Reading
import FlashSale.Proofs.Json.Rendering
import FlashSale.Proofs.Sequence
import FlashSale.Proofs.Word

/-! # Stored catalogues

    A record is six integers, written as an object or as an array.  However a
    list of records is written, reading it comes out at the products that the
    integers stand for, or at the first fault of the first record that has
    one.  An integer that does not fit makes the whole text unreadable, whatever
    else is wrong with it. -/

namespace FlashSale.Product

open Text

/-! ### Records as they are written -/

/-- The integers of a record.  They are those that were written, so they need
    not fit. -/
structure Row where
  productId : Int
  startTime : Int
  endTime : Int
  status : Int
  count : Int
  left : Int
  deriving Repr, DecidableEq

namespace Row

/-- The integers in the order of the fields. -/
def values (r : Row) : List Int :=
  [r.productId, r.startTime, r.endTime, r.status, r.count, r.left]

/-- All integers fit into 64 bits. -/
def Fits (r : Row) : Prop :=
  ∀ i ∈ r.values, -2 ^ 63 ≤ i ∧ i < 2 ^ 63

instance (r : Row) : Decidable r.Fits :=
  List.decidableBAll _ r.values

/-- The fields hold the integers.  Of the two counts one that is zero may be
    missing. -/
structure InFields (r : Row) (fields : Json.Fields) : Prop where
  productId : fields.lookup "ProductId" = some (.ofInt r.productId)
  startTime : fields.lookup "StartTime" = some (.ofInt r.startTime)
  endTime : fields.lookup "EndTime" = some (.ofInt r.endTime)
  status : fields.lookup "Status" = some (.ofInt r.status)
  count : Json.HasOrOmits fields "Count" (· = .ofInt r.count) (r.count = 0)
  left : Json.HasOrOmits fields "Left" (· = .ofInt r.left) (r.left = 0)

/-- The value is a record of the integers. -/
inductive Shown (r : Row) : Json → Prop
  /-- An object with the fields in any order, and any others between them. -/
  | object {fields : Json.Fields} {members : List (List Json.Piece × Json)}
    (given : Json.HasFields Record.shape.names fields members) (values : r.InFields fields) :
    Shown r (.object members)
  /-- An array of the integers in their order; zeros at the end may be missing,
      as long as there are four. -/
  | array {given : Nat} (required : 4 ≤ given) (omitted : ∀ i ∈ r.values.drop given, i = 0) :
    Shown r (.array ((r.values.take given).map .ofInt))

/-- The text is a list of records of the integers. -/
def ListWrittenAs (rows : List Row) (text : Bytes) : Prop :=
  ∃ vs, List.Forall₂ Shown rows vs ∧ Json.PaddedAs (.array vs) text

/-! ### What a record stands for -/

/-- What is wrong with a record, in the order in which it is told. -/
def faults (r : Row) : List Fault :=
  (if r.productId ≤ 0 then [.invalidProductId (.ofInt r.productId)] else []) ++
  (if r.endTime ≤ r.startTime then
    [.invalidWindow (.ofInt r.productId) (.ofInt r.startTime) (.ofInt r.endTime)] else []) ++
  (if r.count < 0 ∨ r.left < 0 then [.negativeCount (.ofInt r.productId)] else []) ++
  (if r.status ∈ [0, 1, 2] then [] else [.unknownStatus (.ofInt r.productId) (.ofInt r.status)])

/-- The product has the integers. -/
structure Describes (r : Row) (p : Product) : Prop where
  id : (p.id.toNat : Int) = r.productId
  startTime : p.startTime.toInt = r.startTime
  endTime : p.endTime.toInt = r.endTime
  status : p.status.number.toInt = r.status
  count : (p.count.toNat : Int) = r.count
  left : (p.left.toNat : Int) = r.left

/-! ### Reading one record -/

variable {r : Row}

/-- The record that integers which fit are read as. -/
def record (r : Row) : Record :=
  { productId := .ofInt r.productId, startTime := .ofInt r.startTime, endTime := .ofInt r.endTime
    status := .ofInt r.status, count := .ofInt r.count, left := .ofInt r.left }

theorem Shown.fields?_eq {v : Json} (h : r.Shown v) :
    ∃ fields, Json.fields? Record.shape v = some fields ∧ r.InFields fields := by
  cases h with
  | object given values => exact ⟨_, given.fields?_eq, values⟩
  | @array given required omitted =>
    -- Four fields, five, or all of them.
    have hgiven : given = 4 ∨ given = 5 ∨ 6 ≤ given := by omega
    rcases hgiven with rfl | rfl | hgiven
    · have hcount : r.count = 0 := omitted _ (by simp [values])
      have hleft : r.left = 0 := omitted _ (by simp [values])
      exact ⟨_, rfl, rfl, rfl, rfl, rfl, .inr ⟨rfl, hcount⟩, .inr ⟨rfl, hleft⟩⟩
    · have hleft : r.left = 0 := omitted _ (by simp [values])
      exact ⟨_, rfl, rfl, rfl, rfl, rfl, .inl ⟨_, rfl, rfl⟩, .inr ⟨rfl, hleft⟩⟩
    · rw [List.take_of_length_le (by simpa [values] using hgiven)]
      exact ⟨_, rfl, rfl, rfl, rfl, rfl, .inl ⟨_, rfl, rfl⟩, .inl ⟨_, rfl, rfl⟩⟩

/-- A count that is missing is read as the zero that it is. -/
theorem orDefault?_int64? {fields : Json.Fields} {name : String} {i : Int}
    (h : Json.HasOrOmits fields name (· = .ofInt i) (i = 0)) :
    fields.orDefault? name Json.int64? 0 = Json.int64? (.ofInt i) := by
  unfold Json.Fields.orDefault?
  rcases h with ⟨v, h, rfl⟩ | ⟨h, rfl⟩
  · rw [h]
  · rw [h, Json.int64?_ofInt, if_pos (by decide)]
    rfl

/-- A record is read by reading its integers. -/
theorem Shown.ofJson?_eq {v : Json} (h : r.Shown v) :
    Record.ofJson? v = do
      let productId ← Json.int64? (.ofInt r.productId)
      let startTime ← Json.int64? (.ofInt r.startTime)
      let endTime ← Json.int64? (.ofInt r.endTime)
      let status ← Json.int64? (.ofInt r.status)
      let count ← Json.int64? (.ofInt r.count)
      let left ← Json.int64? (.ofInt r.left)
      return { productId, startTime, endTime, status, count, left } := by
  obtain ⟨fields, hfields, hin⟩ := h.fields?_eq
  rw [Record.ofJson?, hfields]
  simp only [Option.bind_eq_bind, Option.bind_some, Json.Fields.required?, hin.productId,
    hin.startTime, hin.endTime, hin.status, orDefault?_int64? hin.count, orDefault?_int64? hin.left]

theorem Shown.ofJson?_of_fits {v : Json} (h : r.Shown v) (hfits : r.Fits) :
    Record.ofJson? v = some r.record := by
  have hread {i : Int} (hi : i ∈ r.values) : Json.int64? (.ofInt i) = some (.ofInt i) := by
    rw [Json.int64?_ofInt, if_pos (hfits i hi)]
  rw [h.ofJson?_eq, hread (by simp [values]), hread (by simp [values]), hread (by simp [values]),
    hread (by simp [values]), hread (by simp [values]), hread (by simp [values])]
  rfl

theorem Shown.ofJson?_of_not_fits {v : Json} (h : r.Shown v) (hfits : ¬r.Fits) :
    Record.ofJson? v = none := by
  obtain ⟨i, hi, hout⟩ : ∃ i ∈ r.values, ¬(-2 ^ 63 ≤ i ∧ i < 2 ^ 63) := by
    simpa only [Fits, not_forall, exists_prop] using hfits
  have hnone : Json.int64? (.ofInt i) = none := by
    rw [Json.int64?_ofInt, if_neg hout]
  rw [h.ofJson?_eq]
  simp only [values, List.mem_cons, List.not_mem_nil, or_false] at hi
  rcases hi with rfl | rfl | rfl | rfl | rfl | rfl <;> simp [hnone]

/-! ### Checking one record -/

theorem toInt_ofInt {i : Int} (h : -2 ^ 63 ≤ i ∧ i < 2 ^ 63) : (Int64.ofInt i).toInt = i :=
  Int64.toInt_ofInt_of_le h.1 h.2

/-- The status of a number, and the number of the status. -/
theorem ofNumber?_ofInt {i : Int} (h : -2 ^ 63 ≤ i ∧ i < 2 ^ 63) :
    if i ∈ [0, 1, 2] then
      ∃ status, SaleStatus.ofNumber? (.ofInt i) = some status ∧ status.number.toInt = i
    else SaleStatus.ofNumber? (.ofInt i) = none := by
  split
  · next hi =>
    simp only [List.mem_cons, List.not_mem_nil, or_false] at hi
    rcases hi with rfl | rfl | rfl
    · exact ⟨.normal, rfl, rfl⟩
    · exact ⟨.soldOut, rfl, rfl⟩
    · exact ⟨.forceSoldOut, rfl, rfl⟩
  · next hi =>
    simp only [List.mem_cons, List.not_mem_nil, or_false, not_or] at hi
    obtain ⟨hzero, hone, htwo⟩ := hi
    have hne {n : Int64} (hn : i ≠ n.toInt) : Int64.ofInt i ≠ n := by
      rintro rfl
      exact hn (toInt_ofInt h).symm
    have hzero : Int64.ofInt i ≠ 0 := hne hzero
    have hone : Int64.ofInt i ≠ 1 := hne hone
    have htwo : Int64.ofInt i ≠ 2 := hne htwo
    rw [SaleStatus.ofNumber?, if_neg hzero, if_neg hone, if_neg htwo]

theorem toNat_toUInt64_ofInt {i : Int} (h : -2 ^ 63 ≤ i ∧ i < 2 ^ 63) (hi : 0 ≤ i) :
    ((Int64.ofInt i).toUInt64.toNat : Int) = i := by
  have hle : 0 ≤ Int64.ofInt i := by
    rw [Int64.le_iff_toInt_le, toInt_ofInt h]
    exact hi
  rw [(toNat_toUInt64 hle).1, toInt_ofInt h]

/-- What is asked of the machine integers is what is asked of the integers. -/
theorem record_checks (hfits : r.Fits) :
    (r.record.productId ≤ 0 ↔ r.productId ≤ 0) ∧
    (r.record.endTime ≤ r.record.startTime ↔ r.endTime ≤ r.startTime) ∧
    (r.record.count < 0 ∨ r.record.left < 0 ↔ r.count < 0 ∨ r.left < 0) := by
  have hvalue {i : Int} (hi : i ∈ r.values) : (Int64.ofInt i).toInt = i := toInt_ofInt (hfits i hi)
  have hproductId : r.record.productId.toInt = r.productId := hvalue (by simp [values])
  have hstartTime : r.record.startTime.toInt = r.startTime := hvalue (by simp [values])
  have hendTime : r.record.endTime.toInt = r.endTime := hvalue (by simp [values])
  have hcount : r.record.count.toInt = r.count := hvalue (by simp [values])
  have hleft : r.record.left.toInt = r.left := hvalue (by simp [values])
  refine ⟨?_, ?_, ?_⟩
  · rw [Int64.le_iff_toInt_le, hproductId]
    rfl
  · rw [Int64.le_iff_toInt_le, hendTime, hstartTime]
  · rw [Int64.lt_iff_toInt_lt, Int64.lt_iff_toInt_lt, hcount, hleft]
    rfl

/-- Of integers without a fault the product can be made, and has them. -/
theorem describes_record (hfits : r.Fits) (hid : ¬r.productId ≤ 0)
    (hcounts : ¬(r.count < 0 ∨ r.left < 0)) {status : SaleStatus}
    (hstatus : status.number.toInt = r.status) :
    r.Describes
      { id := r.record.productId.toUInt64, startTime := r.record.startTime
        endTime := r.record.endTime, status, count := r.record.count.toUInt64
        left := r.record.left.toUInt64 } := by
  have hfit {i : Int} (hi : i ∈ r.values) := hfits i hi
  exact {
    id := toNat_toUInt64_ofInt (hfit (by simp [values])) (by omega)
    startTime := toInt_ofInt (hfit (by simp [values]))
    endTime := toInt_ofInt (hfit (by simp [values]))
    status := hstatus
    count := toNat_toUInt64_ofInt (hfit (by simp [values])) (by omega)
    left := toNat_toUInt64_ofInt (hfit (by simp [values])) (by omega) }

/-- The checks come out at the first fault, or at the product. -/
theorem toProduct_record (hfits : r.Fits) :
    (∃ fault more, r.faults = fault :: more ∧ r.record.toProduct = .error fault) ∨
      r.faults = [] ∧ ∃ p, r.record.toProduct = .ok p ∧ r.Describes p := by
  obtain ⟨hid, hwindow, hcounts⟩ := record_checks hfits
  have hstatus := ofNumber?_ofInt (hfits r.status (by simp [values]))
  unfold faults Record.toProduct
  simp only [hid, hwindow, hcounts]
  -- Check by check, in the order in which the faults are told.
  by_cases h₁ : r.productId ≤ 0
  · exact .inl ⟨_, _, by rw [if_pos h₁]; rfl, by rw [if_pos h₁]; rfl⟩
  by_cases h₂ : r.endTime ≤ r.startTime
  · exact .inl ⟨_, _, by rw [if_neg h₁, if_pos h₂]; rfl, by rw [if_neg h₁, if_pos h₂]; rfl⟩
  by_cases h₃ : r.count < 0 ∨ r.left < 0
  · exact .inl ⟨_, _, by rw [if_neg h₁, if_neg h₂, if_pos h₃]; rfl,
      by rw [if_neg h₁, if_neg h₂, if_pos h₃]; rfl⟩
  simp only [if_neg h₁, if_neg h₂, if_neg h₃]
  by_cases h₄ : r.status ∈ [0, 1, 2]
  · right
    rw [if_pos h₄] at hstatus
    obtain ⟨status, hread, hnumber⟩ := hstatus
    have hread : SaleStatus.ofNumber? r.record.status = some status := hread
    rw [if_pos h₄, hread]
    exact ⟨rfl, _, rfl, describes_record hfits h₁ h₃ hnumber⟩
  · left
    rw [if_neg h₄] at hstatus
    have hread : SaleStatus.ofNumber? r.record.status = none := hstatus
    rw [if_neg h₄, hread]
    exact ⟨_, _, rfl, rfl⟩

/-! ### Reading lists -/

theorem toProduct_of_faults_eq_nil (hfits : r.Fits) (h : r.faults = []) :
    ∃ p, r.record.toProduct = .ok p ∧ r.Describes p := by
  rcases toProduct_record hfits with ⟨fault, more, hfaults, -⟩ | ⟨-, hok⟩
  · rw [h] at hfaults
    cases hfaults
  · exact hok

theorem toProduct_of_faults_eq_cons (hfits : r.Fits) {fault : Fault} {more : List Fault}
    (h : r.faults = fault :: more) : r.record.toProduct = .error fault := by
  rcases toProduct_record hfits with ⟨fault', more', hfaults, herror⟩ | ⟨hnone, -⟩
  · rw [h] at hfaults
    cases hfaults
    exact herror
  · rw [h] at hnone
    cases hnone

/-- Records whose integers fit are all read before any of them is checked. -/
theorem readList_of_fits {rows : List Row} {text : Bytes} (h : ListWrittenAs rows text)
    (hfits : ∀ r ∈ rows, r.Fits) : readList text = (rows.map record).mapM Record.toProduct := by
  obtain ⟨vs, hshown, hwritten⟩ := h
  have hrecords : Json.list? Record.ofJson? (.array vs) = some (rows.map record) := by
    refine Json.list?_of_forall₂ (List.forall₂_map_right_iff.mpr ?_)
    clear hwritten
    induction hshown with
    | nil => exact .nil
    | cons first _ ih =>
      obtain ⟨hfirst, hothers⟩ := List.forall_mem_cons.mp hfits
      exact .cons (first.ofJson?_of_fits hfirst) (ih hothers)
  rw [readList, Json.parse?_of_paddedAs hwritten, Option.bind_some, hrecords]

theorem readList_of_not_fits {rows : List Row} {text : Bytes} (h : ListWrittenAs rows text)
    {r : Row} (hr : r ∈ rows) (hfits : ¬r.Fits) : readList text = .error .unreadable := by
  obtain ⟨vs, hshown, hwritten⟩ := h
  have hnone : Json.list? Record.ofJson? (.array vs) = none := by
    obtain ⟨v, hv, hrv⟩ := exists_of_mem_of_forall₂ hshown hr
    exact mapM_eq_none_of_mem hv (hrv.ofJson?_of_not_fits hfits)
  rw [readList, Json.parse?_of_paddedAs hwritten, Option.bind_some, hnone]

/-! ### A record with escapes -/

/-- The integers of a product that is sold out by force. -/
def soldOut : Row :=
  { productId := 7, startTime := -1, endTime := 10, status := 2, count := 0, left := 1 }

/-- A member that is not known, its value a string that is no text. -/
def note : List Json.Piece × Json :=
  ([.unit 0xE9], .array [.string [.unit 0xD800]])

/-- The known fields behind it. -/
def others : List (String × Json) :=
  [("ProductId", .ofInt 7), ("EndTime", .ofInt 10), ("StartTime", .ofInt (-1))]

/-- A record of the integers.  The fields have an order of their own, and one of
    the counts is missing. -/
def soldOutJson : Json :=
  .object ((Json.piecesOf "Left", .ofInt 1) :: (Json.piecesOf "Status", .ofInt 2) :: note ::
    others.map fun (name, v) => (Json.piecesOf name, v))

/-- A text of the record, with escapes among the names. -/
def soldOutText : Bytes :=
  Json.ascii "\x7b\"Left\":1 , \"\\u0053tatus\":2,\"\\u00E9\":[\"\\uD800\"]," ++
    Json.ascii "\"ProductId\":7,\"EndTime\":10,\"StartTime\":-1\x7d"

theorem shown_soldOutJson : soldOut.Shown soldOutJson := by
  have honce : ((others.filter fun m => m.1 ∈ Record.shape.names).map Prod.fst).Nodup := by decide
  have hknown : Json.HasFields Record.shape.names others
      (others.map fun (name, v) => (Json.piecesOf name, v)) :=
    Json.hasFields_ofMembers honce
  have hname : Json.Spells "é".toList note.1 := .unit (c := 'é') (by decide) .nil
  refine .object (.field _ (Json.spells_piecesOf "Left") (by decide) (by decide)
    (.field _ (Json.spells_piecesOf "Status") (by decide) (by decide)
      (.other _ hname (by decide) hknown))) ?_
  exact ⟨rfl, rfl, rfl, rfl, .inr ⟨rfl, rfl⟩, .inl ⟨_, rfl, rfl⟩⟩

theorem memberWrittenAs_note :
    Json.MemberWrittenAs note (Json.ascii "\"\\u00E9\":[\"\\uD800\"]") := by
  have hname : Json.Piece.WrittenAs (.unit 0xE9) (Json.ascii "\\u00E9") :=
    .unit (p := 0) (q := 0) (r := 14) (s := 9) rfl rfl rfl rfl
  have hlone : Json.Piece.WrittenAs (.unit 0xD800) (Json.ascii "\\uD800") :=
    .unit (p := 13) (q := 8) (r := 0) (s := 0) rfl rfl rfl rfl
  have hvalue := Json.WrittenAs.array (.one (Json.WrittenAs.string (.cons hlone .nil)).padded)
  exact .mk Json.isSpace_nil (.cons hname .nil) Json.isSpace_nil hvalue.padded

theorem writtenAs_soldOutText : soldOutJson.WrittenAs soldOutText := by
  have hspace : Json.IsSpace [0x20] := by decide
  have hleft : Json.MemberWrittenAs (Json.piecesOf "Left", .ofInt 1) (Json.ascii "\"Left\":1 ") :=
    .mk Json.isSpace_nil (Json.piecesWrittenAs_bytes (bytesOf "Left")) Json.isSpace_nil
      (.mk Json.isSpace_nil (Json.writtenAs_ofInt 1) hspace)
  have hletter : Json.Piece.WrittenAs (.byte 0x53) (Json.ascii "\\u0053") :=
    .unit (p := 0) (q := 0) (r := 5) (s := 3) rfl rfl rfl rfl
  have hstatus : Json.MemberWrittenAs (Json.piecesOf "Status", .ofInt 2)
      (Json.ascii " \"\\u0053tatus\":2") :=
    .mk hspace (.cons hletter (Json.piecesWrittenAs_bytes (bytesOf "tatus"))) Json.isSpace_nil
      (Json.writtenAs_ofInt 2).padded
  have hothers := Json.membersWrittenAs_renderMembers (show others ≠ [] by decide)
    (by simp [others, Json.writtenAs_ofInt])
  exact .object (.more hleft (.more hstatus (.more memberWrittenAs_note hothers)))

end Row

/-- However records are written, if all their integers fit, the products that
    they describe are read, or the first fault of the first record that has
    one; if an integer does not fit, nothing is, even behind a record with a
    fault. -/
theorem readList_written {rows : List Row} {text : Bytes} (h : Row.ListWrittenAs rows text) :
    ((∀ r ∈ rows, r.Fits) →
      ((∀ r ∈ rows, r.faults = []) →
        ∃ products, readList text = .ok products ∧ List.Forall₂ Row.Describes rows products) ∧
      ∀ before r after fault more, rows = before ++ r :: after → (∀ q ∈ before, q.faults = []) →
        r.faults = fault :: more → readList text = .error fault) ∧
    ((∃ r ∈ rows, ¬r.Fits) → readList text = .error .unreadable) := by
  refine ⟨fun hfits => ⟨fun hfaults => ?_, ?_⟩, ?_⟩
  · have hread := Row.readList_of_fits h hfits
    have hall : ∀ r ∈ rows, ∃ p, r.record.toProduct = .ok p ∧ r.Describes p := fun r hr =>
      Row.toProduct_of_faults_eq_nil (hfits r hr) (hfaults r hr)
    obtain ⟨products, hproducts⟩ := exists_forall₂ hall
    refine ⟨products, ?_, hproducts.imp fun r p hp => hp.2⟩
    rw [hread]
    exact mapM_eq_pure_of_forall₂
      (List.forall₂_map_left_iff.mpr (hproducts.imp fun r p hp => hp.1))
  · rintro before r after fault more rfl hbefore hfaults
    rw [Row.readList_of_fits h hfits, List.map_append, List.map_cons]
    refine mapM_eq_error_of_append ?_
      (Row.toProduct_of_faults_eq_cons (hfits r (by simp)) hfaults)
    intro record hrecord
    obtain ⟨q, hq, rfl⟩ := List.mem_map.mp hrecord
    obtain ⟨p, hp, -⟩ :=
      Row.toProduct_of_faults_eq_nil (hfits q (List.mem_append_left _ hq)) (hbefore q hq)
    exact ⟨p, hp⟩
  · rintro ⟨r, hr, hfits⟩
    exact Row.readList_of_not_fits h hr hfits

/-- The first text tells of the faulty record; the second one is not read at
    all, as the third record in it has an integer that does not fit. -/
theorem readList_written_faulty :
    let faulty : Row :=
      { productId := 0, startTime := 5, endTime := 5, status := 9, count := 0, left := 0 }
    let huge : Row := { faulty with productId := 2 ^ 63 }
    let text := Json.ascii "[" ++ Row.soldOutText ++ Json.ascii "\n,[0,5,5,9]]"
    let text' := Json.ascii "[" ++ Row.soldOutText ++
      Json.ascii "\n,[0,5,5,9],[9223372036854775808,5,5,9,0]]"
    Row.ListWrittenAs [Row.soldOut, faulty] text ∧ readList text = .error (.invalidProductId 0) ∧
      Row.ListWrittenAs [Row.soldOut, faulty, huge] text' ∧ readList text' = .error .unreadable := by
  intro faulty huge text text'
  have hfaulty : faulty.Shown (.array ([0, 5, 5, 9].map .ofInt)) :=
    @Row.Shown.array faulty 4 (by decide) (by decide)
  have hhuge : huge.Shown (.array ([2 ^ 63, 5, 5, 9, 0].map .ofInt)) :=
    @Row.Shown.array huge 5 (by decide) (by decide)
  have hfirst : Json.PaddedAs Row.soldOutJson (Row.soldOutText ++ [0x0A]) :=
    .mk Json.isSpace_nil Row.writtenAs_soldOutText (by decide)
  have harray (is : List Int) :
      Json.PaddedAs (.array (is.map .ofInt)) (Json.array (is.map .ofInt)).render :=
    (Json.writtenAs_array (by simp [Json.writtenAs_ofInt])).padded
  have htext : Row.ListWrittenAs [Row.soldOut, faulty] text := by
    refine ⟨_, .cons Row.shown_soldOutJson (.cons hfaulty .nil), ?_⟩
    have hwritten := Json.WrittenAs.array (.more hfirst (.one (harray [0, 5, 5, 9])))
    convert hwritten.padded using 1
    decide +kernel
  have htext' : Row.ListWrittenAs [Row.soldOut, faulty, huge] text' := by
    refine ⟨_, .cons Row.shown_soldOutJson (.cons hfaulty (.cons hhuge .nil)), ?_⟩
    have hwritten := Json.WrittenAs.array
      (.more hfirst (.more (harray [0, 5, 5, 9]) (.one (harray [2 ^ 63, 5, 5, 9, 0]))))
    convert hwritten.padded using 1
    decide +kernel
  have hread := ((readList_written htext).1 (by decide)).2 [Row.soldOut] faulty [] _ _ rfl
    (by decide) rfl
  have hread' := (readList_written htext').2 ⟨huge, by simp, by decide⟩
  exact ⟨htext, hread, htext', hread'⟩

end FlashSale.Product
