import FlashSale.Json.Decode
import FlashSale.Json.Writer
import FlashSale.Proofs.Sequence
import FlashSale.Proofs.Text.Decimal
import FlashSale.Proofs.Text.Utf8
import Mathlib.Algebra.Group.Int.Defs

/-! # Data in JSON values

    A value that stands for some data is read as this data: an integer as its
    digits, a text in any of its spellings, a record as an object with its
    fields in any order and any others between them. -/

namespace FlashSale.Json

open Text

/-! ### Integers -/

/-- A digit is found in its byte. -/
theorem ofNat_toNat_ofNat_of_isDigit {c : Char} (h : c.isDigit) :
    Char.ofNat (UInt8.ofNat c.toNat).toNat = c := by
  have hrange := range_of_isDigit h
  rw [toNat_ofNat_byte (by omega), Char.ofNat_toNat]

theorem digitsValue?_map {cs : List Char} {n : Nat} (h : natural? cs = some n) :
    digitsValue? (cs.map fun c => UInt8.ofNat c.toNat) = some n := by
  obtain ⟨⟨hne, hdigits⟩, hn⟩ := Option.ite_none_right_eq_some.mp h
  have hfold : ∀ (ds : List Char) (value : Nat), (∀ c ∈ ds, c.isDigit = true) →
      (ds.map fun c => UInt8.ofNat c.toNat).foldlM
        (fun n b => (digit? (Char.ofNat b.toNat)).map (10 * n + ·)) value =
      some (digitsValue value ds) := by
    intro ds
    induction ds with
    | nil => exact fun _ _ => rfl
    | cons d ds ih =>
      intro value hds
      have hd := hds d List.mem_cons_self
      rw [List.map_cons, List.foldlM_cons, ofNat_toNat_ofNat_of_isDigit hd, digit?_eq, if_pos hd]
      exact ih _ fun c hc => hds c (List.mem_cons_of_mem _ hc)
  rw [← Option.some.inj hn, ← hfold cs 0 (List.all_eq_true.mp hdigits)]
  cases cs with
  | nil => exact absurd rfl hne
  | cons c cs => rfl

theorem integer?_decimalInt (i : Int) :
    integer? ((decimalInt i).map fun c => UInt8.ofNat c.toNat) = some i := by
  have hvalue := digitsValue?_map (natural?_decimal i.natAbs)
  unfold decimalInt
  by_cases hi : i < 0
  · rw [if_pos hi, List.map_cons]
    show (digitsValue? _).bind _ = some i
    rw [hvalue, Option.bind_some, if_neg (by omega)]
    simp only [Option.some.injEq]
    omega
  · rw [if_neg hi]
    -- The first digit is no minus, so the text is read as digits.
    have hminus : ∀ ds, (decimal i.natAbs).map (fun c => UInt8.ofNat c.toNat) ≠ 0x2D :: ds := by
      intro ds hds
      have hdigit : digit? (Char.ofNat 0x2D) = none := rfl
      rw [hds] at hvalue
      simp [digitsValue?, hdigit] at hvalue
    rw [integer?.eq_2 _ hminus, hvalue]
    simp only [Option.map_some, Option.some.injEq, Int.ofNat_eq_natCast]
    omega

theorem intBetween?_ofInt (low high i : Int) :
    intBetween? low high (ofInt i) = if low ≤ i ∧ i ≤ high then some i else none := by
  rw [ofInt, intBetween?, integer?_decimalInt, Option.bind_some]

/-- An integer is read as one of 64 bits exactly if it is one. -/
theorem int64?_ofInt (i : Int) :
    int64? (ofInt i) = if -2 ^ 63 ≤ i ∧ i < 2 ^ 63 then some (Int64.ofInt i) else none := by
  have hlow : Int64.minValue.toInt = -2 ^ 63 := rfl
  have hhigh : Int64.maxValue.toInt = 2 ^ 63 - 1 := rfl
  rw [int64?, intBetween?_ofInt, hlow, hhigh]
  by_cases h : -2 ^ 63 ≤ i ∧ i < 2 ^ 63
  · rw [if_pos h, if_pos ⟨h.1, by omega⟩, Option.map_some]
  · rw [if_neg h, if_neg fun h' => h ⟨h'.1, by omega⟩, Option.map_none]

theorem int64?_toInt (n : Int64) : int64? (ofInt n.toInt) = some n := by
  have hlow := n.le_toInt
  have hhigh := n.toInt_lt
  rw [int64?_ofInt, if_pos ⟨by omega, by omega⟩, Int64.ofInt_toInt]

theorem uint64?_toNat (n : UInt64) : uint64? (ofInt n.toNat) = some n := by
  have hbound := n.toNat_lt
  have hsize : (UInt64.size : Int) = 2 ^ 64 := rfl
  rw [uint64?, intBetween?_ofInt, if_pos ⟨by omega, by omega⟩, Option.map_some, Int.toNat_natCast,
    UInt64.ofNat_toNat]

theorem uint32?_toNat (n : UInt32) : uint32? (ofInt n.toNat) = some n := by
  have hbound := n.toNat_lt
  have hsize : (UInt32.size : Int) = 2 ^ 32 := rfl
  rw [uint32?, intBetween?_ofInt, if_pos ⟨by omega, by omega⟩, Option.map_some, Int.toNat_natCast,
    UInt32.ofNat_toNat]

/-! ### Texts -/

/-- The pieces of a string stand for some characters: each character is given
    by its bytes, by a UTF-16 unit, or beyond U+FFFF by two of them. -/
inductive Spells : List Char → List Piece → Prop
  | nil : Spells [] []
  | bytes (c : Char) {cs : List Char} {pieces : List Piece} (rest : Spells cs pieces) :
    Spells (c :: cs) ((String.utf8EncodeChar c).map .byte ++ pieces)
  | unit {c : Char} {cs : List Char} {pieces : List Piece} (small : c.toNat < 0x10000)
    (rest : Spells cs pieces) : Spells (c :: cs) (.unit (UInt16.ofNat c.toNat) :: pieces)
  | pair {c : Char} {cs : List Char} {pieces : List Piece} (large : 0x10000 ≤ c.toNat)
    (rest : Spells cs pieces) :
    Spells (c :: cs)
      (.unit (UInt16.ofNat (0xD800 + (c.toNat - 0x10000) / 1024)) ::
        .unit (UInt16.ofNat (0xDC00 + (c.toNat - 0x10000) % 1024)) :: pieces)

theorem pieceBytes?_bytes (bs : Bytes) (pieces : List Piece) :
    pieceBytes? (bs.map .byte ++ pieces) = (pieceBytes? pieces).map (bs ++ ·) := by
  induction bs with
  | nil => simp
  | cons b bs ih =>
    rw [List.map_cons, List.cons_append, pieceBytes?, ih, Option.map_map]
    rfl

theorem toNat_ofNat_unit {n : Nat} (h : n < 0x10000) : (UInt16.ofNat n).toNat = n := by
  rw [UInt16.toNat_ofNat']
  exact Nat.mod_eq_of_lt h

theorem isHighSurrogate_iff {u : UInt16} :
    isHighSurrogate u = true ↔ 0xD800 ≤ u.toNat ∧ u.toNat < 0xDC00 := by
  simp [isHighSurrogate, UInt16.le_iff_toNat_le, UInt16.lt_iff_toNat_lt]

theorem isLowSurrogate_iff {u : UInt16} :
    isLowSurrogate u = true ↔ 0xDC00 ≤ u.toNat ∧ u.toNat < 0xE000 := by
  simp [isLowSurrogate, UInt16.le_iff_toNat_le, UInt16.lt_iff_toNat_lt]

/-- The pieces that stand for characters have the bytes of these characters. -/
theorem Spells.pieceBytes?_eq {cs : List Char} {pieces : List Piece} (h : Spells cs pieces) :
    pieceBytes? pieces = some (utf8Encode cs) := by
  induction h with
  | nil => rfl
  | bytes c rest ih =>
    rw [pieceBytes?_bytes, ih, Option.map_some]
    rfl
  | @unit c cs pieces small rest ih =>
    have hvalid := toNat_char_lt c
    have hunit := toNat_ofNat_unit small
    -- No character has the number of a surrogate.
    have hhigh : ¬isHighSurrogate (UInt16.ofNat c.toNat) = true := by
      rw [isHighSurrogate_iff, hunit]
      omega
    have hlow : ¬isLowSurrogate (UInt16.ofNat c.toNat) = true := by
      rw [isLowSurrogate_iff, hunit]
      omega
    rw [pieceBytes?.eq_def]
    simp only [if_neg hhigh, if_neg hlow, ih, hunit, Char.ofNat_toNat, Option.map_some]
    rfl
  | @pair c cs pieces large rest ih =>
    have hvalid := toNat_char_lt c
    have hhigh := toNat_ofNat_unit (show 0xD800 + (c.toNat - 0x10000) / 1024 < 0x10000 by omega)
    have hlow := toNat_ofNat_unit (show 0xDC00 + (c.toNat - 0x10000) % 1024 < 0x10000 by omega)
    generalize UInt16.ofNat (0xD800 + (c.toNat - 0x10000) / 1024) = high at hhigh ⊢
    generalize UInt16.ofNat (0xDC00 + (c.toNat - 0x10000) % 1024) = low at hlow ⊢
    have hnumber : 0x10000 + (high.toNat - 0xD800) * 1024 + (low.toNat - 0xDC00) = c.toNat := by
      omega
    have hchar : pairChar high low = c := by
      rw [pairChar, hnumber, Char.ofNat_toNat]
    have hhigh' : isHighSurrogate high = true := isHighSurrogate_iff.mpr (by omega)
    have hlow' : isLowSurrogate low = true := isLowSurrogate_iff.mpr (by omega)
    rw [pieceBytes?.eq_def]
    simp only [if_pos hhigh', if_pos hlow', ih, hchar, Option.map_some]
    rfl

theorem Spells.pieceText?_eq {s : String} {content : List Piece} (h : Spells s.toList content) :
    pieceText? content = some s := by
  rw [pieceText?, h.pieceBytes?_eq, Option.bind_some]
  exact stringOf?_bytesOf s

/-- The bytes of a text are one of its spellings. -/
theorem spells_piecesOf (s : String) : Spells s.toList (piecesOf s) := by
  unfold piecesOf bytesOf
  induction s.toList with
  | nil => exact .nil
  | cons c cs ih =>
    rw [utf8Encode, List.flatMap_cons, List.map_append]
    exact .bytes c ih

theorem string?_of_spells {s : String} {content : List Piece} (h : Spells s.toList content) :
    string? (.string content) = some s :=
  h.pieceText?_eq

theorem string?_ofString (s : String) : string? (ofString s) = some s :=
  string?_of_spells (spells_piecesOf s)

/-- The value is the text. -/
inductive TextShown (s : String) : Json → Prop
  | mk {content : List Piece} (spelled : Spells s.toList content) :
    TextShown s (.string content)

theorem TextShown.string?_eq {s : String} {v : Json} (h : TextShown s v) :
    string? v = some s := by
  cases h with
  | mk spelled => exact string?_of_spells spelled

/-! ### Lists -/

/-- Items that are all readable are read one by one. -/
theorem list?_of_forall₂ {α : Type} {item? : Json → Option α} {items : List Json} {as : List α}
    (h : List.Forall₂ (fun v a => item? v = some a) items as) :
    list? item? (.array items) = some as :=
  mapM_eq_pure_of_forall₂ h

/-- The value is an array with one item for each of the data. -/
def ListShown {α : Type} (shown : α → Json → Prop) (as : List α) (v : Json) : Prop :=
  ∃ vs, v = .array vs ∧ List.Forall₂ shown as vs

/-- What can be told of every item can be told of the list. -/
theorem ListShown.list?_eq {β : Type} {means : α → β → Prop} {read? : Json → Option β}
    {shown : α → Json → Prop} {as : List α} {v : Json} (h : ListShown shown as v)
    (hread : ∀ a v, shown a v → ∃ b, read? v = some b ∧ means a b) :
    ∃ bs, list? read? v = some bs ∧ List.Forall₂ means as bs := by
  obtain ⟨vs, rfl, hvs⟩ := h
  induction hvs with
  | nil => exact ⟨[], rfl, .nil⟩
  | @cons a v as vs hv _ ih =>
    obtain ⟨b, hb, hab⟩ := hread a v hv
    obtain ⟨bs, hbs, hmeans⟩ := ih
    refine ⟨b :: bs, ?_, .cons hab hmeans⟩
    have hbs : vs.mapM read? = some bs := hbs
    rw [list?, List.mapM_cons, hb, hbs]
    rfl

/-! ### Values that may be missing -/

/-- The value is `null` for nothing, and otherwise as `shown` tells. -/
def NullOr {α : Type} (shown : α → Json → Prop) : Option α → Json → Prop
  | none, v => v = .null
  | some a, v => shown a v

/-- What cannot be read from `null` is read as it would be read alone. -/
theorem nullable?_eq_some {α : Type} {read? : Json → Option α} {a : α} {v : Json}
    (hnull : read? .null = none) (h : read? v = some a) : nullable? read? v = some (some a) := by
  unfold nullable?
  split
  · rw [hnull] at h
    cases h
  · rw [h, Option.map_some]

/-! ### Records -/

/-- Among some members there are the given fields, in this order and each of
    them once; the others have names that are not known. -/
inductive HasFields (names : List String) : Fields → List (List Piece × Json) → Prop
  | nil : HasFields names [] []
  | field {name : String} {content : List Piece} {fields : Fields}
    {members : List (List Piece × Json)} (v : Json) (spelled : Spells name.toList content)
    (known : name ∈ names) (once : fields.lookup name = none)
    (rest : HasFields names fields members) :
    HasFields names ((name, v) :: fields) ((content, v) :: members)
  | other {name : String} {content : List Piece} {fields : Fields}
    {members : List (List Piece × Json)} (v : Json) (spelled : Spells name.toList content)
    (unknown : name ∉ names) (rest : HasFields names fields members) :
    HasFields names fields ((content, v) :: members)

theorem HasFields.knownFields?_eq {names : List String} {fields : Fields}
    {members : List (List Piece × Json)} (h : HasFields names fields members) :
    knownFields? names members = some fields := by
  induction h with
  | nil => rfl
  | field v spelled known once rest ih =>
    simp [knownFields?, spelled.pieceText?_eq, ih, known, once]
  | other v spelled unknown rest ih =>
    simp [knownFields?, spelled.pieceText?_eq, ih, unknown]

theorem HasFields.fields?_eq {shape : Shape} {fields : Fields}
    {members : List (List Piece × Json)} (h : HasFields shape.names fields members) :
    fields? shape (.object members) = some fields :=
  h.knownFields?_eq

/-- The known fields among some members, if none of them is given twice. -/
theorem hasFields_ofMembers {names : List String} {members : List (String × Json)}
    (honce : ((members.filter fun m => m.1 ∈ names).map Prod.fst).Nodup) :
    HasFields names (members.filter fun m => m.1 ∈ names)
      (members.map fun (name, v) => (piecesOf name, v)) := by
  induction members with
  | nil => exact .nil
  | cons m members ih =>
    obtain ⟨name, v⟩ := m
    by_cases hname : name ∈ names
    · rw [List.filter_cons_of_pos (by simpa using hname)] at honce ⊢
      obtain ⟨hnew, hrest⟩ := List.nodup_cons.mp honce
      have hlookup : (members.filter fun m => m.1 ∈ names).lookup name = none := by
        rw [List.lookup_eq_none_iff]
        intro other hother
        refine bne_iff_ne.mpr fun heq => hnew ?_
        exact List.mem_map.mpr ⟨other, hother, heq.symm⟩
      exact .field v (spells_piecesOf name) hname hlookup (ih hrest)
    · rw [List.filter_cons_of_neg (by simpa using hname)] at honce ⊢
      exact .other v (spells_piecesOf name) hname (ih honce)

/-- The value is an object with the named fields, in any order and among any
    others. -/
def IsRecord (names : List String) (good : Fields → Prop) (v : Json) : Prop :=
  ∃ fields members, v = .object members ∧ HasFields names fields members ∧ good fields

/-- The field is there. -/
def Has (fields : Fields) (name : String) (shown : Json → Prop) : Prop :=
  ∃ v, fields.lookup name = some v ∧ shown v

/-- The field is there, or it is missing because of its default. -/
def HasOrOmits (fields : Fields) (name : String) (shown : Json → Prop) (isDefault : Prop) :
    Prop :=
  Has fields name shown ∨ fields.lookup name = none ∧ isDefault

theorem IsRecord.fields?_eq {names : List String} {good : Fields → Prop} {v : Json}
    (h : IsRecord names good v) (atLeast : Nat) :
    ∃ fields, fields? { names, atLeast } v = some fields ∧ good fields := by
  obtain ⟨fields, members, rfl, hgiven, hgood⟩ := h
  exact ⟨fields, hgiven.knownFields?_eq, hgood⟩

/-- An object that was made of members has those fields that are known. -/
theorem isRecord_ofMembers {names : List String} {good : Fields → Prop}
    {members : List (String × Json)}
    (honce : ((members.filter fun m => m.1 ∈ names).map Prod.fst).Nodup)
    (hgood : good (members.filter fun m => m.1 ∈ names)) :
    IsRecord names good (.ofMembers members) :=
  ⟨_, _, rfl, hasFields_ofMembers honce, hgood⟩

section

variable {α : Type} {read? : Json → Option α} {a : α} {fields : Fields} {name : String}
  {shown : Json → Prop}

theorem Has.required?_eq (h : Has fields name shown) (hread : ∀ v, shown v → read? v = some a) :
    fields.required? name read? = some a := by
  obtain ⟨v, hlookup, hv⟩ := h
  rw [Fields.required?, hlookup, Option.bind_some, hread v hv]

/-- Whether the field is there or not, something is read, with all that is
    known of the field's value and of its default. -/
theorem HasOrOmits.exists_orDefault?_eq {isDefault : Prop} {means : α → Prop} {default : α}
    (h : HasOrOmits fields name shown isDefault)
    (hread : ∀ v, shown v → ∃ a, read? v = some a ∧ means a) (hdefault : isDefault → means default) :
    ∃ a, fields.orDefault? name read? default = some a ∧ means a := by
  unfold Fields.orDefault?
  rcases h with ⟨v, hlookup, hv⟩ | ⟨hlookup, hisDefault⟩
  · rw [hlookup]
    exact hread v hv
  · rw [hlookup]
    exact ⟨default, rfl, hdefault hisDefault⟩

theorem HasOrOmits.orDefault?_eq {isDefault : Prop} {default : α}
    (h : HasOrOmits fields name shown isDefault) (hread : ∀ v, shown v → read? v = some a)
    (hdefault : isDefault → a = default) : fields.orDefault? name read? default = some a := by
  have hread : ∀ v, shown v → ∃ b, read? v = some b ∧ a = b :=
    fun v hv => ⟨a, hread v hv, rfl⟩
  obtain ⟨b, hb, rfl⟩ := h.exists_orDefault?_eq hread hdefault
  exact hb

end

end FlashSale.Json
