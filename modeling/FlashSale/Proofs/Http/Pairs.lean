import FlashSale.Http.Query
import FlashSale.Proofs.Text.Percent
import FlashSale.Proofs.Text.Pieces
import Mathlib.Data.List.Forall2

/-! # Pairs in escapes

    A list of pairs is written with every byte of both sides as an escape.  As
    a query it is read as this list, whatever characters the pairs are made
    of. -/

namespace FlashSale.Http

open Text

/-! ### One pair -/

/-- The sides of a pair in bytes. -/
theorem utf8Encode_pair (name value : List Char) :
    utf8Encode (name ++ '=' :: value) = utf8Encode name ++ 0x3D :: utf8Encode value := by
  rw [utf8Encode_append, utf8Encode_cons_ascii (show '='.toNat < 0x80 by decide)]
  rfl

/-- The text is the pair with both sides in escapes. -/
def SpellsPair (pair : String × String) (text : List Char) : Prop :=
  ∃ name value, Percent.Spells (bytesOf pair.1) name ∧ Percent.Spells (bytesOf pair.2) value ∧
    text = name ++ '=' :: value

namespace SpellsPair

variable {pair : String × String} {text : List Char}

theorem isPart (h : SpellsPair pair text) {c : Char} (hc : c ∈ text) : Percent.IsPart c ∨ c = '=' := by
  obtain ⟨name, value, hname, hvalue, rfl⟩ := h
  rcases List.mem_append.mp hc with hc | hc
  · exact .inl (hname.isPart c hc)
  · exact (List.mem_cons.mp hc).symm.imp_left (hvalue.isPart c)

/-- What separates pairs is in none of them. -/
theorem not_mem (h : SpellsPair pair text) {c : Char} (hpart : ¬Percent.IsPart c) (hne : c ≠ '=') :
    c ∉ text :=
  fun hc => (h.isPart hc).elim hpart hne

/-- Nor is its byte among the bytes. -/
theorem not_mem_utf8Encode (h : SpellsPair pair text) {c : Char} (hpart : ¬Percent.IsPart c)
    (hne : c ≠ '=') (hascii : c.toNat < 0x80) : UInt8.ofNat c.toNat ∉ utf8Encode text :=
  fun hmem => h.not_mem hpart hne (mem_of_mem_utf8Encode hascii hmem)

/-- A pair leaves whole what follows. -/
theorem isWhole_append (h : SpellsPair pair text) {rest : Bytes} (hrest : Percent.IsWhole rest) :
    Percent.IsWhole (utf8Encode text ++ rest) := by
  obtain ⟨name, value, hname, hvalue, rfl⟩ := h
  rw [utf8Encode_pair, List.append_assoc]
  exact hname.isWhole_append ((hvalue.isWhole_append hrest).cons (by decide))

end SpellsPair

theorem exists_spellsPair (pair : String × String) : ∃ text, SpellsPair pair text := by
  obtain ⟨name, hname, -⟩ := Percent.spells_encode (bytesOf pair.1)
  obtain ⟨value, hvalue, -⟩ := Percent.spells_encode (bytesOf pair.2)
  exact ⟨_, name, value, hname, hvalue, rfl⟩

/-! ### Lists of pairs -/

/-- The text is the pairs in escapes, with a separator between them. -/
def SpellsPairs (sep : List Char) (pairs : List (String × String)) (text : List Char) : Prop :=
  ∃ pieces, List.Forall₂ SpellsPair pairs pieces ∧ text = sep.intercalate pieces

theorem exists_spellsPairs (sep : List Char) (pairs : List (String × String)) :
    ∃ text, SpellsPairs sep pairs text := by
  choose text htext using exists_spellsPair
  have hpieces : List.Forall₂ SpellsPair pairs (pairs.map text) :=
    List.forall₂_map_right_iff.mpr (List.forall₂_same.mpr fun pair _ => htext pair)
  exact ⟨_, _, hpieces, rfl⟩

/-- Every piece is a pair. -/
theorem exists_of_mem_pieces {pairs : List (String × String)} {pieces : List (List Char)}
    (h : List.Forall₂ SpellsPair pairs pieces) :
    ∀ piece ∈ pieces, ∃ pair, SpellsPair pair piece := by
  induction h with
  | nil => simp
  | cons hpiece _ ih => exact List.forall_mem_cons.mpr ⟨⟨_, hpiece⟩, ih⟩

/-! ### Queries -/

theorem decodeComponent_spelled {s : String} {text : List Char}
    (h : Percent.Spells (bytesOf s) text) : decodeComponent (utf8Encode text) = s := by
  have hplus : (0x2B : UInt8) ∉ utf8Encode text :=
    h.not_mem_utf8Encode (c := '+') (by decide) (by decide)
  have hmap : (utf8Encode text).map (fun b => if b = 0x2B then 0x20 else b) = utf8Encode text := by
    conv_rhs => rw [← List.map_id (utf8Encode text)]
    refine List.map_congr_left fun b hb => if_neg ?_
    rintro rfl
    exact hplus hb
  rw [decodeComponent, hmap, h.decode_eq, bytesOf, utf8DecodeLossy_utf8Encode, String.ofList_toList]

theorem decodePair_spelled {pair : String × String} {text : List Char} (h : SpellsPair pair text) :
    decodePair (utf8Encode text) = pair := by
  obtain ⟨name, value, hname, hvalue, rfl⟩ := h
  have hequals : (0x3D : UInt8) ∉ utf8Encode name :=
    hname.not_mem_utf8Encode (c := '=') (by decide) (by decide)
  rw [utf8Encode_pair, decodePair, splitFirst, splitFirst?_eq_some hequals]
  show (decodeComponent _, decodeComponent _) = pair
  rw [decodeComponent_spelled hname, decodeComponent_spelled hvalue]

/-- No escape in a query of pairs is broken. -/
theorem isWhole_pairs {pairs : List (String × String)} {pieces : List (List Char)}
    (h : List.Forall₂ SpellsPair pairs pieces) :
    Percent.IsWhole (utf8Encode (['&'].intercalate pieces)) := by
  induction h with
  | nil => exact Percent.isWhole_nil
  | @cons pair piece pairs pieces hpiece hpieces ih =>
    -- A separator follows only if there is a further piece.
    cases pieces with
    | nil =>
      rw [List.intercalate_singleton, ← List.append_nil (utf8Encode piece)]
      exact hpiece.isWhole_append Percent.isWhole_nil
    | cons q qs =>
      rw [List.intercalate_cons_cons, List.append_assoc, utf8Encode_append, utf8Encode_append]
      exact hpiece.isWhole_append (ih.cons (show (0x26 : UInt8) ≠ Percent.sign by decide))

/-- No piece is dropped for being empty, and each is read as its pair. -/
theorem map_decodePair_spelled {pairs : List (String × String)} {pieces : List (List Char)}
    (h : List.Forall₂ SpellsPair pairs pieces) :
    ((pieces.map utf8Encode).filter fun piece => !piece.isEmpty).map decodePair = pairs := by
  induction h with
  | nil => rfl
  | @cons pair piece pairs pieces hpiece hpieces ih =>
    have hkept : (!(utf8Encode piece).isEmpty) = true := by
      obtain ⟨name, value, -, -, rfl⟩ := hpiece
      simp [utf8Encode_pair]
    simp only [List.map_cons, List.filter_cons, hkept, if_true, decodePair_spelled hpiece, ih]

/-- A query of pairs in escapes is read as these pairs. -/
theorem decodeQuery_spelled {pairs : List (String × String)} {text : List Char}
    (h : SpellsPairs ['&'] pairs text) : decodeQuery (utf8Encode text) = .ok pairs := by
  obtain ⟨pieces, hpieces, rfl⟩ := h
  have hwhole : Percent.broken? (utf8Encode (['&'].intercalate pieces)) = none :=
    isWhole_pairs hpieces 0
  have hamp : ∀ bs ∈ pieces.map utf8Encode, (0x26 : UInt8) ∉ bs := by
    intro bs hbs
    obtain ⟨piece, hpiece, rfl⟩ := List.mem_map.mp hbs
    obtain ⟨pair, hpair⟩ := exists_of_mem_pieces hpieces piece hpiece
    exact hpair.not_mem_utf8Encode (c := '&') (by decide) (by decide) (by decide)
  have hread := map_decodePair_spelled hpieces
  rw [decodeQuery, hwhole, utf8Encode_intercalate]
  refine congrArg Except.ok ?_
  cases hpieces with
  | nil => rfl
  | @cons pair piece pairs pieces =>
    have hsplit : ([0x26].intercalate ((piece :: pieces).map utf8Encode)).splitOn 0x26 =
        (piece :: pieces).map utf8Encode :=
      List.splitOn_intercalate 0x26 hamp (List.cons_ne_nil _ _)
    show ((List.splitOn 0x26 _).filter _).map decodePair = _
    rw [show utf8Encode ['&'] = [0x26] from rfl, hsplit, hread]

end FlashSale.Http
