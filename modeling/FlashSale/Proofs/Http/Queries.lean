import FlashSale.Proofs.Http.Pairs
import FlashSale.Proofs.Text.Escapes
import FlashSale.Proofs.Text.Replacement

/-! # What a query says

    A query in which every `%` starts an escape says one pair for each piece
    between the `&` that is not empty.  Any other is refused, and its first
    broken escape is told.

    A piece comes apart before anything in it is decoded, and each escape is
    decoded once; so whatever stands in escapes means nothing around it. -/

namespace FlashSale.Http

open Text

/-! ### Pairs -/

/-- One side of a pair says the text: a `+` is a space, an escape is its byte,
    and broken parts of the bytes are replaced. -/
def SideSays (side : Bytes) (s : String) : Prop :=
  ∃ bytes, Percent.Decodes Percent.plusAsSpace side bytes ∧ Replaced bytes s.toList

/-- A piece says the pair of what comes before its first `=` and what comes
    behind it; without one there is nothing behind. -/
def PieceSays (piece : Bytes) (pair : String × String) : Prop :=
  ∃ name value, 0x3D ∉ name ∧ (piece = name ++ 0x3D :: value ∨ piece = name ∧ value = []) ∧
    SideSays name pair.1 ∧ SideSays value pair.2

/-- The query says the pairs of its pieces, in their order; empty pieces say
    nothing. -/
def QuerySays (query : Bytes) (pairs : List (String × String)) : Prop :=
  ∃ pieces, IsSplit 0x26 query pieces ∧
    List.Forall₂ PieceSays (pieces.filter fun piece => !piece.isEmpty) pairs

theorem decodeComponent_eq_iff {side : Bytes} {s : String} :
    decodeComponent side = s ↔ SideSays side s := by
  have hread : decodeComponent side =
      String.ofList (utf8DecodeLossy (Percent.decode (side.map Percent.plusAsSpace))) := rfl
  constructor
  · rintro rfl
    refine ⟨_, Percent.keepsEscapes_plusAsSpace.decode_map_eq_iff.mp rfl, ?_⟩
    rw [hread, String.toList_ofList]
    exact utf8DecodeLossy_eq_iff.mp rfl
  · rintro ⟨bytes, hbytes, hs⟩
    rw [hread, Percent.keepsEscapes_plusAsSpace.decode_map_eq_iff.mpr hbytes,
      utf8DecodeLossy_eq_iff.mpr hs, String.ofList_toList]

theorem decodePair_eq_iff {piece : Bytes} {pair : String × String} :
    decodePair piece = pair ↔ PieceSays piece pair := by
  have hread {name value : Bytes} (h : splitFirst 0x3D piece = (name, value)) :
      decodePair piece = (decodeComponent name, decodeComponent value) := by
    rw [decodePair, h]
  constructor
  · rintro rfl
    obtain ⟨name, value, hsplit⟩ : ∃ name value, splitFirst 0x3D piece = (name, value) :=
      ⟨_, _, rfl⟩
    obtain ⟨hname, hpiece⟩ := splitFirst_eq_iff.mp hsplit
    rw [hread hsplit]
    exact ⟨name, value, hname, hpiece, decodeComponent_eq_iff.mp rfl, decodeComponent_eq_iff.mp rfl⟩
  · rintro ⟨name, value, hname, hpiece, hfirst, hsecond⟩
    rw [hread (splitFirst_eq_iff.mpr ⟨hname, hpiece⟩), decodeComponent_eq_iff.mpr hfirst,
      decodeComponent_eq_iff.mpr hsecond]

theorem decodePairs_eq_iff {query : Bytes} {pairs : List (String × String)} :
    decodePairs query = pairs ↔ QuerySays query pairs := by
  have hpieces (pieces : List Bytes) :
      pieces.map decodePair = pairs ↔ List.Forall₂ PieceSays pieces pairs := by
    have hmeans : PieceSays = fun piece pair => decodePair piece = pair := by
      funext piece pair
      exact propext decodePair_eq_iff.symm
    rw [hmeans, ← List.forall₂_map_left_iff, List.forall₂_eq_eq_eq]
  constructor
  · intro h
    exact ⟨query.splitOn 0x26, splitOn_eq_iff.mp rfl, (hpieces _).mp h⟩
  · rintro ⟨pieces, hsplit, hmeans⟩
    rw [decodePairs, splitOn_eq_iff.mpr hsplit]
    exact (hpieces _).mpr hmeans

/-! ### Queries -/

theorem decodeQuery_eq_error_iff {query : Bytes} {position : Nat} :
    decodeQuery query = .error position ↔ Percent.FirstBroken query position := by
  rw [← Percent.broken?_eq_some_iff, decodeQuery]
  cases Percent.broken? query with
  | none => simp
  | some broken => simp

theorem decodeQuery_eq_ok_iff {query : Bytes} {pairs : List (String × String)} :
    decodeQuery query = .ok pairs ↔ Percent.AllEscapes query ∧ QuerySays query pairs := by
  rw [← Percent.broken?_eq_none_iff, ← decodePairs_eq_iff, decodeQuery]
  cases Percent.broken? query with
  | none => simp
  | some broken => simp

/-- A query is read exactly if every `%` in it starts an escape, and then as the
    pairs that it says; otherwise the first `%` that starts none is told.  All
    pairs can be written in escapes, and are read back from them. -/
theorem decodeQuery_reads :
    (∀ query : Bytes,
      ((∃ pairs, decodeQuery query = .ok pairs) ↔ Percent.AllEscapes query) ∧
      (∀ position, decodeQuery query = .error position ↔ Percent.FirstBroken query position) ∧
      ∀ pairs, decodeQuery query = .ok pairs ↔ Percent.AllEscapes query ∧ QuerySays query pairs) ∧
    ∀ pairs : List (String × String),
      (∃ text, SpellsPairs ['&'] pairs text) ∧
      ∀ text, SpellsPairs ['&'] pairs text → decodeQuery (utf8Encode text) = .ok pairs := by
  constructor
  · intro query
    refine ⟨?_, fun position => decodeQuery_eq_error_iff, fun pairs => decodeQuery_eq_ok_iff⟩
    constructor
    · rintro ⟨pairs, hpairs⟩
      exact (decodeQuery_eq_ok_iff.mp hpairs).1
    · intro hall
      exact ⟨_, decodeQuery_eq_ok_iff.mpr ⟨hall, decodePairs_eq_iff.mp rfl⟩⟩
  · intro pairs
    exact ⟨exists_spellsPairs ['&'] pairs, fun text htext => decodeQuery_spelled htext⟩

/-- An escaped `%` with two digits behind it, an empty piece, an escaped `+`, a
    second `=`, a broken character and a piece without `=`; then a `%` before an
    escape; then a pair in escapes of both cases. -/
theorem decodeQuery_reads_signs :
    let query := bytesOf "a=%2526+b&&%2B%3D=c=d&e=%E2%82&f"
    let pairs := [("a", "%26 b"), ("+=", "c=d"), ("e", "\uFFFD"), ("f", "")]
    let text := "%26=%C3%a9".toList
    (Percent.AllEscapes query ∧ QuerySays query pairs ∧ decodeQuery query = .ok pairs) ∧
      (Percent.FirstBroken (bytesOf "a=%%41") 2 ∧ decodeQuery (bytesOf "a=%%41") = .error 2) ∧
      SpellsPairs ['&'] [("&", "é")] text ∧ decodeQuery (utf8Encode text) = .ok [("&", "é")] := by
  intro query pairs text
  obtain ⟨hreads, hspells⟩ := decodeQuery_reads
  obtain ⟨-, -, hok⟩ := hreads query
  obtain ⟨-, herror, -⟩ := hreads (bytesOf "a=%%41")
  have hquery : decodeQuery query = .ok pairs := by decide +kernel
  have hbroken : decodeQuery (bytesOf "a=%%41") = .error 2 := by decide +kernel
  have hpair : SpellsPair ("&", "é") text :=
    ⟨"%26".toList, "%C3%a9".toList, by decide +kernel, by decide +kernel, by decide⟩
  have htext : SpellsPairs ['&'] [("&", "é")] text :=
    ⟨_, .cons hpair .nil, List.intercalate_singleton.symm⟩
  obtain ⟨hall, hmeans⟩ := (hok pairs).mp hquery
  exact ⟨⟨hall, hmeans, hquery⟩, ⟨(herror 2).mp hbroken, hbroken⟩, htext,
    (hspells [("&", "é")]).2 text htext⟩

end FlashSale.Http
