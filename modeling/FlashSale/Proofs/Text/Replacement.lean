import FlashSale.Proofs.Text.Utf8

/-! # Broken UTF-8

    The forgiving reading keeps every character that stands there and puts
    U+FFFD for every broken part.  A part is one byte that starts no character,
    or all that still can be the start of one; what follows it is read anew. -/

namespace FlashSale.Text

/-! ### Broken parts -/

/-- Some character starts with these bytes. -/
def IsStart (part : Bytes) : Prop :=
  ∃ c, part <+: String.utf8EncodeChar c

/-- No character stands where `part` stands before `rest`.  The part is one
    byte, or the start of a character, and with the next byte it would not be
    the start of any. -/
structure Broken (part rest : Bytes) : Prop where
  ne_nil : part ≠ []
  no_char : ∀ c, ¬String.utf8EncodeChar c <+: part ++ rest
  start : part.length = 1 ∨ IsStart part
  longest : ∀ b ∈ rest.head?, ¬IsStart (part ++ [b])

/-- The text that some bytes are, with U+FFFD for each broken part. -/
inductive Replaced : Bytes → List Char → Prop where
  | nil : Replaced [] []
  | char (c : Char) {bs : Bytes} {cs : List Char} (rest : Replaced bs cs) :
    Replaced (String.utf8EncodeChar c ++ bs) (c :: cs)
  | broken {part bs : Bytes} {cs : List Char} (part_broken : Broken part bs)
    (rest : Replaced bs cs) : Replaced (part ++ bs) ('\uFFFD' :: cs)

theorem IsStart.of_prefix {part longer : Bytes} (h : IsStart longer) (hpart : part <+: longer) :
    IsStart part := by
  obtain ⟨c, hc⟩ := h
  exact ⟨c, hpart.trans hc⟩

/-! ### There is only one text -/

theorem eq_of_utf8EncodeChar_append_eq {c d : Char} {bs ds : Bytes}
    (h : String.utf8EncodeChar c ++ bs = String.utf8EncodeChar d ++ ds) : c = d ∧ bs = ds := by
  have hchunks := congrArg (chunksFrom none) h
  rw [chunksFrom_utf8EncodeChar, chunksFrom_utf8EncodeChar] at hchunks
  obtain rfl := Chunk.char.inj (List.cons.inj hchunks).1
  exact ⟨rfl, List.append_cancel_left h⟩

/-- The shorter of two broken parts is not shorter. -/
theorem Broken.eq_of_prefix {part part' rest rest' : Bytes} (h : Broken part rest)
    (h' : Broken part' rest') (heq : part ++ rest = part' ++ rest') (hpart : part <+: part') :
    part = part' := by
  obtain ⟨more, rfl⟩ := hpart
  rw [List.append_assoc] at heq
  obtain rfl := List.append_cancel_left heq
  cases more with
  | nil => exact (List.append_nil part).symm
  | cons b more =>
    -- With the next byte it is still a start, since the longer part is one.
    have hpos := List.length_pos_iff.mpr h.ne_nil
    have hstart : IsStart (part ++ b :: more) := by
      refine h'.start.resolve_left ?_
      simp only [List.length_append, List.length_cons]
      omega
    have hnext : part ++ [b] <+: part ++ b :: more := ⟨more, by simp⟩
    exact absurd (hstart.of_prefix hnext) (h.longest b rfl)

theorem Broken.eq {part part' rest rest' : Bytes} (h : Broken part rest)
    (h' : Broken part' rest') (heq : part ++ rest = part' ++ rest') : part = part' ∧ rest = rest' := by
  have hpart : part = part' := by
    rcases List.prefix_or_prefix_of_prefix ⟨rest, heq⟩ (List.prefix_append part' rest') with
      hprefix | hprefix
    · exact h.eq_of_prefix h' heq hprefix
    · exact (h'.eq_of_prefix h heq.symm hprefix).symm
  subst hpart
  exact ⟨rfl, List.append_cancel_left heq⟩

theorem Replaced.unique {bs : Bytes} {cs ds : List Char} (h : Replaced bs cs)
    (h' : Replaced bs ds) : cs = ds := by
  induction h generalizing ds with
  | nil =>
    generalize hbs : ([] : Bytes) = bs at h'
    cases h' with
    | nil => rfl
    | char c rest => simp [String.utf8EncodeChar_ne_nil] at hbs
    | broken part_broken rest => simp [part_broken.ne_nil] at hbs
  | @char c bs cs rest ih =>
    generalize hbs : String.utf8EncodeChar c ++ bs = all at h'
    cases h' with
    | nil => simp [String.utf8EncodeChar_ne_nil] at hbs
    | char d rest' =>
      obtain ⟨rfl, rfl⟩ := eq_of_utf8EncodeChar_append_eq hbs
      rw [ih rest']
    | broken part_broken rest' => exact absurd ⟨bs, hbs⟩ (part_broken.no_char c)
  | @broken part bs cs part_broken rest ih =>
    generalize hbs : part ++ bs = all at h'
    cases h' with
    | nil => simp [part_broken.ne_nil] at hbs
    | char d rest' => exact absurd ⟨_, hbs.symm⟩ (part_broken.no_char d)
    | broken part_broken' rest' =>
      obtain ⟨rfl, rfl⟩ := part_broken.eq part_broken' hbs
      rw [ih rest']

/-! ### The machine finds it -/

/-- A byte out of range ends a part, and is then read as if nothing were before
    it. -/
theorem chunksFrom_out_of_range {p : Partial} {b : UInt8} (hb : ¬(p.low ≤ b ∧ b ≤ p.high))
    (bs : Bytes) : chunksFrom (some p) (b :: bs) = .broken :: chunksFrom none (b :: bs) := by
  rw [chunksFrom, if_neg hb]
  conv_rhs => rw [chunksFrom]

/-- A byte that starts no character is a part of its own. -/
theorem chunksFrom_lead_broken {b : UInt8} (hb : Lead.ofByte b = .broken) (bs : Bytes) :
    chunksFrom none (b :: bs) = .broken :: chunksFrom none bs := by
  rw [chunksFrom, hb]

/-- Where the machine comes to a broken part there is no character. -/
theorem not_prefix_of_chunksFrom {bs : Bytes} {chunks : List Chunk}
    (h : chunksFrom none bs = .broken :: chunks) (c : Char) : ¬String.utf8EncodeChar c <+: bs := by
  rintro ⟨rest, rfl⟩
  rw [chunksFrom_utf8EncodeChar] at h
  cases h

/-- What it reads as one character are the bytes of this character. -/
theorem utf8EncodeChar_of_chunksFrom {bs : Bytes} {c : Char} (h : chunksFrom none bs = [.char c]) :
    String.utf8EncodeChar c = bs := by
  have hbytes : utf8Encode [c] = bs := utf8Encode_of_chunksFrom h
  rw [← hbytes, utf8Encode, List.flatMap_singleton]

theorem not_isStart_of_chunksFrom {part : Bytes}
    (h : ∀ more, ∃ chunks, chunksFrom none (part ++ more) = .broken :: chunks) : ¬IsStart part := by
  rintro ⟨c, more, hmore⟩
  obtain ⟨chunks, hchunks⟩ := h more
  exact not_prefix_of_chunksFrom hchunks c (hmore ▸ List.prefix_refl _)

/-- Having read `seen` the machine is in the middle of a character. -/
structure Reached (seen : Bytes) (p : Partial) : Prop where
  run : ∀ more, chunksFrom none (seen ++ more) = chunksFrom (some p) more
  owes : 1 ≤ p.owed
  range : p.low ≤ p.high

/-- From there the character can be completed. -/
theorem exists_completion (n : Nat) {p : Partial} (howed : p.owed = n + 1) (hrange : p.low ≤ p.high) :
    ∃ more c, chunksFrom (some p) more = [.char c] := by
  induction n generalizing p with
  | zero =>
    refine ⟨[p.low], Char.ofNat (p.bits * 64 + (p.low.toNat - 0x80)), ?_⟩
    rw [chunksFrom, if_pos ⟨UInt8.le_refl _, hrange⟩]
    dsimp only
    rw [if_pos (by omega)]
    rfl
  | succ n ih =>
    obtain ⟨more, c, hmore⟩ := ih (p := { owed := p.owed - 1, bits := _ })
      (by rw [howed]; rfl) (by simp)
    refine ⟨p.low :: more, c, ?_⟩
    rw [chunksFrom, if_pos ⟨UInt8.le_refl _, hrange⟩]
    dsimp only
    rw [if_neg (by omega)]
    exact hmore

namespace Reached

variable {seen : Bytes} {p : Partial}

theorem ne_nil (h : Reached seen p) : seen ≠ [] := by
  rintro rfl
  cases h.run []

theorem isStart (h : Reached seen p) : IsStart seen := by
  have howed : p.owed = p.owed - 1 + 1 := by
    have := h.owes
    omega
  obtain ⟨more, c, hmore⟩ := exists_completion _ howed h.range
  rw [← h.run] at hmore
  exact ⟨c, more, (utf8EncodeChar_of_chunksFrom hmore).symm⟩

/-- If the next byte is out of range, or there is none, the part is broken. -/
theorem broken (h : Reached seen p) {rest : Bytes}
    (hrest : ∀ b ∈ rest.head?, ¬(p.low ≤ b ∧ b ≤ p.high)) : Broken seen rest where
  ne_nil := h.ne_nil
  no_char c := by
    have hchunks : ∃ chunks, chunksFrom none (seen ++ rest) = .broken :: chunks := by
      rw [h.run]
      cases rest with
      | nil => exact ⟨[], rfl⟩
      | cons b rest => exact ⟨_, chunksFrom_out_of_range (hrest b rfl) rest⟩
    obtain ⟨chunks, hchunks⟩ := hchunks
    exact not_prefix_of_chunksFrom hchunks c
  start := .inr h.isStart
  longest b hb := by
    apply not_isStart_of_chunksFrom
    intro more
    rw [List.append_assoc, h.run]
    exact ⟨_, chunksFrom_out_of_range (hrest b hb) more⟩

/-- A byte in range is taken. -/
theorem run_next (h : Reached seen p) {b : UInt8} (hb : p.low ≤ b ∧ b ≤ p.high) (more : Bytes) :
    chunksFrom none (seen ++ [b] ++ more) =
      if p.owed ≤ 1 then .char (Char.ofNat (p.bits * 64 + (b.toNat - 0x80))) :: chunksFrom none more
      else chunksFrom (some { owed := p.owed - 1, bits := p.bits * 64 + (b.toNat - 0x80) }) more := by
  rw [List.append_assoc, h.run, List.singleton_append, chunksFrom, if_pos hb]

/-- The last byte that is owed completes the character. -/
theorem completed (h : Reached seen p) {b : UInt8} (hb : p.low ≤ b ∧ b ≤ p.high)
    (hlast : p.owed ≤ 1) :
    String.utf8EncodeChar (Char.ofNat (p.bits * 64 + (b.toNat - 0x80))) = seen ++ [b] := by
  apply utf8EncodeChar_of_chunksFrom
  have hrun := h.run_next hb []
  rwa [List.append_nil, if_pos hlast] at hrun

/-- Any other leads on. -/
theorem next (h : Reached seen p) {b : UInt8} (hb : p.low ≤ b ∧ b ≤ p.high)
    (hmore : ¬p.owed ≤ 1) :
    Reached (seen ++ [b]) { owed := p.owed - 1, bits := p.bits * 64 + (b.toNat - 0x80) } where
  run more := by rw [h.run_next hb, if_neg hmore]
  owes := by
    show 1 ≤ p.owed - 1
    omega
  range := by simp

end Reached

/-- After the first of several bytes a further one is possible. -/
theorem Lead.multi_range {b : UInt8} {p : Partial} (h : Lead.ofByte b = .multi p) :
    1 ≤ p.owed ∧ p.low ≤ p.high := by
  rcases lead_cases b with ⟨n, hn, rfl⟩ | ⟨n, hlow, hhigh, rfl⟩ | ⟨n, hn, rfl⟩ | ⟨n, hn, rfl⟩ | hb
  · rw [lead_one hn] at h
    cases h
  · rw [lead_two hlow hhigh] at h
    obtain rfl := Lead.multi.inj h
    exact ⟨by simp, by simp⟩
  · have hrange : ∀ n < 16, (if n = 0 then 0xA0 else 0x80 : UInt8) ≤
        if n = 13 then 0x9F else 0xBF := by decide
    rw [lead_three hn] at h
    obtain rfl := Lead.multi.inj h
    exact ⟨by simp, hrange n hn⟩
  · have hrange : ∀ n < 5, (if n = 0 then 0x90 else 0x80 : UInt8) ≤
        if n = 4 then 0x8F else 0xBF := by decide
    rw [lead_four hn] at h
    obtain rfl := Lead.multi.inj h
    exact ⟨by simp, hrange n hn⟩
  · rw [hb] at h
    cases h

theorem broken_of_lead {b : UInt8} (hb : Lead.ofByte b = .broken) (rest : Bytes) :
    Broken [b] rest where
  ne_nil := List.cons_ne_nil b []
  no_char := not_prefix_of_chunksFrom (chunksFrom_lead_broken hb rest)
  start := .inl rfl
  longest _ _ := not_isStart_of_chunksFrom fun _ => ⟨_, chunksFrom_lead_broken hb _⟩

theorem reached_of_lead {b : UInt8} {p : Partial} (h : Lead.ofByte b = .multi p) :
    Reached [b] p where
  run more := by rw [List.singleton_append, chunksFrom, h]
  owes := (Lead.multi_range h).1
  range := (Lead.multi_range h).2

/-- What the machine makes of some bytes, from the start of a character and from
    the middle of one. -/
theorem replaced_chunksFrom (bs : Bytes) :
    Replaced bs ((chunksFrom none bs).map Chunk.orReplacement) ∧
      ∀ seen p, Reached seen p →
        Replaced (seen ++ bs) ((chunksFrom (some p) bs).map Chunk.orReplacement) := by
  induction bs with
  | nil =>
    refine ⟨.nil, ?_⟩
    intro seen p h
    exact .broken (h.broken (by simp)) .nil
  | cons b bs ih =>
    obtain ⟨hstart, hmiddle⟩ := ih
    have hfirst : Replaced (b :: bs) ((chunksFrom none (b :: bs)).map Chunk.orReplacement) := by
      cases hlead : Lead.ofByte b with
      | single c =>
        have hbytes : String.utf8EncodeChar c = [b] := by
          apply utf8EncodeChar_of_chunksFrom
          rw [chunksFrom, hlead]
          rfl
        have hread := Replaced.char c hstart
        rw [hbytes] at hread
        rw [chunksFrom, hlead]
        exact hread
      | multi p =>
        have hreached := reached_of_lead hlead
        rw [← List.singleton_append, hreached.run]
        exact hmiddle [b] p hreached
      | broken =>
        rw [chunksFrom_lead_broken hlead]
        exact .broken (broken_of_lead hlead bs) hstart
    refine ⟨hfirst, ?_⟩
    intro seen p h
    by_cases hb : p.low ≤ b ∧ b ≤ p.high
    · rw [← h.run, List.append_cons, h.run_next hb]
      by_cases hlast : p.owed ≤ 1
      · rw [if_pos hlast, ← h.completed hb hlast]
        exact .char _ hstart
      · rw [if_neg hlast]
        exact hmiddle _ _ (h.next hb hlast)
    · -- The byte belongs to what comes next, and is read again there.
      rw [chunksFrom_out_of_range hb]
      refine .broken (h.broken ?_) hfirst
      intro b' hb'
      obtain rfl : b = b' := by simpa using hb'
      exact hb

/-- The forgiving reading gives this text and no other. -/
theorem utf8DecodeLossy_eq_iff {bs : Bytes} {cs : List Char} :
    utf8DecodeLossy bs = cs ↔ Replaced bs cs := by
  have hread : Replaced bs (utf8DecodeLossy bs) := (replaced_chunksFrom bs).1
  constructor
  · rintro rfl
    exact hread
  · exact hread.unique

/-- The first two bytes of a sign of three, a letter, and a byte that starts
    nothing. -/
example : utf8DecodeLossy [0xE2, 0x82, 0x41, 0xFF] = ['\uFFFD', 'A', '\uFFFD'] := by decide

end FlashSale.Text
