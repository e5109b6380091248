import FlashSale.Proofs.Text.Decimal
import FlashSale.Proofs.Text.Pieces
import FlashSale.Proofs.Text.Utf8
import FlashSale.Signature

/-! # Signatures that are accepted

    Any secret can be used to make signatures.  The comparison that looks at all
    bytes comes out as equality would, so of all texts only the signature itself
    is accepted.

    A signature is all lower-case digits, as many as the digest has half bytes,
    and it is made of a text that no other user has.  Under MD5 the text ends with
    the secret; the first `:` in it is the one behind the id, whatever the secret
    is. -/

namespace FlashSale

open Text

/-! ### Keys -/

namespace Digest

@[simp] theorem Sha256.length_hash (message : Bytes) : (Sha256.hash message).length = 32 := by
  simp [Sha256.hash, bytesHigh]

@[simp] theorem Md5.length_hash (message : Bytes) : (Md5.hash message).length = 16 := by
  simp [Md5.hash, bytesLow]

/-- A key of any length comes to one block. -/
@[simp] theorem Hmac.length_blockKey (key : Bytes) : (Hmac.blockKey key).length = 64 := by
  unfold Hmac.blockKey
  by_cases hlong : 64 < key.length
  · simp [hlong]
  · simp only [hlong, if_false, List.length_append, List.length_replicate]
    omega

end Digest

namespace Authenticator

/-- No secret is refused, not even the empty one. -/
theorem create_eq_ok (secret : String) (scheme : SignatureScheme) :
    create secret scheme = .ok { secret, scheme } := by
  cases scheme with
  | hmacSha256 => simp [create]
  | md5 => rfl

/-! ### Signatures -/

/-- Differences that were seen are never forgotten. -/
theorem foldl_or_eq_zero_iff (bits : Bytes) (seen : UInt8) :
    bits.foldl (· ||| ·) seen = 0 ↔ seen = 0 ∧ ∀ b ∈ bits, b = 0 := by
  induction bits generalizing seen with
  | nil => simp
  | cons b bits ih =>
    rw [List.foldl_cons, ih, UInt8.or_eq_zero_iff, List.forall_mem_cons, and_assoc]

theorem sameBytes_iff {xs ys : Bytes} : sameBytes xs ys = true ↔ xs = ys := by
  simp only [sameBytes, Bool.and_eq_true, beq_iff_eq, foldl_or_eq_zero_iff, true_and]
  constructor
  · rintro ⟨hlength, hbits⟩
    induction xs generalizing ys with
    | nil => exact (List.length_eq_zero_iff.mp hlength.symm).symm
    | cons x xs ih =>
      cases ys with
      | nil => cases hlength
      | cons y ys =>
        rw [List.zipWith_cons_cons, List.forall_mem_cons, UInt8.xor_eq_zero_iff] at hbits
        rw [hbits.1, ih (Nat.succ.inj hlength) hbits.2]
  · rintro rfl
    refine ⟨rfl, fun b hb => ?_⟩
    rw [List.zipWith_self] at hb
    obtain ⟨x, -, rfl⟩ := List.mem_map.mp hb
    exact UInt8.xor_self

/-- Only the signature itself is accepted. -/
theorem verify_iff {a : Authenticator} {user : UInt64} {presented : String} :
    a.verify user presented = true ↔ presented = a.sign user := by
  rw [verify, sameBytes_iff, bytesOf_inj, eq_comm]

theorem verify_eq_false_iff {a : Authenticator} {user : UInt64} {presented : String} :
    a.verify user presented = false ↔ presented ≠ a.sign user := by
  rw [ne_eq, ← verify_iff, Bool.not_eq_true]

/-! ### Digits -/

/-- The digits of signatures. -/
def lowerDigits : List Char :=
  "0123456789abcdef".toList

/-- The number of digits that a scheme's signatures have. -/
def width : SignatureScheme → Nat
  | .hmacSha256 => 64
  | .md5 => 32

theorem length_hexOfBytes (bs : Bytes) : (hexOfBytes bs).length = 2 * bs.length := by
  induction bs with
  | nil => rfl
  | cons b bs ih =>
    rw [hexOfBytes, List.flatMap_cons, List.length_append, ← hexOfBytes, ih, List.length_cons,
      Nat.mul_succ, Nat.add_comm]
    rfl

theorem mem_lowerDigits_of_mem_hexOfBytes {bs : Bytes} {c : Char} (h : c ∈ hexOfBytes bs) :
    c ∈ lowerDigits := by
  have hdigit : ∀ n < 16, hexDigit n ∈ lowerDigits := by decide
  obtain ⟨b, -, hc⟩ := List.mem_flatMap.mp h
  have hb := b.toNat_lt
  rcases List.mem_pair.mp hc with rfl | rfl
  · exact hdigit _ (by omega)
  · exact hdigit _ (by omega)

theorem length_digest (a : Authenticator) (user : UInt64) :
    2 * (a.digest user).length = width a.scheme := by
  obtain ⟨secret, scheme⟩ := a
  cases scheme with
  | hmacSha256 => simp [digest, Digest.Hmac.sign, width]
  | md5 => simp [digest, width]

theorem length_sign (a : Authenticator) (user : UInt64) :
    (a.sign user).toList.length = width a.scheme := by
  rw [sign, String.toList_ofList, length_hexOfBytes, length_digest]

theorem mem_lowerDigits_of_mem_sign {a : Authenticator} {user : UInt64} {c : Char}
    (h : c ∈ (a.sign user).toList) : c ∈ lowerDigits := by
  rw [sign, String.toList_ofList] at h
  exact mem_lowerDigits_of_mem_hexOfBytes h

/-! ### Tampering -/

/-- The part stands in the whole, and is shorter. -/
def ProperPart (part whole : List Char) : Prop :=
  part <:+: whole ∧ part.length < whole.length

/-- What a signature may be changed to. -/
inductive Tampered (signature presented : String) : Prop where
  /-- Something is missing at one of the ends, or at both. -/
  | truncated (shorter : ProperPart presented.toList signature.toList)
  /-- There is something more at one of the ends, or at both. -/
  | extended (longer : ProperPart signature.toList presented.toList)
  /-- There are capital letters in it. -/
  | recased (alike : asciiLower presented.toList = asciiLower signature.toList)
    (capital : ∃ c ∈ presented.toList, c.isUpper)
  /-- One byte is another one. -/
  | altered (changed : ∃ front back old new, bytesOf signature = front ++ old :: back ∧
      bytesOf presented = front ++ new :: back ∧ new ≠ old)

theorem Tampered.ne {signature presented : String} (h : Tampered signature presented)
    (hdigits : ∀ c ∈ signature.toList, c ∈ lowerDigits) : presented ≠ signature := by
  rintro rfl
  cases h with
  | truncated shorter => exact Nat.lt_irrefl _ shorter.2
  | extended longer => exact Nat.lt_irrefl _ longer.2
  | recased alike capital =>
    -- A signature has no capital letters to begin with.
    have hlower : lowerDigits.all (fun c => !c.isUpper) = true := by decide
    obtain ⟨c, hc, hupper⟩ := capital
    have hno := List.all_eq_true.mp hlower c (hdigits c hc)
    rw [hupper] at hno
    cases hno
  | altered changed =>
    obtain ⟨front, back, old, new, hold, hnew, hne⟩ := changed
    rw [hold] at hnew
    exact hne (List.cons.inj (List.append_cancel_left hnew)).1.symm

/-! ### What is signed -/

/-- The signature that a scheme makes of a text. -/
def signatureOf (secret : String) (scheme : SignatureScheme) (text : Bytes) : String :=
  match scheme with
  | .hmacSha256 => String.ofList (hexOfBytes (Digest.Hmac.sign (bytesOf secret) text))
  | .md5 => String.ofList (hexOfBytes (Digest.Md5.hash text))

theorem sign_eq_signatureOf (a : Authenticator) (user : UInt64) :
    a.sign user = signatureOf a.secret a.scheme (a.signedText user) := by
  obtain ⟨secret, scheme⟩ := a
  cases scheme with
  | hmacSha256 => rfl
  | md5 => rfl

/-- No digit is a `:`, so the id ends at the first one. -/
theorem idText_inj {m n : Nat} {s t : String} :
    natText m ++ ":" ++ s = natText n ++ ":" ++ t ↔ m = n ∧ s = t := by
  have hsplit (n : Nat) (s : String) :
      splitFirst? ':' (natText n ++ ":" ++ s).toList = some ((natText n).toList, s.toList) := by
    have hcolon : ':' ∉ (natText n).toList := by
      rw [natText, String.toList_ofList]
      intro hmem
      cases isDigit_of_mem_decimal hmem
    rw [String.toList_append, String.toList_append, List.append_assoc]
    exact splitFirst?_eq_some hcolon s.toList
  constructor
  · intro h
    -- One text comes apart in one way only.
    have hparts := hsplit m s
    rw [h, hsplit, Option.some.injEq, Prod.mk.injEq] at hparts
    obtain ⟨hid, hsecret⟩ := hparts
    exact ⟨(natText_inj.mp (String.toList_inj.mp hid)).symm, (String.toList_inj.mp hsecret).symm⟩
  · rintro ⟨rfl, rfl⟩
    rfl

/-- Other users are signed by other texts; under MD5 so they are with other
    secrets. -/
theorem signedText_eq_iff {a b : Authenticator} (h : a.scheme = b.scheme) {user other : UInt64} :
    a.signedText user = b.signedText other ↔
      user = other ∧ (a.scheme = .md5 → a.secret = b.secret) := by
  obtain ⟨secret, scheme⟩ := a
  obtain ⟨secret', scheme'⟩ := b
  obtain rfl : scheme = scheme' := h
  cases scheme with
  | hmacSha256 =>
    show bytesOf _ = bytesOf _ ↔ _
    rw [bytesOf_inj, natText_inj, UInt64.toNat_inj]
    simp
  | md5 =>
    show bytesOf _ = bytesOf _ ↔ _
    rw [bytesOf_inj, idText_inj, UInt64.toNat_inj]
    simp

/-- Any secret can be used with either scheme, and then all that is accepted for
    a user is the user's signature, byte for byte.  It has the width of the
    scheme and lower-case digits only, so it is not accepted once it is tampered
    with.  It is made of a text that no other user has, and under MD5 no other
    secret either. -/
theorem only_signature_accepted :
    (∀ (secret : String) (scheme : SignatureScheme), ∃ a, create secret scheme = .ok a ∧
      ∀ user : UInt64,
        a.sign user = signatureOf secret scheme (a.signedText user) ∧
        (a.sign user).toList.length = width scheme ∧
        (∀ c ∈ (a.sign user).toList, c ∈ lowerDigits) ∧
        ∀ presented : String,
          (a.verify user presented = true ↔ bytesOf presented = bytesOf (a.sign user)) ∧
          (Tampered (a.sign user) presented → a.verify user presented = false)) ∧
    ∀ (secret secret' : String) (scheme : SignatureScheme) (a b : Authenticator),
      create secret scheme = .ok a → create secret' scheme = .ok b → ∀ user other : UInt64,
        a.signedText user = b.signedText other ↔
          user = other ∧ (scheme = .md5 → secret = secret') := by
  constructor
  · intro secret scheme
    refine ⟨_, create_eq_ok secret scheme, ?_⟩
    intro user
    refine ⟨sign_eq_signatureOf _ user, length_sign _ user,
      fun c hc => mem_lowerDigits_of_mem_sign hc, ?_⟩
    intro presented
    constructor
    · rw [verify_iff, bytesOf_inj]
    · intro htampered
      rw [verify_eq_false_iff]
      exact htampered.ne fun c hc => mem_lowerDigits_of_mem_sign hc
  · intro secret secret' scheme a b ha hb user other
    rw [create_eq_ok] at ha hb
    obtain rfl := Except.ok.inj ha
    obtain rfl := Except.ok.inj hb
    have hscheme : ({ secret, scheme } : Authenticator).scheme =
        ({ secret := secret', scheme } : Authenticator).scheme := rfl
    exact signedText_eq_iff hscheme

/-- One signature, and texts that are refused in its place; then two users whose
    ids go on with the digits that the secrets start with. -/
theorem only_signature_accepted_md5 :
    let a : Authenticator := { secret := "S", scheme := .md5 }
    let signature := "0c1a54d1459c18f847ef083b3c947493"
    let b : Authenticator := { secret := "23", scheme := .md5 }
    let c : Authenticator := { secret := "3", scheme := .md5 }
    create "S" .md5 = .ok a ∧ a.sign 7 = signature ∧ a.verify 7 signature = true ∧
      (Tampered signature "c1a54d1459c18f847ef083b3c94749" ∧
        a.verify 7 "c1a54d1459c18f847ef083b3c94749" = false) ∧
      (Tampered signature "0c1a54d1459c18f847ef083b3c9474930" ∧
        a.verify 7 "0c1a54d1459c18f847ef083b3c9474930" = false) ∧
      (Tampered signature "0C1a54d1459c18f847ef083b3c947493" ∧
        a.verify 7 "0C1a54d1459c18f847ef083b3c947493" = false) ∧
      (Tampered signature "0c1a54d1459c18f847ef083b3c947492" ∧
        a.verify 7 "0c1a54d1459c18f847ef083b3c947492" = false) ∧
      create "23" .md5 = .ok b ∧ create "3" .md5 = .ok c ∧ b.signedText 1 ≠ c.signedText 12 := by
  intro a signature b c
  have hsign : a.sign 7 = signature := by decide +kernel
  obtain ⟨hall, htexts⟩ := only_signature_accepted
  obtain ⟨a', hcreate, haccepted⟩ := hall "S" .md5
  obtain rfl : a = a' := Except.ok.inj hcreate
  obtain ⟨-, -, -, hpresented⟩ := haccepted 7
  rw [hsign] at hpresented
  have hshort : Tampered signature "c1a54d1459c18f847ef083b3c94749" :=
    .truncated ⟨⟨['0'], ['3'], by decide⟩, by decide⟩
  have hlong : Tampered signature "0c1a54d1459c18f847ef083b3c9474930" :=
    .extended ⟨⟨[], ['0'], by decide⟩, by decide⟩
  have hcapital : Tampered signature "0C1a54d1459c18f847ef083b3c947493" :=
    .recased (by decide) ⟨'C', by decide, by decide⟩
  have hbyte : Tampered signature "0c1a54d1459c18f847ef083b3c947492" :=
    .altered ⟨bytesOf "0c1a54d1459c18f847ef083b3c94749", [], 0x33, 0x32, by decide, by decide,
      by decide⟩
  have hb : create "23" .md5 = .ok b := rfl
  have hc : create "3" .md5 = .ok c := rfl
  refine ⟨hcreate, hsign, (hpresented signature).1.mpr rfl, ⟨hshort, (hpresented _).2 hshort⟩,
    ⟨hlong, (hpresented _).2 hlong⟩, ⟨hcapital, (hpresented _).2 hcapital⟩,
    ⟨hbyte, (hpresented _).2 hbyte⟩, hb, hc, ?_⟩
  rw [ne_eq, htexts "23" "3" .md5 b c hb hc 1 12]
  decide

end Authenticator

end FlashSale
