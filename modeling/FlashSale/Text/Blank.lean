/-! # White space

    The characters that may be cut off at the ends of a text, and the cutting.
    The set is the Unicode property `White_Space`; it is wider than what core
    calls white space. -/

namespace FlashSale.Text

/-- Does the character have the Unicode property `White_Space`? -/
def isBlank (c : Char) : Bool :=
  let n := c.toNat
  (9 ≤ n && n ≤ 13) || n == 0x20 || n == 0x85 || n == 0xA0 || n == 0x1680 ||
    (0x2000 ≤ n && n ≤ 0x200A) || n == 0x2028 || n == 0x2029 || n == 0x202F ||
    n == 0x205F || n == 0x3000

/-- Drops the longest run of `p` at the end. -/
def dropEndWhile (p : Char → Bool) (cs : List Char) : List Char :=
  (cs.reverse.dropWhile p).reverse

/-- Drops the longest runs of `p` at both ends. -/
def trimWhile (p : Char → Bool) (cs : List Char) : List Char :=
  dropEndWhile p (cs.dropWhile p)

/-- Cuts white space off both ends. -/
def trim (cs : List Char) : List Char :=
  trimWhile isBlank cs

/-- Cuts white space off both ends of a string. -/
def trimmed (s : String) : String :=
  String.ofList (trim s.toList)

end FlashSale.Text
