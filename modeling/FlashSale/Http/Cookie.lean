import FlashSale.Text.Blank
import FlashSale.Text.Percent
import FlashSale.Text.Split
import FlashSale.Text.Utf8

/-! # Cookies

    The value of a cookie header is a list of pairs.  A piece that is no pair,
    or not UTF-8 after decoding, is left out; it has no effect on the others. -/

namespace FlashSale.Http

open Text

/-- The text of one side of a pair. -/
def decodeCookieText? (cs : List Char) : Option String :=
  stringOf? (Percent.decode (utf8Encode cs))

/-- Reads one piece of a cookie header. -/
def decodeCookie? (piece : List Char) : Option (String × String) := do
  let (name, value) ← splitFirst? '=' (trim piece)
  let name := trim name
  if name.isEmpty then none
  else return (← decodeCookieText? name, ← decodeCookieText? (trim value))

/-- Reads the value of a cookie header. -/
def decodeCookies (header : String) : List (String × String) :=
  (header.toList.splitOn ';').filterMap decodeCookie?

end FlashSale.Http
