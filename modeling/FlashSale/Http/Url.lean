import FlashSale.Http.Host
import FlashSale.Text.Decimal
import FlashSale.Text.Split

/-! # Web addresses

    The address of a resource on a web server: `http://host:port/path?query`,
    or the same with `https`.  Many texts stand for one address: slashes may
    lean either way, dots in a path go up or stay, and what a path or a query
    cannot hold is escaped.  A name and a password before the host, and a
    fragment after everything, are not part of what is asked for.  An address
    may also be given by its difference from another one. -/

namespace FlashSale.Http

open Text

/-- A web address as far as a request needs it. -/
structure Url where
  /-- Is it spoken to under encryption? -/
  secure : Bool
  host : String
  port : Nat
  /-- The segments of the path. -/
  path : List String
  query : Option String
  fragment : Option String
  deriving Repr, DecidableEq

namespace Url

/-! ### Characters -/

/-- Is the character dropped wherever it stands? -/
def isDropped (c : Char) : Bool :=
  c == '\t' || c == '\n' || c == '\r'

/-- Is the character cut off at both ends? -/
def isMargin (c : Char) : Bool :=
  c.toNat ≤ 0x20

/-- Slashes lean either way. -/
def isSlash (c : Char) : Bool :=
  c == '/' || c == '\\'

/-- Does the character end the part that names the server? -/
def endsServer (c : Char) : Bool :=
  isSlash c || c == '?'

/-- Is the character a control or beyond ASCII? -/
def isForeign (c : Char) : Bool :=
  c.toNat < 0x20 || 0x7F ≤ c.toNat

/-- Must the character be escaped in a path? -/
def escapedInPath (c : Char) : Bool :=
  isForeign c || [' ', '"', '<', '>', '\x60', '#', '?', '\x7b', '\x7d'].contains c

/-- Must the character be escaped in a query? -/
def escapedInQuery (c : Char) : Bool :=
  isForeign c || [' ', '"', '<', '>', '#', '\''].contains c

/-- Must the character be escaped in a fragment? -/
def escapedInFragment (c : Char) : Bool :=
  isForeign c || [' ', '"', '<', '>', '\x60'].contains c

/-- The escape of a byte: `%` and two upper-case digits. -/
def escapeByte (b : UInt8) : List Char :=
  let digit (n : Nat) : Char := Char.ofNat (if n < 10 then 48 + n else 55 + n)
  ['%', digit (b.toNat / 16), digit (b.toNat % 16)]

/-- Escapes the characters that have to be, each as its bytes in UTF-8. -/
def escape (mustBe : Char → Bool) (cs : List Char) : String :=
  String.ofList (cs.flatMap fun c => if mustBe c then (utf8Encode [c]).flatMap escapeByte else [c])

/-! ### The text of an address -/

/-- The port that is meant if none is named. -/
def usualPort (secure : Bool) : Nat :=
  if secure then 443 else 80

/-- What stands before the path. -/
def origin (u : Url) : String :=
  (if u.secure then "https://" else "http://") ++ u.host ++
    if u.port = usualPort u.secure then "" else ":" ++ natText u.port

/-- Path and query: what is asked of the server. -/
def target (u : Url) : String :=
  String.join (u.path.map ("/" ++ ·)) ++ ((u.query.map ("?" ++ ·)).getD "")

/-- The whole address. -/
def text (u : Url) : String :=
  u.origin ++ u.target ++ ((u.fragment.map ("#" ++ ·)).getD "")

/-- The length of the longest address, in bytes, that can be asked for. -/
def maxLength : Nat := 65534

/-- Can the address be asked for? -/
def isSendable (u : Url) : Bool :=
  u.text.utf8ByteSize ≤ maxLength

/-! ### The server -/

/-- The number of a port; nothing stands for the usual one. -/
def port? (usual : Nat) (cs : List Char) : Option Nat :=
  if cs.isEmpty then some usual
  else if cs.all Char.isDigit then
    match readNatural (UInt16.size - 1) cs with
    | .ok n => some n
    | .error _ => none
  else none

/-- The host and the port that a text names.  A host in brackets may hold
    colons. -/
def server? (usual : Nat) (cs : List Char) : Option (String × Nat) :=
  match cs with
  | '[' :: rest =>
    match splitFirst? ']' rest with
    | some (host, []) => some (String.ofList ('[' :: host ++ [']']), usual)
    | some (host, ':' :: port) =>
      (port? usual port).map fun n => (String.ofList ('[' :: host ++ [']']), n)
    | _ => none
  | _ =>
    let (host, port) := splitFirst ':' cs
    (Host.parse? host).bind fun host => (port? usual port).map fun n => (host, n)

/-- What stands after the last `@`: a name and a password may come before it. -/
def withoutUser (cs : List Char) : List Char :=
  match splitLast? '@' cs with
  | some (_, rest) => rest
  | none => cs

/-! ### The target -/

/-- Does the segment stand for the one it is in?  A dot may be escaped. -/
def staysHere (segment : List Char) : Bool :=
  [".", "%2e"].contains (String.ofList (asciiLower segment))

/-- Does the segment stand for the one above? -/
def goesUp (segment : List Char) : Bool :=
  ["..", ".%2e", "%2e.", "%2e%2e"].contains (String.ofList (asciiLower segment))

/-- Follows segments from a place in a path, so that no dots are left.  Dots at
    the end leave an empty segment there. -/
def followDots (place : List String) (segments : List (List Char)) : List String :=
  let kept := segments.foldl (fun kept segment =>
    if goesUp segment then kept.drop 1
    else if staysHere segment then kept
    else escape escapedInPath segment :: kept) place.reverse
  let atDots := segments.getLast?.any fun segment => goesUp segment || staysHere segment
  (if atDots then "" :: kept else kept).reverse

/-- The segments of a text; slashes lean either way. -/
def segmentsOf (cs : List Char) : List (List Char) :=
  (cs.map fun c => if isSlash c then '/' else c).splitOn '/'

/-- The path that a text stands for, from a place in a path on.  A slash in
    front does not make an empty segment. -/
def pathFrom (place : List String) (cs : List Char) : List String :=
  followDots place (segmentsOf (if cs.head?.any isSlash then cs.drop 1 else cs))

/-- The query that a text stands for. -/
def queryOf (cs : List Char) : String :=
  escape escapedInQuery cs

/-! ### Reading -/

/-- Reads what follows the scheme. -/
def read? (secure : Bool) (fragment : Option String) (cs : List Char) : Option Url :=
  let cs := cs.dropWhile isSlash
  let server := cs.takeWhile fun c => !endsServer c
  (server? (usualPort secure) (withoutUser server)).map fun (host, port) =>
    let (path, query) := match splitFirst? '?' (cs.dropWhile fun c => !endsServer c) with
      | some (path, query) => (path, some (queryOf query))
      | none => (cs.dropWhile fun c => !endsServer c, none)
    { secure, host, port, path := pathFrom [] path, query, fragment }

/-- What a text says without the characters that do not count, and its
    fragment. -/
def tidied (text : String) : List Char × Option String :=
  let cs := ((text.toList.dropWhile isMargin).reverse.dropWhile isMargin).reverse
  match splitFirst? '#' (cs.filter fun c => !isDropped c) with
  | some (before, fragment) => (before, some (escape escapedInFragment fragment))
  | none => (cs.filter fun c => !isDropped c, none)

/-- Splits off the scheme: letters, digits and three signs before the first
    colon, a letter first. -/
def scheme? (cs : List Char) : Option (String × List Char) :=
  (splitFirst? ':' cs).bind fun (scheme, rest) =>
    if scheme.head?.any Char.isAlpha &&
        scheme.all fun c => c.isAlphanum || ['+', '-', '.'].contains c then
      some (String.ofList (asciiLower scheme), rest)
    else none

/-- Reads an address. -/
def parse? (text : String) : Option Url :=
  let (cs, fragment) := tidied text
  match scheme? cs with
  | some ("http", rest) => read? false fragment rest
  | some ("https", rest) => read? true fragment rest
  | _ => none

/-! ### Differences -/

/-- The address that differs from `u` by what comes after its scheme. -/
def differing? (u : Url) (fragment : Option String) (cs : List Char) : Option Url :=
  let (before, query) := match splitFirst? '?' cs with
    | some (before, query) => (before, some (queryOf query))
    | none => (cs, none)
  match before with
  | [] => some { u with query := if cs.isEmpty then u.query else query, fragment }
  | first :: rest =>
    if isSlash first then
      if rest.head?.any isSlash then read? u.secure fragment cs
      else some { u with path := pathFrom [] before, query, fragment }
    else some { u with path := followDots u.path.dropLast (segmentsOf before), query, fragment }

/-- The address that a text gives, on its own or by its difference from `u`. -/
def join? (u : Url) (text : String) : Option Url :=
  let (cs, fragment) := tidied text
  match scheme? cs with
  | none => u.differing? fragment cs
  | some (scheme, rest) =>
    let isWhole := (rest.take 2).length = 2 && (rest.take 2).all isSlash
    if scheme = "http" then
      if u.secure || isWhole then read? false fragment rest else u.differing? fragment rest
    else if scheme = "https" then
      if !u.secure || isWhole then read? true fragment rest else u.differing? fragment rest
    else none

end Url

end FlashSale.Http
