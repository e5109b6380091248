import FlashSale.Http.Surface
import FlashSale.Text.Decimal

/-! # The head of a request

    A request arrives as lines that end with CR LF: the request line, a line for
    each header, and an empty line.  Most of what is wrong with it is answered
    with a bare status; where the connection is lost there is no answer. -/

namespace FlashSale.Http

open Text

/-! ### Lines -/

/-- The lines of a text, and what comes after the last of them. -/
def splitLines : List Char → List (List Char) × List Char
  | [] => ([], [])
  | '\r' :: '\n' :: cs =>
    let (lines, rest) := splitLines cs
    ([] :: lines, rest)
  | c :: cs =>
    match splitLines cs with
    | ([], rest) => ([], c :: rest)
    | (line :: lines, rest) => ((c :: line) :: lines, rest)

/-- Is every character one of ASCII? -/
def isAscii (cs : List Char) : Bool :=
  cs.all fun c => c.toNat < 0x80

/-! ### Faults -/

/-- Why a request cannot be read. -/
inductive HeadFault where
  /-- A line does not have its form. -/
  | malformed
  /-- The client expects what is not known here. -/
  | expectation
  /-- The version of the protocol is too new. -/
  | version
  /-- The request ends too soon, or is not a text of ASCII. -/
  | lost
  deriving Repr, DecidableEq

namespace HeadFault

/-- A response that holds nothing but a status. -/
def bare (status : Nat) : Response :=
  { status, headers := [], body := [] }

/-- The response to a request that cannot be read, if there is any. -/
def response? : HeadFault → Option Response
  | .malformed => some (bare 400)
  | .expectation => some (bare 417)
  | .version =>
    some { status := 505
           headers := [("content-type", "text/plain; charset=UTF-8")]
           body := bytesOf "This server only supports HTTP versions 1.0 and 1.1" }
  | .lost => none

end HeadFault

/-! ### Reading -/

/-- Does a version of the protocol go beyond what is spoken here?  There is no
    answer for a version that does not exist. -/
def isTooNew? (version : String) : Option Bool :=
  [("HTTP/0.9", false), ("HTTP/1.0", false), ("HTTP/1.1", false), ("HTTP/2.0", true),
    ("HTTP/3.0", true)].lookup version

/-- The request line. -/
structure RequestLine where
  method : String
  target : String
  isTooNew : Bool
  deriving Repr, DecidableEq

/-- Reads the request line: a method, a target and a version with one space
    between them.  What comes after them does not matter. -/
def RequestLine.parse? (line : List Char) : Option RequestLine :=
  match (trim line).splitOn ' ' with
  | method :: target :: version :: _ =>
    (isTooNew? (String.ofList version)).map fun isTooNew =>
      { method := String.ofList method, target := String.ofList target, isTooNew }
  | _ => none

/-- Reads the line of a header: a name without white space, a colon and a
    value. -/
def header? (line : List Char) : Option (String × String) :=
  (splitFirst? ':' (trim line)).bind fun (name, value) =>
    if name.any isBlank then none else some (String.ofList name, String.ofList (trim value))

/-- Reads headers up to the empty line.  The lines after it come second. -/
def readHeaders :
    List (List Char) → Except HeadFault (List (String × String) × List (List Char))
  | [] => .error .lost
  | line :: lines =>
    if line.isEmpty then .ok ([], lines)
    else if isAscii line then
      match header? line with
      | none => .error .malformed
      | some header => (readHeaders lines).map fun (headers, rest) => (header :: headers, rest)
    else .error .lost

namespace Message

/-- The first value of a header. -/
def value? (m : Message) (name : String) : Option String :=
  (m.values name).head?

/-- Does the client expect to be told to go on? -/
def expectsContinue (m : Message) : Bool :=
  (m.value? "expect").any fun value => asciiLower value.toList == "100-continue".toList

/-- The number of bytes that have to come with the head: those of a short body
    that is not held back. -/
def bytesAtOnce (m : Message) : Nat :=
  if (m.value? "transfer-encoding").isSome then 0
  else
    match (m.value? "content-length").map fun value => readUInt64 value.toList with
    | some (.ok n) => if n ≤ 1024 && !m.expectsContinue then n.toNat else 0
    | _ => 0

/-- Checks a message whose head could be read. -/
def checked (m : Message) (isTooNew : Bool) (bytesLeft : Nat) : Except HeadFault Message :=
  if (m.value? "expect").isSome && !m.expectsContinue then .error .expectation
  else if bytesLeft < m.bytesAtOnce then .error .lost
  else if isTooNew then .error .version
  else .ok m

/-- Reads a request. -/
def read (text : String) : Except HeadFault Message :=
  let (lines, rest) := splitLines text.toList
  match lines with
  | [] => .error .lost
  | line :: lines =>
    if isAscii line then
      match RequestLine.parse? line with
      | none => .error .malformed
      | some first =>
        match readHeaders lines with
        | .error fault => .error fault
        | .ok (headers, body) =>
          let left := body.foldl (fun left line => left + (utf8Encode line).length + 2) 0
          checked { method := first.method, target := first.target, headers } first.isTooNew
            (left + (utf8Encode rest).length)
    else .error .lost

end Message

/-! ### Serving -/

/-- Serves a request as it arrives; there may be no response. -/
def serveText {σ : Type} (handle : σ → Request → Envelope × σ) (minted : RequestId) (time : Int64)
    (s : σ) (text : String) : Option Response × σ :=
  match Message.read text with
  | .error fault => (fault.response?, s)
  | .ok m =>
    let (response, s) := serve handle minted time s m
    (some response, s)

end FlashSale.Http
