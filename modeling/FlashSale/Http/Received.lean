import FlashSale.Text.Blank
import FlashSale.Text.Hex
import FlashSale.Text.Split
import FlashSale.Text.Utf8

/-! # Responses as they are received

    A response arrives as bytes: a line with its status, lines with its headers,
    an empty line, and a body.  The headers say where the body ends.  A status
    that only informs is followed by the response that it announces. -/

namespace FlashSale.Http

open Text

/-- A response, with its body as far as it arrived. -/
structure Received where
  status : Nat
  /-- Where else to ask. -/
  location : Option Bytes := none
  body : Bytes
  /-- Did the whole body arrive? -/
  complete : Bool
  deriving Repr, DecidableEq

namespace Received

/-! ### Statuses -/

/-- Does the status only tell that another response follows? -/
def isInformation (status : Nat) : Bool :=
  100 ≤ status && status < 200 && status != 101

/-- Is there never a body with the status? -/
def isBodiless (status : Nat) : Bool :=
  [101, 204, 304].contains status

/-- Does the status tell of an error? -/
def isError (r : Received) : Bool :=
  400 ≤ r.status && r.status < 600

/-! ### Lines -/

/-- The first line, which ends with LF, and what follows it.  A CR before the LF
    belongs to the end. -/
def line? (bs : Bytes) : Option (Bytes × Bytes) :=
  (splitFirst? 0x0A bs).map fun (line, rest) =>
    (if line.getLast? = some 0x0D then line.dropLast else line, rest)

/-- Can a line hold the byte?  It can hold blanks, what is seen, and what is
    beyond ASCII. -/
def isLineByte (b : UInt8) : Bool :=
  b == 0x09 || (0x20 ≤ b && b != 0x7F)

/-- Is the byte a blank of a line? -/
def isLineBlank (b : UInt8) : Bool :=
  b == 0x20 || b == 0x09

/-- Cuts blanks off both ends of a value. -/
def trimmedValue (value : Bytes) : Bytes :=
  ((value.dropWhile isLineBlank).reverse.dropWhile isLineBlank).reverse

/-- The character of a byte that is one of ASCII. -/
def charOf (b : UInt8) : Char :=
  Char.ofNat b.toNat

/-- The text of some bytes that are all of ASCII. -/
def asciiText? (bs : Bytes) : Option (List Char) :=
  if bs.all (· < 0x80) then some (bs.map charOf) else none

/-! ### The head -/

/-- Status and headers of a response. -/
structure Head where
  /-- Is the version of the protocol 1.0? -/
  isOld : Bool
  status : Nat
  /-- Names in lower case, with their values. -/
  headers : List (String × Bytes)
  deriving Repr, DecidableEq

/-- Reads the line with the status: a version, three digits, and perhaps a
    blank and any text. -/
def statusLine? (line : Bytes) : Option (Bool × Nat) :=
  let isOld := line.take 8 == bytesOf "HTTP/1.0"
  if (isOld || line.take 8 == bytesOf "HTTP/1.1") && (line.drop 8).head? == some 0x20 then
    let digits := (line.drop 9).take 3
    let rest := line.drop 12
    if digits.length = 3 && digits.all (fun b => (charOf b).isDigit) &&
        (rest.isEmpty || (rest.head? == some 0x20 && rest.all isLineByte)) then
      let status := digits.foldl (fun n b => 10 * n + (b.toNat - 48)) 0
      if 100 ≤ status then some (isOld, status) else none
    else none
  else none

/-- Can the character be in the name of a header? -/
def isNameChar (c : Char) : Bool :=
  c.isAlphanum || "!#$%&'*+-.^_|~\x60".toList.contains c

/-- Reads the line of a header: a name, a colon and a value. -/
def headerLine? (line : Bytes) : Option (String × Bytes) :=
  (splitFirst? 0x3A line).bind fun (name, value) =>
    (asciiText? name).bind fun name =>
      if !name.isEmpty && name.all isNameChar && value.all isLineByte then
        some (String.ofList (asciiLower name), trimmedValue value)
      else none

/-- Reads headers up to the empty line.  Every line takes a byte, so the length
    of the text bounds their number. -/
def headers? : Nat → Bytes → Option (List (String × Bytes) × Bytes)
  | 0, _ => none
  | bound + 1, bs =>
    (line? bs).bind fun (line, rest) =>
      if line.isEmpty then some ([], rest)
      else
        (headerLine? line).bind fun header =>
          (headers? bound rest).map fun (headers, rest) => (header :: headers, rest)

/-- The number of headers that a response may have. -/
def maxHeaders : Nat := 100

/-- Passes over empty lines. -/
def dropEmptyLines : Bytes → Bytes
  | 0x0D :: 0x0A :: bs => dropEmptyLines bs
  | 0x0A :: bs => dropEmptyLines bs
  | bs => bs

/-- Reads the head of a response; what follows it comes second. -/
def head? (bs : Bytes) : Option (Head × Bytes) :=
  (line? (dropEmptyLines bs)).bind fun (line, rest) =>
    (statusLine? line).bind fun (isOld, status) =>
      (headers? bs.length rest).bind fun (headers, rest) =>
        if headers.length ≤ maxHeaders then some ({ isOld, status, headers }, rest) else none

/-- The values of a header in their order. -/
def Head.values (h : Head) (name : String) : List Bytes :=
  (h.headers.filter fun header => header.1 == name).map Prod.snd

/-! ### Bodies in chunks -/

/-- Reads up to a CR LF; there may be no other CR before it. -/
def chunkLine? (bs : Bytes) : Option (Bytes × Bytes) :=
  match splitFirst? 0x0D bs with
  | some (line, 0x0A :: rest) => some (line, rest)
  | _ => none

/-- The size that the line before a chunk tells: hexadecimal digits, then
    perhaps blanks, then perhaps a `;` and anything but LF. -/
def chunkSize? (line : Bytes) : Option Nat :=
  let digits := line.takeWhile fun b => (hexByteValue? b).isSome
  let rest := (line.drop digits.length).dropWhile isLineBlank
  let size := digits.foldl (fun n b => 16 * n + (hexByteValue? b).getD 0) 0
  if !digits.isEmpty && size < UInt64.size && (rest.isEmpty || rest.head? == some 0x3B) &&
      !rest.contains 0x0A then
    some size
  else none

/-- Are these the headers that may come after the last chunk, and the empty line
    that ends them? -/
def areTrailers : Nat → Bytes → Bool
  | 0, _ => false
  | bound + 1, bs =>
    match chunkLine? bs with
    | some ([], _) => true
    | some (line, rest) => (headerLine? line).isSome && areTrailers bound rest
    | none => false

/-- Puts the chunks of a body together, and tells whether all of them came. -/
def joinChunks : Nat → Bytes → Bytes × Bool
  | 0, _ => ([], false)
  | bound + 1, bs =>
    match (chunkLine? bs).bind fun (line, rest) => (chunkSize? line).map (·, rest) with
    | none => ([], false)
    | some (0, rest) => ([], areTrailers (rest.length + 1) rest)
    | some (size, rest) =>
      match rest.drop size with
      | 0x0D :: 0x0A :: after =>
        let (body, complete) := joinChunks bound after
        (rest.take size ++ body, complete)
      | _ => (rest.take size, false)

/-! ### Bodies -/

/-- How the end of a body is known. -/
inductive Framing where
  | bodiless
  | chunks
  | length (n : Nat)
  /-- The body goes on until the connection is closed. -/
  | untilClosed
  deriving Repr, DecidableEq

/-- The length that headers tell, if they all agree. -/
def commonLength? (values : List Bytes) : Option Nat :=
  let lengths := values.mapM fun value =>
    (asciiText? value).bind fun text => (text.splitOn ',').mapM fun piece =>
      let digits := trim piece
      if !digits.isEmpty && digits.all Char.isDigit then
        some (digits.foldl (fun n c => 10 * n + (c.toNat - 48)) 0)
      else none
  match lengths.map List.flatten with
  | some (n :: rest) => if rest.all (· == n) && n < UInt64.size - 2 then some n else none
  | _ => none

/-- How a head says that the body ends; it may contradict itself. -/
def Head.framing? (h : Head) : Option Framing :=
  if isBodiless h.status then some .bodiless
  else
    match (h.values "transfer-encoding").getLast? with
    | some value =>
      if h.isOld then none
      else
        let last := (asciiText? value).bind fun text => (text.splitOn ',').getLast?
        if last.any fun piece => asciiLower (trim piece) == "chunked".toList then some .chunks
        else some .untilClosed
    | none =>
      if (h.values "content-length").isEmpty then some .untilClosed
      else (commonLength? (h.values "content-length")).map .length

/-- Takes a body out of what follows the head. -/
def Framing.body : Framing → Bytes → Bytes × Bool
  | .bodiless, _ => ([], true)
  | .chunks, bs => joinChunks (bs.length + 1) bs
  | .length n, bs => (bs.take n, n ≤ bs.length)
  | .untilClosed, bs => (bs, true)

/-- Reads a response, passing over those that only inform.  Every one of them
    takes a byte, so the length of the text bounds their number. -/
def readWithin? : Nat → Bytes → Option Received
  | 0, _ => none
  | bound + 1, bs =>
    (head? bs).bind fun (head, rest) =>
      if isInformation head.status then readWithin? bound rest
      else
        head.framing?.map fun framing =>
          let (body, complete) := framing.body rest
          { status := head.status, location := (head.values "location").head?, body, complete }

/-- Reads a response. -/
def read? (bs : Bytes) : Option Received :=
  readWithin? (bs.length + 1) bs

/-! ### The response that counts -/

/-- The response that counts of what a server sends.  A status has three digits;
    one that only informs is followed by another response, and with some there
    is no body. -/
def final? (r : Received) : Option Received :=
  if r.status < 100 || 1000 ≤ r.status then none
  else if isInformation r.status then read? r.body
  else if isBodiless r.status then some { r with body := [], complete := true }
  else some r

end Received

end FlashSale.Http
