import FlashSale.Digest.Hmac
import FlashSale.Digest.Md5
import FlashSale.Text.Decimal
import FlashSale.Text.Utf8

/-! # User signatures

    Clients prove who they are by a signature of their user id, made with a
    secret that only the gateway and the login service know. -/

namespace FlashSale

open Text

/-- How signatures are made. -/
inductive SignatureScheme where
  | hmacSha256
  | md5
  deriving Repr, DecidableEq

namespace SignatureScheme

/-- The scheme of new installations. -/
def default : SignatureScheme := .hmacSha256

/-- The scheme with exactly the given name. -/
def ofName? (name : String) : Option SignatureScheme :=
  if name = "hmac-sha256" then some .hmacSha256
  else if name = "md5" then some .md5
  else none

/-- The scheme with the given name in any case. -/
def parse? (text : String) : Option SignatureScheme :=
  ofName? (String.ofList (asciiLower text.toList))

/-- The name used in log lines. -/
def label : SignatureScheme → String
  | .hmacSha256 => "HmacSha256"
  | .md5 => "Md5"

end SignatureScheme

/-- Makes and checks signatures. -/
structure Authenticator where
  secret : String
  scheme : SignatureScheme
  deriving DecidableEq

/-- A secret that cannot be used with a scheme. -/
structure UnusableSecret where
  scheme : SignatureScheme
  deriving Repr, DecidableEq

/-- The wording of the fault. -/
def UnusableSecret.message (fault : UnusableSecret) : String :=
  "cookie secret key is not usable with " ++ fault.scheme.label

namespace Authenticator

/-- Makes an authenticator.  For HMAC the secret has to give a key that fills a
    block, no more and no less; MD5 takes it as it is. -/
def create (secret : String) (scheme : SignatureScheme) : Except UnusableSecret Authenticator :=
  match scheme with
  | .hmacSha256 =>
    if (Digest.Hmac.blockKey (bytesOf secret)).length = 64 then .ok { secret, scheme }
    else .error { scheme }
  | .md5 => .ok { secret, scheme }

/-- The text that stands for a user: the id, and under MD5 the secret after
    it. -/
def signedText (a : Authenticator) (user : UInt64) : Bytes :=
  match a.scheme with
  | .hmacSha256 => bytesOf (natText user.toNat)
  | .md5 => bytesOf (natText user.toNat ++ ":" ++ a.secret)

/-- The digest behind a signature. -/
def digest (a : Authenticator) (user : UInt64) : Bytes :=
  match a.scheme with
  | .hmacSha256 => Digest.Hmac.sign (bytesOf a.secret) (a.signedText user)
  | .md5 => Digest.Md5.hash (a.signedText user)

/-- The signature of a user in lower-case hexadecimal. -/
def sign (a : Authenticator) (user : UInt64) : String :=
  String.ofList (hexOfBytes (a.digest user))

/-- Compares two texts byte by byte.  All bytes are looked at, so the time does
    not tell how many of them agree. -/
def sameBytes (xs ys : Bytes) : Bool :=
  xs.length == ys.length && (xs.zipWith (· ^^^ ·) ys).foldl (· ||| ·) 0 == 0

/-- Is the presented text the signature of the user? -/
def verify (a : Authenticator) (user : UInt64) (presented : String) : Bool :=
  sameBytes (bytesOf (a.sign user)) (bytesOf presented)

/-- The text that shows an authenticator without its secret. -/
def describe (a : Authenticator) : String :=
  "Authenticator \x7b secret: ***, scheme: " ++ a.scheme.label ++ " \x7d"

end Authenticator

end FlashSale
