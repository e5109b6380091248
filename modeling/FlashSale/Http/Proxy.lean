import FlashSale.Http.Url
import FlashSale.Settings.Override

/-! # Proxies

    A proxy is a server that passes requests on to others.  The environment may
    name one, and also hosts that are to be asked without it. -/

namespace FlashSale.Http

open Text

/-- A server, and whether it is spoken to under encryption. -/
structure Server where
  secure : Bool
  host : String
  port : Nat
  deriving Repr, DecidableEq

/-- The server of an address. -/
def Url.server (u : Url) : Server :=
  { secure := u.secure, host := u.host, port := u.port }

/-- The proxies of a client. -/
structure Proxies where
  /-- The proxy for addresses without encryption. -/
  plain : Option Server := none
  /-- The proxy for addresses with encryption. -/
  secure : Option Server := none
  /-- The hosts that are asked without a proxy. -/
  exempt : List (List Char) := []
  deriving Repr, DecidableEq

namespace Proxies

/-! ### Numbers of machines -/

/-- A part of a number: decimal, below 256, without zeros in front. -/
def byte? (cs : List Char) : Option Nat :=
  if cs.head? = some '0' && cs.length > 1 then none
  else (Host.valueIn? 10 cs).bind fun n => if cs.isEmpty || 256 ≤ n then none else some n

/-- The number that a text gives in its usual form, with four parts. -/
def address? (cs : List Char) : Option Nat :=
  let parts := cs.splitOn '.'
  if parts.length = 4 then (parts.mapM byte?).map fun bytes => bytes.foldl (256 * · + ·) 0
  else none

/-- Is the address the one that a text gives, or in the network that it gives?
    The length after the slash of a network tells how many bits count. -/
def coversAddress (address : Nat) (text : List Char) : Bool :=
  match splitFirst? '/' text with
  | none => address? text == some address
  | some (base, length) =>
    match address? base, byte? length with
    | some base, some length =>
      length ≤ 32 && base >>> (32 - length) == address >>> (32 - length)
    | _, _ => false

/-! ### Names -/

/-- Is the name the one that a text gives, or under it?  `*` gives all names. -/
def coversName (name text : List Char) : Bool :=
  let bare := if text.head? = some '.' then text.drop 1 else text
  text == ['*'] || asciiLower name == asciiLower bare || ('.' :: bare).isSuffixOf name

/-- Is the host asked without a proxy? -/
def isExempt (p : Proxies) (host : String) : Bool :=
  match address? host.toList with
  | some address => p.exempt.any (coversAddress address)
  | none => p.exempt.any (coversName host.toList)

/-! ### The environment -/

/-- The proxy that a text names; the scheme may be left out, and a path after the
    server does not matter then. -/
def server? (text : String) : Option Server :=
  let cs := text.toList
  let lower := String.ofList (asciiLower cs)
  let named (cs : List Char) : Option Server :=
    (Url.server? 80 (Url.withoutUser cs)).map fun (host, port) => { secure := false, host, port }
  if lower.startsWith "http://" then named ((cs.drop 7).takeWhile fun c => c != '/' && c != '?')
  else if lower.startsWith "https://" then (Url.parse? text).map Url.server
  else if cs.contains '/' || cs.contains '?' then none
  else named cs

/-- The first of some variables that is set. -/
def firstSet? (env : Environment) (names : List String) : Option String :=
  names.findSome? fun name => env.lookup name

/-- The proxies that the environment names.  A program that answers for a web
    server does not look for them. -/
def ofEnvironment (env : Environment) : Proxies :=
  let named (names : List String) := (firstSet? env names).bind server?
  let all := named ["ALL_PROXY", "all_proxy"]
  if (env.lookup "REQUEST_METHOD").isSome then {}
  else
    { plain := (named ["HTTP_PROXY", "http_proxy"]).or all
      secure := (named ["HTTPS_PROXY", "https_proxy"]).or all
      exempt := (((firstSet? env ["NO_PROXY", "no_proxy"]).getD "").toList.splitOn ',').map trim }

/-- The proxy that a request for an address goes through. -/
def proxyFor? (p : Proxies) (u : Url) : Option Server :=
  if p.isExempt u.host then none else if u.secure then p.secure else p.plain

end Proxies

end FlashSale.Http
