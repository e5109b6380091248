import FlashSale.Http.Proxy
import FlashSale.Http.Received

/-! # Exchanges

    A client sends a document to a web address, perhaps through a proxy, and gets
    a response.  A response may send the client on to another address, and a
    client that is sent on too often gives up. -/

namespace FlashSale.Http

open Text

/-- What is sent to a server. -/
structure Sent where
  url : Url
  /-- Is the document sent along?  If not, the address is only asked for. -/
  posts : Bool := true
  proxies : Proxies := {}
  deriving Repr, DecidableEq

namespace Sent

/-- The server that it is sent to. -/
def server (s : Sent) : Server :=
  (s.proxies.proxyFor? s.url).getD s.url.server

/-- What is asked of the server; a proxy is told the whole address. -/
def target (s : Sent) : String :=
  if (s.proxies.proxyFor? s.url).isSome then s.url.origin ++ s.url.target else s.url.target

/-- How often a client lets itself be sent on. -/
def maxRedirections : Nat := 10

/-- Where a response sends the client; three statuses tell not to send the
    document again. -/
def redirected? (s : Sent) (r : Received) : Option Sent :=
  if [301, 302, 303, 307, 308].contains r.status then
    ((r.location.bind stringOf?).bind s.url.join?).map fun url =>
      { s with url, posts := s.posts && (r.status == 307 || r.status == 308) }
  else none

/-- What comes of something sent, when the client may be sent on so many times
    yet.  The second part lists what was sent in all. -/
def exchangeWithin (answer : Sent → Option Received) :
    Nat → Sent → Option Received × List Sent
  | redirections, s =>
    if !s.url.isSendable then (none, [])
    else
      match (answer s).bind Received.final? with
      | none => (none, [s])
      | some r =>
        match s.redirected? r with
        | none => (some r, [s])
        | some next =>
          match redirections with
          | 0 => (none, [s])
          | redirections + 1 =>
            let (result, later) := exchangeWithin answer redirections next
            (result, s :: later)

/-- What comes of something sent: the response in the end, if there is one, and
    what was sent in all. -/
def exchange (answer : Sent → Option Received) (s : Sent) : Option Received × List Sent :=
  exchangeWithin answer maxRedirections s

end Sent

end FlashSale.Http
