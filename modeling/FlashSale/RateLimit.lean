/-! # Attempts per user and second

    For each user the limiter keeps the second of the last attempt and how
    many there were in it.  The first attempt at a new second drops what is
    kept for users not seen at that second or the one before it, so memory
    follows the users of the last two seconds. -/

namespace FlashSale

/-- Whether an attempt may go on. -/
inductive Decision where
  | accept
  | throttle
  deriving Repr, DecidableEq

/-- The attempts of one user at one second. -/
structure Tally where
  user : UInt64
  count : UInt32
  second : Int64
  deriving Repr, DecidableEq

/-- One more, unless the number would no longer fit. -/
def Tally.increase (n : UInt32) : UInt32 :=
  if n = UInt32.ofNat (UInt32.size - 1) then n else n + 1

/-- The tally after one more attempt. -/
def Tally.observe (t : Tally) (now : Int64) : Tally :=
  if t.second = now then { t with count := increase t.count }
  else { t with count := 1, second := now }

/-- The limiter: its limit, the tallies it keeps, at most one per user, and
    the second at which it last cleaned up. -/
structure RateLimiter where
  limit : UInt32
  tallies : List Tally
  sweptAt : Int64
  deriving Repr, DecidableEq

namespace RateLimiter

/-- A limiter that has seen nobody. -/
def ofLimit (limit : UInt32) : RateLimiter :=
  { limit, tallies := [], sweptAt := 0 }

/-- Drops the tallies that are more than one second old, once per second. -/
def sweep (l : RateLimiter) (now : Int64) : RateLimiter :=
  if l.sweptAt = now then l
  else { l with tallies := l.tallies.filter fun t => now - 1 ≤ t.second, sweptAt := now }

/-- The tally of a user. -/
def tally? (l : RateLimiter) (user : UInt64) : Option Tally :=
  l.tallies.find? fun t => t.user == user

/-- Counts an attempt and decides on it.  A second that differs from the one
    kept starts the count anew, be it later or earlier. -/
def observe (l : RateLimiter) (user : UInt64) (now : Int64) : Decision × RateLimiter :=
  let l := l.sweep now
  match l.tally? user with
  | none => (.accept, { l with tallies := { user, count := 1, second := now } :: l.tallies })
  | some old =>
    let new := old.observe now
    let decision :=
      if old.second = now ∧ l.limit < new.count then Decision.throttle else .accept
    (decision,
      { l with tallies := l.tallies.map fun t => if t.user = user then new else t })

/-- How many users have a tally. -/
def tracked (l : RateLimiter) : Nat :=
  l.tallies.length

end RateLimiter

end FlashSale
