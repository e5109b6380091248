/-! # Answer codes

    How a request ended, as a number that clients understand. -/

namespace FlashSale

/-- How a request ended. -/
inductive Code where
  | ok
  | invalidRequest
  | notFoundProduct
  | authFailed
  | serviceBusy
  | activeNotStarted
  | activeAlreadyEnded
  | activeSoldOut
  /-- Kept for later stages of a purchase; this gateway never sends it. -/
  | processTimeout
  /-- Kept for later stages of a purchase; this gateway never sends it. -/
  | clientClosed
  deriving Repr, DecidableEq

namespace Code

/-- The number sent to clients. -/
def number : Code → UInt32
  | .ok => 0
  | .invalidRequest => 1001
  | .notFoundProduct => 1002
  | .authFailed => 1003
  | .serviceBusy => 1004
  | .activeNotStarted => 1005
  | .activeAlreadyEnded => 1006
  | .activeSoldOut => 1007
  | .processTimeout => 1008
  | .clientClosed => 1009

/-- Every code. -/
def all : List Code :=
  [.ok, .invalidRequest, .notFoundProduct, .authFailed, .serviceBusy, .activeNotStarted,
    .activeAlreadyEnded, .activeSoldOut, .processTimeout, .clientClosed]

/-- The code of a number. -/
def ofNumber? (n : UInt32) : Option Code :=
  all.find? fun code => code.number == n

end Code

end FlashSale
