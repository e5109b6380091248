import FlashSale.Catalogue

/-! # The registry

    The registry is the place where the current catalogue is found.  Publishing
    puts a new catalogue there; whoever has got hold of an older one keeps it. -/

namespace FlashSale

/-- The current catalogue, and those that somebody got hold of, in their
    order. -/
structure Registry where
  current : Catalogue := .initial
  held : List Catalogue := []
  deriving Repr, DecidableEq

namespace Registry

/-- Publishes a catalogue; the answer is the one that was current before. -/
def publish (r : Registry) (c : Catalogue) : Catalogue × Registry :=
  (r.current, { r with current := c })

/-- Gets hold of the current catalogue; the answer is its number. -/
def hold (r : Registry) : Nat × Registry :=
  (r.held.length, { r with held := r.held ++ [r.current] })

/-- The product with an id in the current catalogue. -/
def find? (r : Registry) (id : UInt64) : Option Product :=
  r.current.find? id

/-- A catalogue that somebody got hold of. -/
def held? (r : Registry) (n : Nat) : Option Catalogue :=
  r.held[n]?

end Registry

end FlashSale
