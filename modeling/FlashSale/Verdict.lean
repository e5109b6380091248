import FlashSale.Answer.Envelope
import FlashSale.Product.Basic

/-! # Verdicts

    Whether a product can be bought at a given second.  A product that is sold
    out is judged so at any time; otherwise its window decides, both ends
    included. -/

namespace FlashSale

/-- The judgement on a product at one second. -/
structure Verdict where
  /-- Can it be bought? -/
  start : Bool
  /-- Can it no longer be bought? -/
  finished : Bool
  status : String
  code : Code
  deriving Repr, DecidableEq

namespace Verdict

/-- Nothing is left. -/
def soldOut : Verdict :=
  { start := false, finished := true, status := "product is sale out", code := .activeSoldOut }

/-- The sale has not begun. -/
def notStarted : Verdict :=
  { start := false, finished := false, status := "sec kill is not start",
    code := .activeNotStarted }

/-- The sale is over. -/
def ended : Verdict :=
  { start := false, finished := true, status := "sec kill is already end",
    code := .activeAlreadyEnded }

/-- The sale is on. -/
def running : Verdict :=
  { start := true, finished := false, status := "success", code := .ok }

end Verdict

namespace Product

/-- Judges a product at the second `now`. -/
def verdictAt (p : Product) (now : Int64) : Verdict :=
  if p.status.isSoldOut then .soldOut
  else if now < p.startTime then .notStarted
  else if p.endTime < now then .ended
  else .running

/-- What clients are told about a product at the second `now`. -/
def offerAt (p : Product) (now : Int64) : Offer :=
  let v := p.verdictAt now
  { productId := p.id, start := v.start, finished := v.finished, status := v.status }

end Product

end FlashSale
