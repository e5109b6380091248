/-! # Splitting at one separator

    A text comes apart at the first or at the last occurrence of a separator,
    which belongs to neither part.  Both parts may be empty. -/

namespace FlashSale.Text

/-- Splits at the first occurrence of `sep`. -/
def splitFirst? {α : Type} [DecidableEq α] (sep : α) : List α → Option (List α × List α)
  | [] => none
  | c :: cs =>
    if c = sep then some ([], cs)
    else (splitFirst? sep cs).map fun (before, after) => (c :: before, after)

/-- Splits at the first occurrence of `sep`; without one, everything comes
    before it. -/
def splitFirst {α : Type} [DecidableEq α] (sep : α) (cs : List α) : List α × List α :=
  (splitFirst? sep cs).getD (cs, [])

/-- Splits at the last occurrence of `sep`. -/
def splitLast? {α : Type} [DecidableEq α] (sep : α) (cs : List α) : Option (List α × List α) :=
  (splitFirst? sep cs.reverse).map fun (after, before) => (before.reverse, after.reverse)

end FlashSale.Text
