import StackLanguage.Number.Double

namespace StackLanguage

/-! Integers and doubles on one scale. -/

inductive Quantity where
  | int (number : Int)
  | float (number : Float)
deriving DecidableEq

namespace Quantity

/-- A finite quantity as a numerator over a power of two, an infinite one as its sign. -/
inductive Extent where
  | finite (numerator : Int) (scale : Nat)
  | infinite (negative : Bool)

def extent? : Quantity → Option Extent
  | int number => some (.finite number 0)
  | float number =>
      match Double.shape number with
      | .notANumber => none
      | .infinite negative => some (.infinite negative)
      | .finite negative significand exponent =>
          some (.finite (Double.signed negative (significand * Nat.pow 2 exponent.toNat))
            (-exponent).toNat)

def Extent.compare : Extent → Extent → Ordering
  | .finite first firstScale, .finite second secondScale =>
      Ord.compare (first * Nat.pow 2 secondScale) (second * Nat.pow 2 firstScale)
  | .finite .., .infinite negative => if negative then .gt else .lt
  | .infinite negative, .finite .. => if negative then .lt else .gt
  | .infinite first, .infinite second =>
      if first = second then .eq else if first then .lt else .gt

def compare? (first second : Quantity) : Option Ordering := do
  let first ← first.extent?
  let second ← second.extent?
  pure (first.compare second)

def isNegative (quantity : Quantity) : Bool :=
  (quantity.compare? (.int 0)).any Ordering.isLT

def toFloat? : Quantity → Option Float
  | int number => Double.ofInteger? number
  | float number => some number

end Quantity

end StackLanguage
