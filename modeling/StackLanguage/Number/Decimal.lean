import StackLanguage.Number.Double

namespace StackLanguage

/-! Decimal numbers `digits * 10 ^ exponent`, the double closest to one, and the decimal
with the fewest digits that reads back as a given double. -/

structure Decimal where
  digits : Nat
  exponent : Int
deriving DecidableEq, Repr

namespace Decimal

/-- The double closest to a decimal. From `10 ^ 310` on every decimal is infinite, and one
below `10 ^ -330` is zero, whatever else it is; the bound on its size counts a decimal
place for each binary digit. -/
def toDouble (negative : Bool) (decimal : Decimal) : Float :=
  if decimal.digits = 0 then Double.zero negative
  else if 310 ≤ decimal.exponent then Double.infinity negative
  else if decimal.exponent + (decimal.digits.log2 + 1) ≤ -330 then Double.zero negative
  else
    Double.nearest negative (decimal.digits * Nat.pow 10 decimal.exponent.toNat)
      (Nat.pow 10 (-decimal.exponent).toNat)

/-- Of the two multiples of `10 ^ grid` around `significand / 2 ^ scale`, the closer one
that reads back as that double, if any does. Of two equally close ones the even one is
taken. -/
def neighbour? (significand scale : Nat) (grid : Int) : Option Decimal :=
  let number := Double.nearest false significand (Nat.pow 2 scale)
  let numerator := significand * Nat.pow 10 (-grid).toNat
  let denominator := Nat.pow 2 scale * Nat.pow 10 grid.toNat
  let below := numerator / denominator
  let closer := Double.roundQuotient numerator denominator
  let farther := if closer = below then below + 1 else below
  [closer, farther].map (Decimal.mk · grid) |>.find? fun decimal =>
    decide (decimal.toDouble false = number)

/-- The decimal on the coarsest grid, counted from `grid` on, that reads back as the
double `significand / 2 ^ scale`: the one with the fewest digits. With `scale` places a
decimal is that number itself. -/
def fewestDigits (significand scale : Nat) : (attempts : Nat) → (grid : Int) → Decimal
  | 0, _ => ⟨significand * Nat.pow 5 scale, -(scale : Int)⟩
  | attempts + 1, grid =>
      match neighbour? significand scale grid with
      | some decimal => decimal
      | none => fewestDigits significand scale attempts (grid - 1)

def shortest (significand : Nat) (exponent : Int) : Decimal :=
  let scale := (-exponent).toNat
  fewestDigits (significand * Nat.pow 2 exponent.toNat) scale (scale + 309) 308

def pointText (decimal : Decimal) : String :=
  let places := (-decimal.exponent).toNat
  let fraction := Nat.toDigits 10 (decimal.digits % Nat.pow 10 places)
  String.ofList
    (Nat.toDigits 10 (decimal.digits / Nat.pow 10 places) ++ '.' ::
      (List.replicate (places - fraction.length) '0' ++ fraction))

end Decimal

/-- A double as the language prints it: whole numbers as integers, others with the fewest
digits that read back, and never with an exponent. -/
def Double.text (number : Float) : String :=
  match Double.shape number with
  | .notANumber => "NaN"
  | .infinite negative => if negative then "-inf" else "inf"
  | .finite negative significand exponent =>
      let sign := if negative then "-" else ""
      let scale := (-exponent).toNat
      if significand % Nat.pow 2 scale = 0 then
        sign ++ toString (significand * Nat.pow 2 exponent.toNat / Nat.pow 2 scale)
      else
        sign ++ (Decimal.fewestDigits significand scale scale (-1)).pointText

end StackLanguage
