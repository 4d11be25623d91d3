import Cose.Float.Format

/-!
# The shortest decimal of a floating-point number

A double is written with the fewest significant digits that read back as the same double; of two
candidates with that many digits the nearer is taken, and of two equally near the even one.

## Main definitions

* `Decimal`: significant digits and the place of the point
* `shortest`: the shortest decimal of a positive double
* `text`: a double as text, positional for moderate exponents and scientific otherwise
-/

namespace Cose.Float

/-- **A positive decimal** `0.d₁d₂… · 10 ^ point`, given by its digits as one number. -/
structure Decimal where
  digits : Nat
  point : Int
  deriving DecidableEq

/-- The reals that round to a positive double, as fractions with one denominator, the ends
included when `closed`. -/
structure Rounding where
  low : Nat
  value : Nat
  high : Nat
  denominator : Nat
  closed : Bool

/-- The reals that round to the double with the given significand and exponent. -/
def rounding (significand : Nat) (exponent : Int) : Rounding :=
  let f := Format.double
  -- In quarters of the last place: below a power of two the doubles lie twice as close.
  let isPower := significand = 2 ^ f.fractionBits && exponent ≠ f.lowestExponent
  let scale := exponent - 2
  let up := 2 ^ scale.toNat
  let down := 2 ^ (-scale).toNat
  { low := (4 * significand - (if isPower then 1 else 2)) * up
    value := 4 * significand * up
    high := (4 * significand + 2) * up
    denominator := down
    closed := significand % 2 == 0 }

/-- Whether a fraction lies among the reals of a rounding. -/
def Rounding.holds (r : Rounding) (num den : Nat) : Bool :=
  let scaled := num * r.denominator
  if r.closed then r.low * den ≤ scaled && scaled ≤ r.high * den
  else r.low * den < scaled && scaled < r.high * den

/-- The decimal point of a positive fraction: the least `p` with `num / den < 10 ^ p`. -/
def decimalPoint (num den : Nat) : Int :=
  let guess : Int := ((Nat.log2 num : Int) - Nat.log2 den) * 30103 / 100000
  let below (p : Int) : Bool :=
    if 0 ≤ p then num < den * 10 ^ p.toNat else num * 10 ^ (-p).toNat < den
  if below (guess - 1) then guess - 1
  else if below guess then guess
  else if below (guess + 1) then guess + 1
  else guess + 2

/-- The nearest decimal with the given number of digits among those that read back. -/
def Rounding.candidate? (r : Rounding) (point : Int) (count : Nat) : Option Nat :=
  -- The grid of decimals with `count` digits has steps of `10 ^ (point - count)`.
  let place := point - count
  let up := 10 ^ place.toNat
  let down := 10 ^ (-place).toNat
  let num := r.value * down
  let den := r.denominator * up
  let floor := num / den
  let good (d : Nat) : Bool := r.holds (d * up) down
  match good floor, good (floor + 1) with
  | false, false => none
  | true, false => some floor
  | false, true => some (floor + 1)
  | true, true =>
    let below := num - floor * den
    let above := (floor + 1) * den - num
    if below < above then some floor
    else if above < below then some (floor + 1)
    else some (if floor % 2 == 0 then floor else floor + 1)

/-- The shortest decimal of a positive double. Seventeen digits always read back. -/
def shortest (significand : Nat) (exponent : Int) : Decimal :=
  let r := rounding significand exponent
  let point := decimalPoint r.value r.denominator
  let found := (List.range 17).findSome? fun i =>
    (r.candidate? point (i + 1)).map fun d => (d, point - (i + 1 : Nat))
  match found with
  | some (d, place) => ⟨d, place + (Nat.toDigits 10 d).length⟩
  | none => ⟨0, 0⟩

/-- The digits of a decimal without trailing zeros. -/
def Decimal.significant (d : Decimal) : List Char :=
  let ds := ((Nat.toDigits 10 d.digits).reverse.dropWhile (· == '0')).reverse
  if ds.isEmpty then ['0'] else ds

/-- A decimal as text: positional when the point lies from three zeros before the first digit to
sixteen digits behind it, else in scientific notation with at least two digits of exponent. -/
def Decimal.chars (d : Decimal) : List Char :=
  let ds := d.significant
  if -4 < d.point && d.point ≤ 16 then
    if d.point ≤ 0 then "0.".toList ++ List.replicate (-d.point).toNat '0' ++ ds
    else
      let n := d.point.toNat
      let whole := ds.take n ++ List.replicate (n - ds.length) '0'
      let fraction := ds.drop n
      whole ++ '.' :: (if fraction.isEmpty then ['0'] else fraction)
  else
    let exponent := d.point - 1
    let magnitude := Nat.toDigits 10 exponent.natAbs
    let head := ds.take 1 ++ (if ds.length ≤ 1 then [] else '.' :: ds.drop 1)
    head ++ 'e' :: (if exponent < 0 then '-' else '+') ::
      (List.replicate (2 - magnitude.length) '0' ++ magnitude)

/-- A double, given by its bit pattern, as text. -/
def text (bits : UInt64) : String :=
  match Format.double.decode bits.toNat with
  | .notANumber => "nan"
  | .infinite negative => if negative then "-inf" else "inf"
  | .finite negative significand exponent =>
    let magnitude :=
      if significand = 0 then "0.0".toList else (shortest significand exponent).chars
    String.ofList (if negative then '-' :: magnitude else magnitude)

end Cose.Float
