/-!
# Binary floating point numbers of 64 bits

Finite numbers `± significand · 2 ^ exponent` in exact arithmetic: rounding a quotient to the
nearest one, multiplication and division, reading a decimal, and the shortest decimal text that
reads back as the same number.
-/

namespace QueryAssist

/-- A finite number; the significand has at most 53 bits and the exponent is at least -1074. -/
structure Binary64 where
  negative : Bool
  significand : Nat
  exponent : Int
  deriving DecidableEq, Repr

namespace Binary64

/-! ## Rounding -/

/-- The least exponent, that of the subnormal numbers. -/
def minExponent : Int := -1074

/-- The greatest exponent. -/
def maxExponent : Int := 971

/-- `numerator / denominator` rounded to the nearest integer, a half to the even one. -/
def roundQuotient (numerator denominator : Nat) : Nat :=
  let quotient := numerator / denominator
  let twice := 2 * (numerator % denominator)
  if twice < denominator then quotient
  else if twice = denominator && quotient % 2 == 0 then quotient
  else quotient + 1

/-- The quotient of `numerator / denominator` in units of `2 ^ exponent`, rounded. -/
def roundScaled (numerator denominator : Nat) (exponent : Int) : Nat :=
  if 0 ≤ exponent then roundQuotient numerator (denominator * Nat.pow 2 exponent.toNat)
  else roundQuotient (numerator * Nat.pow 2 (-exponent).toNat) denominator

/-- The number of binary digits of a natural number. -/
def bitLength (n : Nat) : Nat :=
  if n = 0 then 0 else n.log2 + 1

/-- The magnitude nearest to a quotient, as significand and exponent; `none` when it is too
large. -/
def nearest (numerator denominator : Nat) : Option (Nat × Int) :=
  let size : Int := bitLength numerator - bitLength denominator
  let fine := max minExponent (size - 53)
  let exponent :=
    if Nat.pow 2 53 ≤ roundScaled numerator denominator fine then fine + 1 else fine
  let significand := roundScaled numerator denominator exponent
  let (significand, exponent) :=
    if significand = Nat.pow 2 53 then (Nat.pow 2 52, exponent + 1) else (significand, exponent)
  if maxExponent < exponent then none else some (significand, exponent)

/-! ## Arithmetic on magnitudes -/

/-- A magnitude as a quotient of natural numbers. -/
def quotient (x : Nat × Int) : Nat × Nat :=
  if 0 ≤ x.2 then (x.1 * Nat.pow 2 x.2.toNat, 1) else (x.1, Nat.pow 2 (-x.2).toNat)

/-- The rounded product. -/
def mul (x y : Nat × Int) : Option (Nat × Int) :=
  nearest ((quotient x).1 * (quotient y).1) ((quotient x).2 * (quotient y).2)

/-- The rounded quotient. -/
def div (x y : Nat × Int) : Option (Nat × Int) :=
  nearest ((quotient x).1 * (quotient y).2) ((quotient x).2 * (quotient y).1)

/-! ## Reading decimals -/

/-- The magnitude of `significand · 10 ^ exponent`, by one rounded multiplication or division
with a rounded power of ten; powers below `10 ^ -308` are taken in several steps.  `none` when it
is too large. -/
def scaleByTen (fuel : Nat) (x : Nat × Int) (exponent : Int) : Option (Nat × Int) :=
  if x.1 = 0 then some (0, minExponent)
  else if 308 < exponent then none
  else if 0 ≤ exponent then do mul x (← nearest (Nat.pow 10 exponent.toNat) 1)
  else if -308 ≤ exponent then do div x (← nearest (Nat.pow 10 (-exponent).toNat) 1)
  else
    match fuel with
    | 0 => some (0, minExponent)
    | fuel + 1 => do scaleByTen fuel (← div x (← nearest (Nat.pow 10 308) 1)) (exponent + 308)

/-- The number written as a decimal; `none` when it is too large. -/
def ofDecimal (negative : Bool) (significand : Nat) (exponent : Int) : Option Binary64 := do
  let x ← scaleByTen 4 (← nearest significand 1) exponent
  some ⟨negative, x.1, x.2⟩

/-! ## Writing decimals -/

/-- The number of decimal digits of a positive natural number. -/
def decimalLength (n : Nat) : Nat :=
  (Nat.toDigits 10 n).length

/-- The exponent `k` with `10 ^ (k - 1) ≤ numerator / denominator < 10 ^ k`, for a positive
quotient. -/
def decimalExponent (numerator denominator : Nat) : Int :=
  if denominator ≤ numerator then decimalLength (numerator / denominator)
  else
    let guess : Int := decimalLength numerator - decimalLength denominator
    if denominator ≤ numerator * Nat.pow 10 (-guess).toNat then guess + 1 else guess

/-- The bounds of the decimals that read back as a magnitude, and the magnitude itself, all over
one denominator: lower bound, value, upper bound, denominator. -/
def readBack (x : Nat × Int) : Nat × Nat × Nat × Nat :=
  let lowerGap := if x.1 = Nat.pow 2 52 && minExponent < x.2 then 1 else 2
  let (n, d) := quotient (1, x.2 - 2)
  ((4 * x.1 - lowerGap) * n, 4 * x.1 * n, (4 * x.1 + 2) * n, d)

/-- The decimal with `digits` digits nearest to a positive magnitude among those that read back
as it, as digits and exponent. -/
def decimalOf? (x : Nat × Int) (digits : Nat) : Option (Nat × Int) :=
  let (low, value, high, d) := readBack x
  let exponent := decimalExponent value d - digits
  let (up, down) :=
    if 0 ≤ exponent then (1, Nat.pow 10 exponent.toNat) else (Nat.pow 10 (-exponent).toNat, 1)
  let unit := d * down
  let below := value * up / unit
  let fits (n : Nat) : Bool :=
    if x.1 % 2 = 0 then low * up ≤ n * unit && n * unit ≤ high * up
    else low * up < n * unit && n * unit < high * up
  let nearerAbove := (below + 1) * unit - value * up ≤ value * up - below * unit
  if fits below && fits (below + 1) then
    some (if nearerAbove then below + 1 else below, exponent)
  else if fits below then some (below, exponent)
  else if fits (below + 1) then some (below + 1, exponent)
  else none

/-- The shortest decimal that reads back as a positive magnitude, without trailing zeros. -/
def shortest (x : Nat × Int) : Nat × Int :=
  let found := ((List.range 18).drop 1).findSome? (decimalOf? x)
  let (digits, exponent) := found.getD (x.1, x.2)
  let zeros := ((Nat.toDigits 10 digits).reverse.takeWhile (· == '0')).length
  (digits / Nat.pow 10 zeros, exponent + zeros)

/-- The text of a positive magnitude.  Between `10 ^ -5` and `10 ^ 16` it is positional and shows
at least one decimal; elsewhere it has one digit before the point and an exponent. -/
def magnitudeText (x : Nat × Int) : String :=
  let (n, exponent) := shortest x
  let digits := Nat.toDigits 10 n
  let point : Int := digits.length + exponent
  let text : List Char :=
    if 0 ≤ exponent && point ≤ 16 then
      digits ++ List.replicate exponent.toNat '0' ++ ['.', '0']
    else if 0 < point && point ≤ 16 then
      digits.take point.toNat ++ ['.'] ++ digits.drop point.toNat
    else if -5 < point && point ≤ 0 then
      ['0', '.'] ++ List.replicate (-point).toNat '0' ++ digits
    else
      digits.take 1 ++ (if digits.length = 1 then [] else '.' :: digits.drop 1) ++
        'e' :: (toString (point - 1)).toList
  String.ofList text

/-- The text of a number. -/
def text (x : Binary64) : String :=
  (if x.negative then "-" else "") ++
    if x.significand = 0 then "0.0" else magnitudeText (x.significand, x.exponent)

end Binary64

end QueryAssist
