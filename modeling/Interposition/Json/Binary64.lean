/-
  Double precision numbers, exactly as much of them as showing a number that is not an integer
  takes.

  A magnitude is `significand · 2 ^ exponent`, rounded to nearest with ties to even on every
  operation, so the digits shown for a number are the ones double precision arithmetic gives.
  `digits` finds the shortest decimal that rounds back to the same number.
-/

namespace Interposition

/-- A finite magnitude `significand · 2 ^ exponent`; zero has significand zero. -/
structure Binary64 where
  significand : Nat
  exponent : Int
deriving DecidableEq

namespace Binary64

/-- The magnitude zero. -/
def zero : Binary64 := ⟨0, 0⟩

/-- The smallest significand of full width: `2 ^ 52`. -/
def fullSignificand : Nat := 0x10000000000000

/-- Magnitudes from here on are infinite: `2 ^ 1024`. -/
def topExponent : Int := 1024

/-- The smallest exponent a magnitude may have. -/
def bottomExponent : Int := -1074

/-- The quotient rounded to nearest, ties to even. -/
def divideRounded (numerator denominator : Nat) : Nat :=
  let q := numerator / denominator
  let r := numerator % denominator
  if 2 * r < denominator then q
  else if 2 * r > denominator then q + 1
  else if q % 2 = 0 then q else q + 1

/-- The exponent of the leading bit of a positive fraction, or one below it. -/
def roughExponent (numerator denominator : Nat) : Int :=
  (Nat.log2 numerator : Int) - (Nat.log2 denominator : Int)

/-- A fraction scaled by a power of two, rounded to an integer. -/
def scaledRounded (numerator denominator : Nat) (exponent : Int) : Nat :=
  if exponent ≥ 0 then divideRounded numerator (denominator * Nat.pow 2 exponent.toNat)
  else divideRounded (numerator * Nat.pow 2 (-exponent).toNat) denominator

/-- Whether a positive fraction is at least `2 ^ exponent`. -/
def reaches (numerator denominator : Nat) (exponent : Int) : Bool :=
  if exponent ≥ 0 then numerator ≥ denominator * Nat.pow 2 exponent.toNat
  else numerator * Nat.pow 2 (-exponent).toNat ≥ denominator

/-- The nearest magnitude to a fraction, or nothing when that is infinite. -/
def ofFraction? (numerator denominator : Nat) : Option Binary64 :=
  if numerator = 0 then some zero
  else
    let rough := roughExponent numerator denominator
    let leading := if reaches numerator denominator rough then rough else rough - 1
    let exponent := max (leading - 52) bottomExponent
    let significand := scaledRounded numerator denominator exponent
    if significand = 0 then some zero
    else
      let (significand, exponent) :=
        if significand = fullSignificand * 2 then (fullSignificand, exponent + 1)
        else (significand, exponent)
      if exponent + 53 > topExponent && significand ≥ fullSignificand then none
      else some ⟨significand, exponent⟩

/-- The numerator of a magnitude as a fraction. -/
def numerator (x : Binary64) : Nat := x.significand * Nat.pow 2 x.exponent.toNat

/-- The denominator of a magnitude as a fraction, a power of two. -/
def denominator (x : Binary64) : Nat := Nat.pow 2 (-x.exponent).toNat

/-- The nearest magnitude to a natural number. -/
def ofNat? (n : Nat) : Option Binary64 := ofFraction? n 1

/-- The product, or nothing when it is infinite. -/
def multiply? (x y : Binary64) : Option Binary64 :=
  ofFraction? (x.numerator * y.numerator) (x.denominator * y.denominator)

/-- The quotient by a nonzero magnitude. -/
def divide? (x y : Binary64) : Option Binary64 :=
  ofFraction? (x.numerator * y.denominator) (x.denominator * y.numerator)

/-- The nearest magnitude to a power of ten. -/
def powerOfTen? (n : Nat) : Option Binary64 := ofNat? (Nat.pow 10 n)

/-- The largest power of ten that is taken in one step. -/
def largestPower : Nat := 308

/-- A significand times a power of ten in at most as many roundings as steps of `largestPower` are
    needed; `steps` bounds them.  Nothing when the result is infinite. -/
def scaleByTen? : Nat → Binary64 → Int → Option Binary64
  | 0, x, _ => some x
  | steps + 1, x, exponent =>
    if exponent.natAbs ≤ largestPower then do
      let power ← powerOfTen? exponent.natAbs
      if exponent ≥ 0 then x.multiply? power else x.divide? power
    else if x.significand = 0 then some x
    else if exponent ≥ 0 then none
    else do
      let power ← powerOfTen? largestPower
      scaleByTen? steps (← x.divide? power) (exponent + largestPower)

/-- The magnitude of `significand · 10 ^ exponent`. -/
def ofDecimal? (significand : Nat) (exponent : Int) : Option Binary64 := do
  scaleByTen? (exponent.natAbs / largestPower + 1) (← ofNat? significand) exponent

/-! ## Shortest digits -/

/-- A decimal `digits · 10 ^ scale` as a fraction. -/
def decimalFraction (digits : Nat) (scale : Int) : Nat × Nat :=
  if scale ≥ 0 then (digits * Nat.pow 10 scale.toNat, 1) else (digits, Nat.pow 10 (-scale).toNat)

/-- Whether a decimal rounds to a magnitude. -/
def roundsTo (x : Binary64) (digits : Nat) (scale : Int) : Bool :=
  let (n, d) := decimalFraction digits scale
  ofFraction? n d = some x

/-- The decimals next to a magnitude at a scale, the nearest one first. -/
def neighbours (x : Binary64) (scale : Int) : List Nat :=
  let (n, d) := decimalFraction 1 scale
  let numerator := x.numerator * d
  let denominator := x.denominator * n
  let below := numerator / denominator
  if divideRounded numerator denominator = below then [below, below + 1]
  else [below + 1, below]

/-- The power of ten of the leading digit of a positive magnitude. -/
def leadingTen (x : Binary64) : Int :=
  if x.numerator ≥ x.denominator then
    ((Nat.toDigits 10 (x.numerator / x.denominator)).length : Int) - 1
  else
    -- the quotient is below one: count how far the reciprocal reaches
    let reciprocal := (x.denominator + x.numerator - 1) / x.numerator
    Int.negOfNat (Nat.toDigits 10 (reciprocal - 1)).length

/-- The first decimal of at most `17` digits that rounds back, trying short ones first. -/
def shortestFrom (x : Binary64) : Nat → Nat → Nat × Int
  | 0, width => ((neighbours x (x.leadingTen - width)).headD 0, x.leadingTen - width)
  | tries + 1, width =>
    let scale := x.leadingTen - width
    match (neighbours x scale).find? fun digits => roundsTo x digits scale with
    | some digits => (digits, scale)
    | none => shortestFrom x tries (width + 1)

/-- The shortest digits of a positive magnitude, without trailing zeros, and the power of ten of
    the last one. -/
def shortest (x : Binary64) : List Char × Int :=
  let (digits, scale) := shortestFrom x 17 0
  let written := Nat.toDigits 10 digits
  let kept := (written.reverse.dropWhile (· = '0')).reverse
  (kept, scale + (written.length - kept.length : Nat))

/-- A magnitude as shown to people: plain digits with a point while that is short, an exponent
    otherwise. -/
def display (x : Binary64) : String :=
  if x.significand = 0 then "0.0"
  else
    let (digits, scale) := x.shortest
    let count : Int := digits.length
    let point := count + scale
    if 0 < point ∧ point ≤ 16 then
      if scale ≥ 0 then
        String.ofList (digits ++ List.replicate scale.toNat '0') ++ ".0"
      else
        String.ofList (digits.take point.toNat ++ '.' :: digits.drop point.toNat)
    else if -5 < point ∧ point ≤ 0 then
      "0." ++ String.ofList (List.replicate (-point).toNat '0' ++ digits)
    else
      let rest := digits.drop 1
      let mantissa := digits.take 1 ++ if rest.isEmpty then [] else '.' :: rest
      let power := point - 1
      String.ofList mantissa ++ (if power ≥ 0 then "e+" else "e-") ++ toString power.natAbs

end Binary64

end Interposition
