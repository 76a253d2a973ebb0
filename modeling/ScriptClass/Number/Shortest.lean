import ScriptClass.Number.Binary

/-!
# Shortest decimals

The decimal text of a floating number: the fewest digits that read back as the
same number, of those the digits nearest to it, and of two equally near the
greater. Digits are written positionally at every size.

A number `m · 2 ^ q` owns the reals that round to it: those up to half a unit
away, where the unit below a power of two is half as wide. The two ends belong
to it when `m` is even. All arithmetic is exact, on fractions of naturals.
-/

namespace ScriptClass.Number

/-- Decimal digits `digits` at the scale `10 ^ scale`. -/
structure Decimal where
  digits : Nat
  scale : Int
  deriving DecidableEq, Repr

/-- The number of decimal digits of `n`; zero has none. -/
def decimalLength (n : Nat) : Nat := if n = 0 then 0 else (Nat.toDigits 10 n).length

/-- The greatest `e` with `10 ^ e ≤ num / den`, for positive arguments. -/
def floorLog10 (num den : Nat) : Int :=
  if den ≤ num then (decimalLength (num / den) : Int) - 1
  else -(decimalLength ((den - 1) / num) : Int)

/-- The reals that read as one number, over a common denominator. -/
structure Interval where
  low : Nat
  value : Nat
  high : Nat
  den : Nat
  closed : Bool

namespace Interval

/-- The interval of `significand · 2 ^ exponent`, which is not zero. -/
def ofNumber (f : Format) (significand : Nat) (exponent : Int) : Interval :=
  -- quarters of a unit keep both half-widths whole
  let factor := twoTo (exponent - 2).toNat
  let below :=
    if significand = twoTo f.fractionBits ∧ f.minExponent < exponent then 1 else 2
  { low := (4 * significand - below) * factor
    value := 4 * significand * factor
    high := (4 * significand + 2) * factor
    den := twoTo (2 - exponent).toNat
    closed := significand % 2 == 0 }

/-- Whether `d` lies in the interval. -/
def holds (i : Interval) (d : Decimal) : Bool :=
  let x := d.digits * tenTo d.scale.toNat * i.den
  let unit := tenTo (-d.scale).toNat
  if i.closed then i.low * unit ≤ x && x ≤ i.high * unit
  else i.low * unit < x && x < i.high * unit

/-- Of the two neighbours of the value on the grid of `10 ^ scale`, those in
the interval, the nearer first, a tie going up. -/
def onGrid? (i : Interval) (scale : Int) : Option Decimal :=
  let num := i.value * tenTo (-scale).toNat
  let den := i.den * tenTo scale.toNat
  let down : Decimal := ⟨num / den, scale⟩
  let up : Decimal := ⟨num / den + 1, scale⟩
  let nearer := if 2 * (num % den) < den then [down, up] else [up, down]
  nearer.find? i.holds

/-- The first hit among `count` grids, each finer by a factor of ten. -/
def search (i : Interval) : (count : Nat) → (scale : Int) → Option Decimal
  | 0, _ => none
  | n + 1, scale => (i.onGrid? scale).or (i.search n (scale - 1))

/-- The shortest decimal of the interval. Seventeen digits tell any two numbers
of the wider format apart. -/
def shortest (i : Interval) : Decimal :=
  (i.search 17 (floorLog10 i.value i.den)).getD ⟨0, 0⟩

end Interval

/-- Digits with a point, never an exponent: zeros fill the gap to the units. -/
def Decimal.positional (d : Decimal) : String :=
  let ds := Nat.toDigits 10 d.digits
  if 0 ≤ d.scale then String.ofList (ds ++ List.replicate d.scale.toNat '0')
  else
    let places := (-d.scale).toNat
    let padded := List.replicate (places + 1 - ds.length) '0' ++ ds
    let whole := padded.take (padded.length - places)
    let fraction := padded.drop (padded.length - places)
    let kept := (fraction.reverse.dropWhile (· == '0')).reverse
    if kept.isEmpty then String.ofList whole
    else String.ofList (whole ++ '.' :: kept)

/-- The text of a number: shortest digits, `-0` for the negative zero, `NaN`,
`inf` and `-inf`. -/
def Datum.text (f : Format) : Datum → String
  | .nan => "NaN"
  | .infinite negative => if negative then "-inf" else "inf"
  | .finite negative significand exponent =>
    let magnitude :=
      if significand = 0 then "0"
      else (Interval.ofNumber f significand exponent).shortest.positional
    if negative then "-" ++ magnitude else magnitude

/-- The text of a double in diagnostics. -/
def Double.text (x : Double) : String := x.datum.text .double

/-- The text of a single in diagnostics. -/
def Single.text (x : Single) : String := x.datum.text .single

/-- The text of a double in script: as in diagnostics, with `Infinity` spelled
out and one zero. -/
def Double.scriptText (x : Double) : String :=
  match x.datum with
  | .infinite negative => if negative then "-Infinity" else "Infinity"
  | .finite _ 0 _ => "0"
  | d => d.text .double

end ScriptClass.Number
