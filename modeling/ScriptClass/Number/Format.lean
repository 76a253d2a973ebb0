/-!
# Binary interchange formats

A format fixes the number of significand bits and of exponent bits. A bit code
is a natural number: the sign place, then the exponent field, then the
fraction. `decode` says which number a code stands for, and `round` gives the
code nearest to a rational, a tie going to the even neighbour.

Above the sign, codes ascend with the numbers they stand for, also across the
step from subnormal to normal numbers; `roundMagnitude` uses that by adding the
rounded significand to a multiple of `2 ^ fractionBits`.
-/

namespace ScriptClass.Number

/-- The power of two with exponent `n`. -/
def twoTo (n : Nat) : Nat := 1 <<< n

/-- The power of ten with exponent `n`. -/
def tenTo (n : Nat) : Nat := Nat.pow 10 n

/-- A binary interchange format. -/
structure Format where
  /-- Bits of the significand, the leading one included. -/
  precision : Nat
  /-- Bits of the exponent field. -/
  exponentBits : Nat
  deriving DecidableEq, Repr

/-- What a bit code stands for; `finite` is `± significand · 2 ^ exponent`. -/
inductive Datum where
  | nan
  | infinite (negative : Bool)
  | finite (negative : Bool) (significand : Nat) (exponent : Int)
  deriving DecidableEq, Repr

namespace Format

/-- The 64-bit format. -/
def double : Format := ⟨53, 11⟩

/-- The 32-bit format. -/
def single : Format := ⟨24, 8⟩

def fractionBits (f : Format) : Nat := f.precision - 1

/-- The weight of the last bit of a subnormal number, as a power of two. -/
def minExponent (f : Format) : Int :=
  3 - (twoTo (f.exponentBits - 1) : Nat) - f.precision

/-- The place of the sign. -/
def signPlace (f : Format) : Nat := twoTo (f.fractionBits + f.exponentBits)

/-- The magnitude of infinity: a full exponent field and no fraction. -/
def infinityCode (f : Format) : Nat := (twoTo f.exponentBits - 1) * twoTo f.fractionBits

/-- The canonical quiet NaN. -/
def nanCode (f : Format) : Nat := f.infinityCode + twoTo (f.fractionBits - 1)

/-- The bit code of a sign and a magnitude. -/
def withSign (f : Format) (negative : Bool) (magnitude : Nat) : Nat :=
  if negative then f.signPlace + magnitude else magnitude

/-- The number that a bit code stands for. -/
def decode (f : Format) (code : Nat) : Datum :=
  let negative := decide (f.signPlace ≤ code)
  let magnitude := code % f.signPlace
  let field := magnitude / twoTo f.fractionBits
  let fraction := magnitude % twoTo f.fractionBits
  if f.infinityCode < magnitude then .nan
  else if magnitude = f.infinityCode then .infinite negative
  else if field = 0 then .finite negative fraction f.minExponent
  else .finite negative (twoTo f.fractionBits + fraction) (f.minExponent + field - 1)

/-- The natural number nearest to `num / den`, a tie going to the even one. -/
def divideToEven (num den : Nat) : Nat :=
  let quotient := num / den
  let rest := num % den
  if 2 * rest < den then quotient
  else if den < 2 * rest then quotient + 1
  else quotient + quotient % 2

/-- The greatest `e` with `2 ^ e ≤ num / den`. -/
def floorLog2 (num den : Nat) : Int :=
  let estimate : Int := (num.log2 : Int) - den.log2
  if den * twoTo estimate.toNat ≤ num * twoTo (-estimate).toNat then estimate else estimate - 1

/-- The magnitude code nearest to `num / den`; too large a number gives
infinity. -/
def roundMagnitude (f : Format) (num den : Nat) : Nat :=
  if num = 0 then 0
  else
    let unit := max (floorLog2 num den - f.fractionBits) f.minExponent
    let significand := divideToEven (num * twoTo (-unit).toNat) (den * twoTo unit.toNat)
    min ((unit - f.minExponent).toNat * twoTo f.fractionBits + significand) f.infinityCode

/-- The bit code nearest to `± num / den`. -/
def round (f : Format) (negative : Bool) (num den : Nat) : Nat :=
  f.withSign negative (f.roundMagnitude num den)

/-- The bit code nearest to an integer. -/
def ofInt (f : Format) (v : Int) : Nat :=
  f.round (decide (v < 0)) v.natAbs 1

/-- The bit code nearest to what a datum of any format stands for. -/
def ofDatum (f : Format) : Datum → Nat
  | .nan => f.nanCode
  | .infinite negative => f.withSign negative f.infinityCode
  | .finite negative significand exponent =>
    f.round negative (significand * twoTo exponent.toNat) (twoTo (-exponent).toNat)

end Format

namespace Datum

/-- The integer left when the fraction of a finite number is dropped. -/
def truncate? : Datum → Option Int
  | .finite negative significand exponent =>
    let magnitude : Nat := significand * twoTo exponent.toNat / twoTo (-exponent).toNat
    some (if negative then -magnitude else magnitude)
  | _ => none

def isFinite : Datum → Bool
  | .finite .. => true
  | _ => false

end Datum

end ScriptClass.Number
