import ScriptClass.Proofs.Number.Rounding
import Mathlib.Data.Rat.Floor

/-!
# The rational that a double stands for

`Double.value?` reads the fields of a double as an exact rational, without the code of a format in
between. Dropping the fraction of a double is dropping the fraction of that rational, toward zero
(`Double.truncate?_datum`).
-/

namespace ScriptClass.Number

/-- The integer next to a rational on the side of zero. -/
def towardZero (q : ℚ) : ℤ := if 0 ≤ q then ⌊q⌋ else ⌈q⌉

/-- The exact rational of the sign, the exponent field of 11 bits and the fraction of 52 bits of a
finite double. -/
def Double.value? (x : Double) : Option ℚ :=
  let code := x.bits.toNat
  let field : ℕ := code / 2 ^ 52 % 2 ^ 11
  let fraction : ℕ := code % 2 ^ 52
  let sign : ℚ := if code < 2 ^ 63 then 1 else -1
  if field = 2047 then none
  else if field = 0 then some (sign * (fraction * 2 ^ (-1074 : ℤ)))
  else some (sign * ((2 ^ 52 + fraction : ℕ) * 2 ^ ((field : ℤ) - 1075)))

theorem towardZero_natCast_div (m n : ℕ) : towardZero ((m : ℚ) / n) = (m / n : ℕ) := by
  rw [towardZero, if_pos (by positivity), Rat.floor_natCast_div_natCast, Int.natCast_div]

theorem towardZero_neg (q : ℚ) : towardZero (-q) = -towardZero q := by
  unfold towardZero
  rcases lt_trichotomy q 0 with h | rfl | h
  · rw [if_pos (by linarith), if_neg (by linarith), Int.floor_neg]
  · simp
  · rw [if_neg (by linarith), if_pos h.le, Int.ceil_neg]

/-- A finite datum is truncated as the rational that it is written for. -/
theorem truncate?_finite (negative : Bool) (significand : ℕ) (exponent : ℤ) :
    (Datum.finite negative significand exponent).truncate? =
      some (towardZero ((if negative then -1 else 1) * (significand * 2 ^ exponent))) := by
  have hmagnitude : (significand : ℚ) * 2 ^ exponent =
      ((significand * twoTo exponent.toNat : ℕ) : ℚ) / (twoTo (-exponent).toNat : ℕ) := by
    rw [zpow_eq_div, Nat.cast_mul, mul_div_assoc]
  have htruncate := towardZero_natCast_div (significand * twoTo exponent.toNat)
    (twoTo (-exponent).toNat)
  cases negative with
  | false => rw [if_neg Bool.false_ne_true, one_mul, hmagnitude, htruncate]; rfl
  | true => rw [if_pos rfl, neg_one_mul, towardZero_neg, hmagnitude, htruncate]; rfl

/-- The fraction of a double is dropped from the rational that its bits are. -/
theorem Double.truncate?_datum (x : Double) : x.datum.truncate? = x.value?.map towardZero := by
  have hcode : x.bits.toNat < 2 ^ 64 := x.bits.toNat_lt
  simp only [datum, value?]
  generalize x.bits.toNat = code at hcode
  have hsignPlace : Format.double.signPlace = 2 ^ 63 := by decide
  have hfractionBits : twoTo Format.double.fractionBits = 2 ^ 52 := by decide
  have hinfinity : Format.double.infinityCode = 2047 * 2 ^ 52 := by decide
  have hminimum : Format.double.minExponent = -1074 := by decide
  have hfield : code % 2 ^ 63 / 2 ^ 52 = code / 2 ^ 52 % 2 ^ 11 := by omega
  have hfraction : code % 2 ^ 63 % 2 ^ 52 = code % 2 ^ 52 := by omega
  have hsign : (if decide (2 ^ 63 ≤ code) = true then -1 else 1 : ℚ) =
      if code < 2 ^ 63 then 1 else -1 := by
    simp only [decide_eq_true_eq, ← not_lt, ite_not]
  simp only [Format.decode, hsignPlace, hfractionBits, hinfinity, hminimum, hfield, hfraction]
  by_cases hfull : code / 2 ^ 52 % 2 ^ 11 = 2047
  · -- an infinity or a NaN
    rw [if_pos hfull]
    split
    · rfl
    · rw [if_pos (by omega)]
      rfl
  rw [if_neg hfull, if_neg (by omega), if_neg (by omega)]
  split
  · rw [truncate?_finite, hsign, Option.map_some]
  · have hexponent : -1074 + ((code / 2 ^ 52 % 2 ^ 11 : ℕ) : ℤ) - 1 =
        ((code / 2 ^ 52 % 2 ^ 11 : ℕ) : ℤ) - 1075 := by omega
    rw [truncate?_finite, hsign, hexponent, Option.map_some]

end ScriptClass.Number
