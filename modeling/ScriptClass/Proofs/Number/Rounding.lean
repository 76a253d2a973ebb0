import ScriptClass.Number.Binary
import Mathlib.Data.Rat.Cast.Order
import Mathlib.Algebra.Order.Field.Power
import Mathlib.Tactic.Positivity
import Mathlib.Tactic.Ring

/-!
# Rounding numbers of a format

Every finite number of a format is written in one way as a significand and an exponent
(`Format.Canonical`), and its bit code is read off them (`Format.encode`). Decoding a code
gives the written form (`Format.decode_finite`) and a number of that form decodes to it
(`Format.decode_encode`).

A number that a format has is rounded to itself, by whatever fraction it is given
(`Format.ofDatum_canonical`). A format within another one has its numbers among those of
the other, so a number that is moved to the wider format and back is the same
(`Format.ofDatum_widened`); for singles and doubles this is `Single.toSingle_toDouble`.
A NaN comes back as the canonical one.
-/

namespace ScriptClass.Number

theorem twoTo_eq (n : Nat) : twoTo n = 2 ^ n := Nat.one_shiftLeft n

theorem twoTo_pos (n : Nat) : 0 < twoTo n := by
  rw [twoTo_eq]
  exact Nat.two_pow_pos n

/-- A power of two as a fraction of naturals. -/
theorem zpow_eq_div (e : Int) : (2 : ℚ) ^ e = (twoTo e.toNat : ℚ) / (twoTo (-e).toNat : ℚ) := by
  rw [twoTo_eq, twoTo_eq, Nat.cast_pow, Nat.cast_pow, Nat.cast_ofNat, ← zpow_natCast,
    ← zpow_natCast, ← zpow_sub₀ two_ne_zero]
  congr 1
  omega

namespace Format

/-- A fraction that is a natural number is divided to it. -/
theorem divideToEven_mul (n : Nat) {d : Nat} (hd : 0 < d) : divideToEven (n * d) d = n := by
  simp only [divideToEven, Nat.mul_mod_left, Nat.mul_div_cancel n hd, Nat.mul_zero, if_pos hd]

theorem floorLog2_spec {num den : Nat} (hnum : num ≠ 0) (hden : den ≠ 0) :
    (2 : ℚ) ^ floorLog2 num den ≤ (num : ℚ) / den ∧
      (num : ℚ) / den < 2 ^ (floorLog2 num den + 1) := by
  have hpos : (0 : ℚ) < den := by exact_mod_cast Nat.pos_of_ne_zero hden
  have hnumLow : (2 : ℚ) ^ (num.log2 : Int) ≤ num := by
    rw [zpow_natCast]
    exact_mod_cast Nat.log2_self_le hnum
  have hnumHigh : (num : ℚ) < 2 ^ ((num.log2 : Int) + 1) := by
    exact_mod_cast Nat.lt_log2_self (n := num)
  have hdenLow : (2 : ℚ) ^ (den.log2 : Int) ≤ den := by
    rw [zpow_natCast]
    exact_mod_cast Nat.log2_self_le hden
  have hdenHigh : (den : ℚ) < 2 ^ ((den.log2 : Int) + 1) := by
    exact_mod_cast Nat.lt_log2_self (n := den)
  -- The two logarithms leave the exponent open by one, and the comparison decides.
  set estimate : Int := (num.log2 : Int) - den.log2 with hestimate
  have hhigh : (num : ℚ) / den < 2 ^ (estimate + 1) := by
    rw [div_lt_iff₀ hpos]
    calc (num : ℚ) < 2 ^ ((num.log2 : Int) + 1) := hnumHigh
      _ = 2 ^ (estimate + 1) * 2 ^ (den.log2 : Int) := by
        rw [← zpow_add₀ two_ne_zero]
        congr 1
        omega
      _ ≤ 2 ^ (estimate + 1) * den := by gcongr
  have hlow : (2 : ℚ) ^ (estimate - 1) ≤ (num : ℚ) / den := by
    rw [le_div_iff₀ hpos]
    calc (2 : ℚ) ^ (estimate - 1) * den
        ≤ 2 ^ (estimate - 1) * 2 ^ ((den.log2 : Int) + 1) := by gcongr
      _ = 2 ^ (num.log2 : Int) := by
        rw [← zpow_add₀ two_ne_zero]
        congr 1
        omega
      _ ≤ num := hnumLow
  have htest : den * twoTo estimate.toNat ≤ num * twoTo (-estimate).toNat ↔
      (2 : ℚ) ^ estimate ≤ (num : ℚ) / den := by
    have hscale : (0 : ℚ) < twoTo (-estimate).toNat := by exact_mod_cast twoTo_pos _
    rw [zpow_eq_div, div_le_div_iff₀ hscale hpos, ← Nat.cast_le (α := ℚ), Nat.cast_mul,
      Nat.cast_mul, mul_comm (den : ℚ)]
  simp only [floorLog2, ← hestimate]
  split
  next h => exact ⟨htest.mp h, hhigh⟩
  next h =>
    rw [sub_add_cancel]
    exact ⟨hlow, not_le.mp (mt htest.mpr h)⟩

variable {f g : Format}

/-! ## Written forms -/

/-- The written form of a number that the format has, if the exponent is not too great:
only at the least exponent does the leading bit of the significand fail. -/
structure Canonical (f : Format) (significand : Nat) (exponent : Int) : Prop where
  lt : significand < 2 * twoTo f.fractionBits
  minExponent_le : f.minExponent ≤ exponent
  normal : exponent = f.minExponent ∨ twoTo f.fractionBits ≤ significand

/-- The bit code, above the sign, of a significand and an exponent. -/
def encode (f : Format) (significand : Nat) (exponent : Int) : Nat :=
  (exponent - f.minExponent).toNat * twoTo f.fractionBits + significand

/-- The codes of the numbers up to an exponent. -/
theorem Canonical.encode_lt {significand : Nat} {exponent bound : Int}
    (h : f.Canonical significand exponent) (hle : exponent ≤ bound) :
    f.encode significand exponent < ((bound - f.minExponent).toNat + 2) * twoTo f.fractionBits :=
  calc f.encode significand exponent
      < (exponent - f.minExponent).toNat * twoTo f.fractionBits + 2 * twoTo f.fractionBits :=
        Nat.add_lt_add_left h.lt _
    _ = ((exponent - f.minExponent).toNat + 2) * twoTo f.fractionBits := (Nat.add_mul ..).symm
    _ ≤ ((bound - f.minExponent).toNat + 2) * twoTo f.fractionBits :=
        Nat.mul_le_mul_right _ (by omega)

theorem infinityCode_lt : f.infinityCode < f.signPlace := by
  have hexponent := twoTo_pos f.exponentBits
  have hsign : f.signPlace = twoTo f.exponentBits * twoTo f.fractionBits := by
    simp only [signPlace, twoTo_eq, Nat.pow_add, Nat.mul_comm]
  rw [hsign, infinityCode]
  exact Nat.mul_lt_mul_of_pos_right (by omega) (twoTo_pos _)

/-- The sign and the magnitude of a bit code. -/
theorem withSign_parts (negative : Bool) {magnitude : Nat} (h : magnitude < f.signPlace) :
    decide (f.signPlace ≤ f.withSign negative magnitude) = negative ∧
      f.withSign negative magnitude % f.signPlace = magnitude := by
  cases negative with
  | false => exact ⟨decide_eq_false (by simpa [withSign] using h), Nat.mod_eq_of_lt h⟩
  | true =>
    simp only [withSign, if_true]
    refine ⟨decide_eq_true (by omega), ?_⟩
    rw [Nat.add_mod_left, Nat.mod_eq_of_lt h]

theorem withSign_of_lt {code : Nat} (h : code < 2 * f.signPlace) :
    f.withSign (decide (f.signPlace ≤ code)) (code % f.signPlace) = code := by
  by_cases hsign : f.signPlace ≤ code
  · rw [decide_eq_true hsign, Nat.mod_eq_sub_mod hsign, Nat.mod_eq_of_lt (by omega), withSign,
      if_pos rfl]
    omega
  · rw [decide_eq_false hsign, Nat.mod_eq_of_lt (by omega)]
    rfl

theorem withSign_lt {negative : Bool} {magnitude : Nat} (h : magnitude < f.signPlace) :
    f.withSign negative magnitude < 2 * f.signPlace := by
  cases negative <;> simp [withSign] <;> omega

theorem roundMagnitude_le (f : Format) (num den : Nat) :
    f.roundMagnitude num den ≤ f.infinityCode := by
  unfold roundMagnitude
  split
  · exact Nat.zero_le _
  · exact Nat.min_le_right _ _

/-- Bit codes take a bit more than the place of the sign. -/
theorem ofDatum_lt (hnan : f.nanCode < f.signPlace) (d : Datum) : f.ofDatum d < 2 * f.signPlace := by
  cases d with
  | nan =>
    simp only [ofDatum]
    omega
  | infinite => exact withSign_lt infinityCode_lt
  | finite => exact withSign_lt ((roundMagnitude_le ..).trans_lt infinityCode_lt)

theorem decode_infinite (negative : Bool) :
    f.decode (f.withSign negative f.infinityCode) = .infinite negative := by
  obtain ⟨hsign, hmagnitude⟩ := withSign_parts negative f.infinityCode_lt
  simp only [decode, hsign, hmagnitude, Nat.lt_irrefl, if_false, if_true]

theorem decode_encode {negative : Bool} {significand : Nat} {exponent : Int}
    (hcanonical : f.Canonical significand exponent)
    (hlt : f.encode significand exponent < f.infinityCode) :
    f.decode (f.withSign negative (f.encode significand exponent)) =
      .finite negative significand exponent := by
  obtain ⟨hsign, hmagnitude⟩ :=
    withSign_parts negative (hlt.trans f.infinityCode_lt)
  have hpos := twoTo_pos f.fractionBits
  have hsignificand := hcanonical.lt
  have hexponent := hcanonical.minExponent_le
  simp only [decode, hsign, hmagnitude, if_neg hlt.asymm, if_neg hlt.ne]
  by_cases hleading : twoTo f.fractionBits ≤ significand
  · have hcode : f.encode significand exponent = (significand - twoTo f.fractionBits) +
        twoTo f.fractionBits * ((exponent - f.minExponent).toNat + 1) := by
      rw [encode, Nat.mul_add, Nat.mul_comm]
      omega
    rw [hcode, Nat.add_mul_div_left _ _ hpos, Nat.add_mul_mod_self_left,
      Nat.div_eq_of_lt (by omega), Nat.mod_eq_of_lt (by omega), if_neg (by omega)]
    congr 1
    · omega
    · omega
  · obtain rfl := hcanonical.normal.resolve_right hleading
    have hcode : f.encode significand f.minExponent = significand := by simp [encode]
    rw [hcode, Nat.div_eq_of_lt (by omega), Nat.mod_eq_of_lt (by omega), if_pos rfl]

/-- A code that decodes to a finite number is the code of its written form. -/
theorem decode_finite {code : Nat} (hcode : code < 2 * f.signPlace) {negative : Bool}
    {significand : Nat} {exponent : Int} (h : f.decode code = .finite negative significand exponent) :
    f.Canonical significand exponent ∧ f.encode significand exponent < f.infinityCode ∧
      f.withSign negative (f.encode significand exponent) = code := by
  have hpos := twoTo_pos f.fractionBits
  have hfraction := Nat.mod_lt (code % f.signPlace) hpos
  have hparts := Nat.div_add_mod (code % f.signPlace) (twoTo f.fractionBits)
  simp only [decode] at h
  split at h
  · cases h
  next hnan =>
    split at h
    · cases h
    next hinfinite =>
      have hlt : code % f.signPlace < f.infinityCode := by omega
      suffices hform : f.Canonical significand exponent ∧
          f.encode significand exponent = code % f.signPlace ∧
            decide (f.signPlace ≤ code) = negative by
        obtain ⟨hcanonical, hencode, rfl⟩ := hform
        exact ⟨hcanonical, hencode ▸ hlt, hencode ▸ withSign_of_lt hcode⟩
      generalize code % f.signPlace / twoTo f.fractionBits = field at h hparts
      generalize code % f.signPlace % twoTo f.fractionBits = fraction at h hparts hfraction
      split at h
      next hfield =>
        cases h
        refine ⟨⟨by omega, le_rfl, .inl rfl⟩, ?_, rfl⟩
        rw [encode, Int.sub_self, Int.toNat_zero, Nat.zero_mul, Nat.zero_add, ← hparts, hfield,
          Nat.mul_zero, Nat.zero_add]
      next hfield =>
        cases h
        refine ⟨⟨by omega, by omega, .inr (Nat.le_add_right ..)⟩, ?_, rfl⟩
        obtain ⟨n, rfl⟩ := Nat.exists_eq_succ_of_ne_zero hfield
        have hexponent : (f.minExponent + (n.succ : Int) - 1 - f.minExponent).toNat = n := by omega
        rw [encode, hexponent, ← hparts, Nat.mul_succ, Nat.mul_comm]
        omega

theorem eq_of_decode_infinite {code : Nat} (hcode : code < 2 * f.signPlace) {negative : Bool}
    (h : f.decode code = .infinite negative) : f.withSign negative f.infinityCode = code := by
  simp only [decode] at h
  split at h
  · cases h
  · split at h
    next hinfinite =>
      cases h
      exact hinfinite ▸ withSign_of_lt hcode
    next => split at h <;> cases h

/-! ## Rounding what a format has -/

/-- A fraction that equals a written form is rounded to it. -/
theorem roundMagnitude_canonical {num den significand : Nat} {exponent : Int}
    (hcanonical : f.Canonical significand exponent) (hden : den ≠ 0)
    (hvalue : (num : ℚ) / den = significand * 2 ^ exponent) :
    f.roundMagnitude num den = min (f.encode significand exponent) f.infinityCode := by
  have hdenPos : (0 : ℚ) < den := by exact_mod_cast Nat.pos_of_ne_zero hden
  by_cases hnum : num = 0
  · subst hnum
    have hzero : (significand : ℚ) * 2 ^ exponent = 0 := by rw [← hvalue, Nat.cast_zero, zero_div]
    obtain rfl : significand = 0 := by
      exact_mod_cast (mul_eq_zero.mp hzero).resolve_right (by positivity)
    obtain rfl := hcanonical.normal.resolve_right (Nat.not_le.mpr (twoTo_pos _))
    simp [roundMagnitude, encode]
  · obtain ⟨hlow, hhigh⟩ := floorLog2_spec hnum hden
    rw [hvalue] at hlow hhigh
    have hpower (n : Nat) : (twoTo n : ℚ) = 2 ^ (n : Int) := by
      rw [twoTo_eq, zpow_natCast, Nat.cast_pow, Nat.cast_ofNat]
    -- The unit of the last place is that of the written form.
    have hunit : max (floorLog2 num den - f.fractionBits) f.minExponent = exponent := by
      have habove : (significand : ℚ) * 2 ^ exponent <
          2 ^ ((f.fractionBits : Int) + 1 + exponent) := by
        rw [zpow_add₀ two_ne_zero, zpow_add₀ two_ne_zero, zpow_one, ← hpower]
        gcongr
        exact_mod_cast Nat.mul_comm _ _ ▸ hcanonical.lt
      have hle : floorLog2 num den < f.fractionBits + 1 + exponent :=
        (zpow_lt_zpow_iff_right₀ one_lt_two).mp (hlow.trans_lt habove)
      have hminimum := hcanonical.minExponent_le
      rcases hcanonical.normal with hminimal | hleading
      · omega
      · have hbelow : (2 : ℚ) ^ ((f.fractionBits : Int) + exponent) ≤
            significand * 2 ^ exponent := by
          rw [zpow_add₀ two_ne_zero, ← hpower]
          gcongr
        have hge : f.fractionBits + exponent < floorLog2 num den + 1 :=
          (zpow_lt_zpow_iff_right₀ one_lt_two).mp (hbelow.trans_lt hhigh)
        omega
    have hdivision : num * twoTo (-exponent).toNat =
        significand * (den * twoTo exponent.toNat) := by
      have hscale : (0 : ℚ) < twoTo (-exponent).toNat := by exact_mod_cast twoTo_pos _
      rw [zpow_eq_div, ← mul_div_assoc, div_eq_div_iff hdenPos.ne' hscale.ne', mul_assoc,
        mul_comm (twoTo exponent.toNat : ℚ)] at hvalue
      exact_mod_cast hvalue
    have hpos : 0 < den * twoTo exponent.toNat :=
      Nat.mul_pos (Nat.pos_of_ne_zero hden) (twoTo_pos _)
    simp only [roundMagnitude, if_neg hnum, hunit, hdivision, divideToEven_mul _ hpos]
    rfl

/-- A number that the format has, however it is written, is rounded to its own code. -/
theorem ofDatum_canonical {negative : Bool} {m significand : Nat} {a exponent : Int}
    (hcanonical : f.Canonical significand exponent)
    (hlt : f.encode significand exponent < f.infinityCode)
    (hvalue : (m : ℚ) * 2 ^ a = significand * 2 ^ exponent) :
    f.ofDatum (.finite negative m a) = f.withSign negative (f.encode significand exponent) := by
  have hfraction : ((m * twoTo a.toNat : Nat) : ℚ) / (twoTo (-a).toNat : Nat) =
      significand * 2 ^ exponent := by
    rw [← hvalue, zpow_eq_div, Nat.cast_mul, mul_div_assoc]
  rw [ofDatum, round, roundMagnitude_canonical hcanonical (twoTo_pos _).ne' hfraction,
    Nat.min_eq_left hlt.le]

/-! ## Formats within formats -/

/-- Every finite number of `f` is one of `g`. -/
structure Within (f g : Format) : Prop where
  fractionBits_le : f.fractionBits ≤ g.fractionBits
  minExponent_le : g.minExponent ≤ f.minExponent
  maxExponent_lt : f.minExponent + twoTo f.exponentBits < g.minExponent + twoTo g.exponentBits

/-- A short significand is written with the least exponent that leaves it whole. -/
theorem exists_canonical {significand : Nat} {exponent : Int}
    (hlt : significand < 2 * twoTo f.fractionBits) (hmin : f.minExponent ≤ exponent) :
    ∃ n b, f.Canonical n b ∧ b ≤ exponent ∧ (n : ℚ) * 2 ^ b = significand * 2 ^ exponent := by
  obtain ⟨steps, hsteps⟩ : ∃ steps : Nat, exponent = f.minExponent + steps :=
    ⟨(exponent - f.minExponent).toNat, by omega⟩
  subst hsteps
  induction steps generalizing significand with
  | zero => exact ⟨significand, _, ⟨hlt, hmin, .inl (by simp)⟩, le_rfl, rfl⟩
  | succ steps ih =>
    by_cases hleading : twoTo f.fractionBits ≤ significand
    · exact ⟨significand, _, ⟨hlt, hmin, .inr hleading⟩, le_rfl, rfl⟩
    · -- The significand has room for another bit.
      obtain ⟨n, b, hcanonical, hle, hvalue⟩ :=
        @ih (2 * significand) (by omega) (by omega)
      refine ⟨n, b, hcanonical, by omega, hvalue.trans ?_⟩
      rw [Nat.cast_succ, ← add_assoc, zpow_add_one₀ two_ne_zero]
      push_cast
      ring

/-- The written form of a number of `f` is not too great for `g`. -/
theorem Within.encode_lt (hwithin : f.Within g) {significand n : Nat} {exponent b : Int}
    (hlt : f.encode significand exponent < f.infinityCode) (hwide : g.Canonical n b)
    (hle : b ≤ exponent) : g.encode n b < g.infinityCode := by
  have hfield : (exponent - f.minExponent).toNat < twoTo f.exponentBits - 1 :=
    Nat.lt_of_mul_lt_mul_right ((Nat.le_add_right _ _).trans_lt hlt)
  have hmin := hwide.minExponent_le
  have hmax := hwithin.maxExponent_lt
  have hroom : (b - g.minExponent).toNat + 2 ≤ twoTo g.exponentBits - 1 := by omega
  exact (hwide.encode_lt le_rfl).trans_le (Nat.mul_le_mul_right _ hroom)

/-- A number that is moved to a wider format and back is the same. -/
theorem ofDatum_widened (hwithin : f.Within g) {code : Nat} (hcode : code < 2 * f.signPlace)
    (hnumber : f.decode code ≠ .nan) :
    f.ofDatum (g.decode (g.ofDatum (f.decode code))) = code := by
  cases hdecode : f.decode code with
  | nan => exact absurd hdecode hnumber
  | infinite negative =>
    rw [ofDatum, decode_infinite, ofDatum, eq_of_decode_infinite hcode hdecode]
  | finite negative significand exponent =>
    obtain ⟨hcanonical, hlt, hencode⟩ := decode_finite hcode hdecode
    have hsignificand : significand < 2 * twoTo g.fractionBits := by
      refine hcanonical.lt.trans_le (Nat.mul_le_mul_left 2 ?_)
      rw [twoTo_eq, twoTo_eq]
      exact Nat.pow_le_pow_right Nat.two_pos hwithin.fractionBits_le
    obtain ⟨n, b, hwide, hle, hvalue⟩ := exists_canonical hsignificand
      (hwithin.minExponent_le.trans hcanonical.minExponent_le)
    have hfits := hwithin.encode_lt hlt hwide hle
    rw [ofDatum_canonical hwide hfits hvalue.symm, decode_encode hwide hfits,
      ofDatum_canonical hcanonical hlt hvalue, hencode]

end Format

theorem single_within_double : Format.single.Within .double := ⟨by decide, by decide, by decide⟩

namespace Single

/-- Whether the number is a NaN. -/
def isNaN (x : Single) : Bool := x.datum == .nan

/-- The number, with the canonical NaN for every NaN. -/
def quiet (x : Single) : Single := if x.isNaN then ⟨UInt32.ofNat Format.single.nanCode⟩ else x

theorem quiet_of_number {x : Single} (h : x.isNaN = false) : x.quiet = x := by
  rw [quiet, h, if_neg Bool.false_ne_true]

/-- Widening and narrowing give a number back, and a canonical NaN for a NaN. -/
theorem toSingle_toDouble (x : Single) : x.toDouble.toSingle = x.quiet := by
  have hbits : (UInt64.ofNat (Format.double.ofDatum x.datum)).toNat =
      Format.double.ofDatum x.datum :=
    UInt64.toNat_ofNat_of_lt' (Format.ofDatum_lt (by decide) _)
  simp only [toDouble, Double.toSingle, Double.datum, Double.ofCode, hbits]
  by_cases hnan : x.datum = .nan
  · have hquiet : x.isNaN = true := beq_iff_eq.mpr hnan
    rw [quiet, if_pos hquiet, hnan]
    decide
  · have hquiet : x.isNaN = false := beq_false_of_ne hnan
    have hcode : x.bits.toNat < 2 * Format.single.signPlace := x.bits.toNat_lt
    rw [quiet_of_number hquiet, datum, Format.ofDatum_widened single_within_double hcode hnan,
      UInt32.ofNat_toNat]

end Single

end ScriptClass.Number
