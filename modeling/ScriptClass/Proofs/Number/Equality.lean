import ScriptClass.Proofs.Number.Rounding

/-!
# Equal numbers

Equality of doubles is symmetric and transitive, for it goes by the place in the order of numbers
(`Double.numEq_iff`), and a NaN has none.

A format has every natural number that its significand has room for, and what has no room is rounded
to a number beyond those (`Format.eq_of_roundMagnitude`). So an integer of at most 53 bits besides
the sign shares its nearest double with no other integer (`Double.eq_of_numEq_ofInt`).
-/

namespace ScriptClass.Number

namespace Format

variable {f : Format} {j k : ℕ}

theorem le_divideToEven {num den q : ℕ} (hden : 0 < den) (h : q * den ≤ num) :
    q ≤ divideToEven num den := by
  have hquotient : q ≤ num / den := (Nat.le_div_iff_mul_le hden).mpr h
  simp only [divideToEven]
  split
  · exact hquotient
  · split <;> omega

/-- The format reaches beyond the numbers that its significand has room for. -/
structure Roomy (f : Format) : Prop where
  minExponent_le : f.minExponent ≤ 0
  room : (-f.minExponent).toNat + 2 ≤ twoTo f.exponentBits - 1

theorem Roomy.le_infinityCode (hf : f.Roomy) :
    ((-f.minExponent).toNat + 2) * twoTo f.fractionBits ≤ f.infinityCode :=
  Nat.mul_le_mul_right _ hf.room

/-- A number that the significand has room for is rounded to itself. -/
theorem exists_canonical_nat (hf : f.Roomy) (hk : k < 2 * twoTo f.fractionBits) :
    ∃ n b, f.Canonical n b ∧ f.encode n b < ((-f.minExponent).toNat + 2) * twoTo f.fractionBits ∧
      (n : ℚ) * 2 ^ b = k ∧ f.roundMagnitude k 1 = f.encode n b := by
  obtain ⟨n, b, hcanonical, hle, hvalue⟩ := exists_canonical hk hf.minExponent_le
  have hlt := hcanonical.encode_lt hle
  rw [zero_sub] at hlt
  rw [zpow_zero, mul_one] at hvalue
  refine ⟨n, b, hcanonical, hlt, hvalue, ?_⟩
  rw [roundMagnitude_canonical hcanonical one_ne_zero (by rw [hvalue, Nat.cast_one, div_one]),
    Nat.min_eq_left (hlt.le.trans hf.le_infinityCode)]

/-- What the significand has no room for is rounded to a number beyond those. -/
theorem le_roundMagnitude (hf : f.Roomy) (hk : 2 * twoTo f.fractionBits ≤ k) :
    ((-f.minExponent).toNat + 2) * twoTo f.fractionBits ≤ f.roundMagnitude k 1 := by
  have hpos := twoTo_pos f.fractionBits
  have hnonzero : k ≠ 0 := by omega
  obtain ⟨hlow, hhigh⟩ := floorLog2_spec hnonzero one_ne_zero
  rw [Nat.cast_one, div_one] at hlow hhigh
  -- The last place weighs at least two.
  have hlog : (f.fractionBits : ℤ) + 1 ≤ floorLog2 k 1 := by
    have hpower : (2 : ℚ) ^ ((f.fractionBits : ℤ) + 1) ≤ k := by
      rw [zpow_add_one₀ two_ne_zero, zpow_natCast, mul_comm]
      rw [twoTo_eq] at hk
      exact_mod_cast hk
    have := (zpow_lt_zpow_iff_right₀ one_lt_two).mp (hpower.trans_lt hhigh)
    omega
  obtain ⟨unit, hunit⟩ : ∃ unit : ℕ, floorLog2 k 1 = f.fractionBits + (unit + 1 : ℕ) :=
    ⟨(floorLog2 k 1 - f.fractionBits - 1).toNat, by omega⟩
  have hmin := hf.minExponent_le
  have hmax : max (floorLog2 k 1 - f.fractionBits) f.minExponent = (unit + 1 : ℕ) := by omega
  have hsignificand : twoTo f.fractionBits ≤
      divideToEven (k * twoTo (-((unit + 1 : ℕ) : ℤ)).toNat) (1 * twoTo ((unit + 1 : ℕ) : ℤ).toNat) := by
    refine le_divideToEven (Nat.mul_pos Nat.one_pos (twoTo_pos _)) ?_
    have hnegative : (-((unit + 1 : ℕ) : ℤ)).toNat = 0 := by omega
    rw [hnegative, Int.toNat_natCast, one_mul, twoTo_eq, twoTo_eq, twoTo_eq, pow_zero, mul_one,
      ← pow_add]
    rw [hunit] at hlow
    exact_mod_cast hlow
  simp only [roundMagnitude, if_neg hnonzero, hmax]
  refine Nat.le_min.mpr ⟨?_, hf.le_infinityCode⟩
  have hexponent : (-f.minExponent).toNat + 1 ≤ (((unit + 1 : ℕ) : ℤ) - f.minExponent).toNat := by
    omega
  have := Nat.mul_le_mul_right (twoTo f.fractionBits) hexponent
  rw [Nat.add_mul] at this ⊢
  omega

/-- No other number is rounded to one that the significand has room for. -/
theorem eq_of_roundMagnitude (hf : f.Roomy) (hj : j < 2 * twoTo f.fractionBits)
    (h : f.roundMagnitude j 1 = f.roundMagnitude k 1) : j = k := by
  obtain ⟨n, b, hcanonical, hlt, hvalue, hround⟩ := exists_canonical_nat hf hj
  have hk : k < 2 * twoTo f.fractionBits := by
    by_contra hk
    have := le_roundMagnitude hf (Nat.not_lt.mp hk)
    omega
  obtain ⟨n', b', hcanonical', hlt', hvalue', hround'⟩ := exists_canonical_nat hf hk
  have hdecode : f.decode (f.withSign false (f.encode n b)) = .finite false n b :=
    decode_encode hcanonical (hlt.trans_le hf.le_infinityCode)
  rw [← hround, h, hround', decode_encode hcanonical' (hlt'.trans_le hf.le_infinityCode)] at hdecode
  obtain ⟨-, rfl, rfl⟩ := Datum.finite.inj hdecode
  exact_mod_cast hvalue.symm.trans hvalue'

/-- The place of a rounded integer in the order of numbers. -/
theorem rank?_ofInt (f : Format) (v : ℤ) : f.rank? (f.ofInt v) =
      some (if v < 0 then -(f.roundMagnitude v.natAbs 1 : ℤ) else f.roundMagnitude v.natAbs 1) := by
  have hle := f.roundMagnitude_le v.natAbs 1
  obtain ⟨hsign, hmagnitude⟩ :=
    withSign_parts (f := f) (decide (v < 0)) (hle.trans_lt f.infinityCode_lt)
  simp only [rank?, ofInt, round, hmagnitude, if_neg hle.not_gt, decide_eq_decide.mp hsign]
  split <;> rfl

/-- An integer that the significand has room for shares its place with no other one. -/
theorem eq_of_rank?_ofInt (hf : f.Roomy) {m n : ℤ} (hm : m.natAbs < 2 * twoTo f.fractionBits)
    (h : f.rank? (f.ofInt m) = f.rank? (f.ofInt n)) : m = n := by
  have hpos := twoTo_pos f.fractionBits
  have hzero (hm : f.roundMagnitude m.natAbs 1 = 0) : 0 = m.natAbs :=
    eq_of_roundMagnitude hf (by omega) hm.symm
  rw [rank?_ofInt, rank?_ofInt, Option.some_inj] at h
  have hmagnitude : f.roundMagnitude m.natAbs 1 = f.roundMagnitude n.natAbs 1 := by
    split at h <;> split at h <;> omega
  have habs : m.natAbs = n.natAbs := eq_of_roundMagnitude hf hm hmagnitude
  split at h <;> split at h <;> omega

end Format

theorem double_roomy : Format.double.Roomy := ⟨by decide, by decide⟩

namespace Double

variable {x y z : Double}

theorem numEq_iff : x.numEq y = true ↔ ∃ place, x.rank? = some place ∧ y.rank? = some place := by
  unfold numEq
  split
  next a b hx hy =>
    simp only [hx, hy, beq_iff_eq, Option.some_inj, exists_eq_left']
    exact eq_comm
  next hnone =>
    refine iff_of_false Bool.false_ne_true ?_
    rintro ⟨place, hx, hy⟩
    exact hnone place place hx hy

theorem numEq_comm (x y : Double) : x.numEq y = y.numEq x :=
  Bool.eq_iff_iff.mpr (by simp only [numEq_iff, and_comm])

theorem numEq_trans (hxy : x.numEq y = true) (hyz : y.numEq z = true) : x.numEq z = true := by
  obtain ⟨place, hx, hy⟩ := numEq_iff.mp hxy
  obtain ⟨_, hy', hz⟩ := numEq_iff.mp hyz
  obtain rfl := Option.some_inj.mp (hy.symm.trans hy')
  exact numEq_iff.mpr ⟨place, hx, hz⟩

theorem rank?_ofInt (v : ℤ) : (ofInt v).rank? = Format.double.rank? (Format.double.ofInt v) := by
  have hcode : Format.double.ofInt v < 2 ^ 64 :=
    Format.withSign_lt ((Format.roundMagnitude_le ..).trans_lt Format.infinityCode_lt)
  rw [rank?, ofInt, ofCode, UInt64.toNat_ofNat_of_lt' hcode]

/-- The double nearest to an integer is no NaN. -/
theorem numEq_ofInt_self (v : ℤ) : (ofInt v).numEq (ofInt v) = true :=
  numEq_iff.mpr ⟨_, (rank?_ofInt v).trans (Format.rank?_ofInt ..),
    (rank?_ofInt v).trans (Format.rank?_ofInt ..)⟩

/-- An integer of at most 53 bits besides the sign shares its nearest double with no other one. -/
theorem eq_of_numEq_ofInt {m n : ℤ} (hm : m.natAbs < 2 ^ 53)
    (h : (ofInt m).numEq (ofInt n) = true) : m = n := by
  obtain ⟨place, hplace, hplace'⟩ := numEq_iff.mp h
  rw [rank?_ofInt] at hplace hplace'
  exact Format.eq_of_rank?_ofInt double_roomy hm (hplace.trans hplace'.symm)

end Double

end ScriptClass.Number
