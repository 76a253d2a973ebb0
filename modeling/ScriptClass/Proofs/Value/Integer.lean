import ScriptClass.Proofs.Value.Conversion
import ScriptClass.Proofs.Number.Truncation

/-!
# Exact integers

A script value denotes an integer or none (`ScriptValue.denoted?`): an integer denotes itself, a
finite float its rational without the fraction, a text the number that it is parsed as. To an integral
type a value is unboxed exactly if it denotes an integer in the range of the type, and to that
integer, and extraction gives the same integer or the same error (`integers_are_exact`).
-/

namespace ScriptClass

/-- A type of integers. -/
inductive Integral where
  | byte
  | short
  | int
  | long
  deriving DecidableEq, Repr

namespace Integral

def kind : Integral → Primitive
  | .byte => .byte
  | .short => .short
  | .int => .int
  | .long => .long

/-- The width of the type, the sign included. -/
def bits : Integral → ℕ
  | .byte => 8
  | .short => 16
  | .int => 32
  | .long => 64

/-- Whether an integer lies in the range of the type. -/
def InRange (i : Integral) (n : ℤ) : Prop := -(2 ^ (i.bits - 1)) ≤ n ∧ n < 2 ^ (i.bits - 1)

/-- The host value of the type that an integer is cut to. -/
def host (n : Int64) : Integral → HostValue
  | .byte => .byte n.toInt8
  | .short => .short n.toInt16
  | .int => .int n.toInt32
  | .long => .long n

variable {i : Integral} {n : Int64}

theorem fitsBits_iff_inRange : fitsBits i.bits n = true ↔ i.InRange n.toInt := fitsBits_iff

theorem primitive?_host : (i.host n).primitive? = some i.kind := by
  cases i <;> rfl

/-- Nothing is cut off an integer in range. -/
theorem integer?_host (h : fitsBits i.bits n = true) : (i.host n).integer? = some n := by
  cases i with
  | byte => exact congrArg some (toInt8_toInt64_of_fits h)
  | short => exact congrArg some (toInt16_toInt64_of_fits h)
  | int => exact congrArg some (toInt32_toInt64_of_fits h)
  | long => rfl

/-- Every host value of the type is an integer in its range. -/
theorem exists_host {h : HostValue} (hkind : h.primitive? = some i.kind) :
    ∃ n, fitsBits i.bits n = true ∧ h = i.host n := by
  cases i <;> cases h <;> cases hkind
  case byte m => exact ⟨m.toInt64, fitsBits_int8 m, congrArg _ m.toInt8_toInt64.symm⟩
  case short m => exact ⟨m.toInt64, fitsBits_int16 m, congrArg _ m.toInt16_toInt64.symm⟩
  case int m => exact ⟨m.toInt64, fitsBits_int32 m, congrArg _ m.toInt32_toInt64.symm⟩
  case long m => exact ⟨m, fitsBits_int64 m, rfl⟩

end Integral

/-- The integer that a number denotes: a float is an exact rational, less its fraction. -/
def ScriptNumber.denoted? : ScriptNumber → Option ℤ
  | .int n => some n.toInt
  | .float x => x.value?.map Number.towardZero

namespace ScriptValue

variable {v : ScriptValue} {kind : Primitive} {bits : ℕ} {n : Int64}

/-- The number that a value is or is parsed as. A text is parsed as an integer of 64 bits where it
is one, and else as a double. -/
def parsed? : ScriptValue → Option ScriptNumber
  | .int n => some (.int n)
  | .float x => some (.float x)
  | .string s =>
    let trimmed := Text.trim s.toList
    ((Number.readInt64? trimmed).map .int).or ((Number.readDouble? trimmed).map .float)
  | _ => none

/-- The integer that a value denotes. -/
def denoted? (v : ScriptValue) : Option ℤ := v.parsed?.bind ScriptNumber.denoted?

theorem numeric_ok_iff {x : ScriptNumber} : v.numeric kind = .ok x ↔ v.parsed? = some x := by
  cases v with
  | string s =>
    simp only [numeric, parsed?]
    cases Number.readInt64? (Text.trim s.toList) with
    | some n => simp
    | none => cases Number.readDouble? (Text.trim s.toList) <;> simp
  | int | float => simp [numeric, parsed?]
  | _ => simp [numeric, parsed?, mismatch]

/-- A number that leaves an integer of 64 bits is taken as just the integer that it denotes. -/
theorem integral_ok_iff {x : ScriptNumber} : integral kind x = .ok n ↔ x.denoted? = some n.toInt := by
  cases x with
  | int m => simp only [integral, ScriptNumber.denoted?, Except.ok.injEq, Option.some.injEq,
      Int64.toInt_inj]
  | float x =>
    rw [integral, ScriptNumber.denoted?, ← x.truncate?_datum]
    cases x.datum.truncate? with
    | none => simp only [reduceCtorEq]
    | some m =>
      simp only [Option.some.injEq]
      split
      next hrange =>
        have hback : (Int64.ofInt m).toInt = m := by
          rw [Int64.toInt_minValue, Int64.toInt_maxValue] at hrange
          exact Int64.toInt_ofInt_of_le hrange.1 (by omega)
        rw [Except.ok.injEq, ← Int64.toInt_inj, hback]
      next hrange =>
        refine ⟨fun h => (by cases h), fun hm => absurd ?_ hrange⟩
        exact hm ▸ ⟨n.minValue_le_toInt, n.toInt_le⟩

/-- The integer that is taken for a value is the one that it denotes, and it lies in the range. -/
theorem toInteger_ok_iff : v.toInteger kind bits = .ok n ↔
    v.denoted? = some n.toInt ∧ fitsBits bits n = true := by
  have hguard (m : Int64) {e : ConversionError} :
      (if fitsBits bits m then Except.ok m else .error e) = .ok n ↔
        fitsBits bits n = true ∧ m = n := by
    split
    next hfits =>
      rw [Except.ok.injEq]
      exact ⟨fun h => ⟨h ▸ hfits, h⟩, And.right⟩
    next hfits => exact ⟨nofun, fun ⟨hn, hm⟩ => absurd (hm ▸ hn) hfits⟩
  rw [toInteger, bind_ok_iff, denoted?, Option.bind_eq_some_iff, ← exists_and_right]
  refine exists_congr fun x => ?_
  rw [numeric_ok_iff, and_assoc, bind_ok_iff]
  simp only [hguard, exists_eq_right_right, integral_ok_iff]

theorem extractInteger_ok_iff : v.extractInteger kind bits = .ok n ↔
    v.denoted? = some n.toInt ∧ fitsBits bits n = true := by
  rw [extractInteger]
  split
  next hnullish =>
    have hnothing : v.denoted? = none := by
      cases v <;> cases hnullish <;> rfl
    rw [hnothing]
    exact ⟨nofun, nofun⟩
  next => exact toInteger_ok_iff

theorem unbox_integral (i : Integral) (v : ScriptValue) :
    v.unbox (.primitive i.kind) = (v.extractInteger i.kind i.bits).map i.host := by
  rw [unbox_primitive, unboxPrimitive, extractInteger, if_neg (by cases i <;> decide)]
  split
  next => rfl
  next => cases i <;> rfl

end ScriptValue

/-- To an integral type a value is unboxed exactly if it denotes an integer in the range of the
type, and to that integer. Extraction gives the same integer or fails with the same error. -/
theorem integers_are_exact (i : Integral) (v : ScriptValue) :
    (∀ h, v.unbox (.primitive i.kind) = .ok h ↔ h.primitive? = some i.kind ∧
      ∃ n, v.denoted? = some n ∧ i.InRange n ∧ h.integer?.map Int64.toInt = some n) ∧
    (v.unbox (.primitive i.kind)).map HostValue.integer? =
      (v.extractInteger i.kind i.bits).map some := by
  have hextract {n : Int64} : v.extractInteger i.kind i.bits = .ok n ↔
      v.denoted? = some n.toInt ∧ fitsBits i.bits n = true := ScriptValue.extractInteger_ok_iff
  rw [ScriptValue.unbox_integral]
  constructor
  · intro h
    constructor
    · intro hv
      obtain ⟨n, hn, rfl⟩ := ScriptValue.map_ok hv
      obtain ⟨hdenoted, hfits⟩ := hextract.mp hn
      refine ⟨Integral.primitive?_host, n.toInt, hdenoted, Integral.fitsBits_iff_inRange.mp hfits, ?_⟩
      rw [Integral.integer?_host hfits, Option.map_some]
    · rintro ⟨hkind, n, hdenoted, -, hn⟩
      obtain ⟨m, hfits, rfl⟩ := Integral.exists_host hkind
      rw [Integral.integer?_host hfits, Option.map_some, Option.some.injEq] at hn
      rw [hextract.mpr ⟨hn ▸ hdenoted, hfits⟩, Except.map]
  · cases hn : v.extractInteger i.kind i.bits with
    | error e => rfl
    | ok n => exact congrArg Except.ok (Integral.integer?_host (hextract.mp hn).2)

/-- The least integer of 64 bits is also a double, the first one above the greatest too. -/
example : (ScriptValue.float (.ofInt (-2 ^ 63))).unbox (.primitive .long) = .ok (.long .minValue) ∧
    (ScriptValue.float (.ofInt (2 ^ 63))).fits (.primitive .long) = false := ⟨rfl, rfl⟩

end ScriptClass
