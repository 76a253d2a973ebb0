import ScriptClass.Proofs.Value.Conversion
import Mathlib.Data.List.TakeWhile

/-!
# Integers and their numerals

The numeral of an integer is read as that integer (`Number.readInt?_toString`), and blanks around it
are trimmed off and nothing else (`Text.trim_padded`). So the text that an integer is unboxed to is
unboxed to every type of numbers as the integer itself (`numerals_unbox_as_integers`): it is never
read as a fraction, which has no room for all digits.
-/

namespace ScriptClass

namespace Number

variable {c : Char} {ds : List Char}

theorem digit?_of_isDigit (h : c.isDigit = true) : digit? c = some (c.toNat - '0'.toNat) :=
  if_pos (Char.isDigit_iff_toNat.mp h)

theorem spanDigits_digits (h : ∀ c ∈ ds, c.isDigit = true) : spanDigits ds = (ds, []) := by
  have hall : ∀ c ∈ ds, (digit? c).isSome = true := fun c hc => by
    rw [digit?_of_isDigit (h c hc), Option.isSome_some]
  rw [spanDigits, List.span_eq_takeWhile_dropWhile, List.takeWhile_eq_self_iff.mpr hall,
    List.dropWhile_eq_nil_iff.mpr hall]

theorem digitsValue_digits (h : ∀ c ∈ ds, c.isDigit = true) :
    digitsValue ds = Nat.ofDigitChars 10 ds 0 := by
  refine List.foldl_ext _ _ 0 fun n c hc => ?_
  rw [digit?_of_isDigit (h c hc), Option.getD_some]

/-- A digit is no sign. -/
theorem splitSign_digits (h : ∀ c ∈ ds, c.isDigit = true) : splitSign ds = (false, ds) := by
  unfold splitSign
  split
  · cases h '-' List.mem_cons_self
  · cases h '+' List.mem_cons_self
  · rfl

theorem isDigit_of_mem_toDigits {n : ℕ} (h : c ∈ Nat.toDigits 10 n) : c.isDigit = true :=
  Nat.isDigit_of_mem_toDigits (by decide) (by decide) h

theorem toList_toString (n : ℤ) : (toString n).toList =
    if 0 ≤ n then Nat.toDigits 10 n.toNat else '-' :: Nat.toDigits 10 (-n).toNat := by
  rw [Int.toString_eq_repr, Int.repr_eq_if]
  split
  · rw [Nat.toList_repr]
  · rw [String.toList_append, Nat.toList_repr]
    rfl

/-- Behind the sign, digits are read as their number. -/
theorem readInt?_digits {s : List Char} {negative : Bool} {k : ℕ}
    (h : splitSign s = (negative, Nat.toDigits 10 k)) :
    readInt? s = some (if negative then -(k : ℤ) else k) := by
  have hdigits : ∀ c ∈ Nat.toDigits 10 k, c.isDigit = true := fun _ => isDigit_of_mem_toDigits
  rw [readInt?, h]
  dsimp only
  rw [spanDigits_digits hdigits]
  cases hk : Nat.toDigits 10 k with
  | nil => exact absurd hk Nat.toDigits_ne_nil
  | cons d ds =>
    have hvalue : digitsValue (d :: ds) = k := by
      rw [← hk, digitsValue_digits hdigits, Nat.ofDigitChars_ten_toDigits]
    simp only [hvalue]

/-- A numeral is read as its integer. -/
theorem readInt?_toString (n : ℤ) : readInt? (toString n).toList = some n := by
  rw [toList_toString]
  split
  next hn =>
    rw [readInt?_digits (splitSign_digits fun _ => isDigit_of_mem_toDigits),
      if_neg Bool.false_ne_true, Int.toNat_of_nonneg hn]
  next hn =>
    have hsign : splitSign ('-' :: Nat.toDigits 10 (-n).toNat) =
        (true, Nat.toDigits 10 (-n).toNat) := rfl
    rw [readInt?_digits hsign, if_pos rfl, Int.toNat_of_nonneg (by omega), neg_neg]

theorem readInt64?_toString (n : Int64) : readInt64? (toString n.toInt).toList = some n := by
  rw [readInt64?, readInt?_toString]
  dsimp only
  rw [if_pos ⟨n.minValue_le_toInt, n.toInt_le⟩, Int64.ofInt_toInt]

end Number

namespace Text

/-- Blanks around a text without blanks are trimmed off. -/
theorem trim_padded {before s after : List Char} (hbefore : ∀ c ∈ before, isBlank c = true)
    (hafter : ∀ c ∈ after, isBlank c = true) (hs : ∀ c ∈ s, isBlank c = false) (hne : s ≠ []) :
    trim (before ++ s ++ after) = s := by
  have hkeep {t rest : List Char} (ht : ∀ c ∈ t, isBlank c = false) (hne : t ≠ []) :
      (t ++ rest).dropWhile isBlank = t ++ rest := by
    obtain ⟨c, t, rfl⟩ := List.exists_cons_of_ne_nil hne
    rw [List.cons_append, List.dropWhile_cons, ht c List.mem_cons_self, if_neg Bool.false_ne_true]
  have hrev : (s ++ after).reverse.dropWhile isBlank = s.reverse := by
    rw [List.reverse_append,
      List.dropWhile_append_of_pos fun c hc => hafter c (List.mem_reverse.mp hc)]
    have hnone : (s.reverse ++ []).dropWhile isBlank = s.reverse ++ [] :=
      hkeep (fun c hc => hs c (List.mem_reverse.mp hc)) (mt List.reverse_eq_nil_iff.mp hne)
    rwa [List.append_nil] at hnone
  rw [trim, List.append_assoc, List.dropWhile_append_of_pos hbefore, hkeep hs hne, hrev,
    List.reverse_reverse]

theorem isBlank_digit {c : Char} (h : c.isDigit = true) : isBlank c = false := by
  have hrange : 48 ≤ c.toNat ∧ c.toNat ≤ 57 := Char.isDigit_iff_toNat.mp h
  simp only [isBlank, Bool.or_eq_false_iff, Bool.and_eq_false_iff, decide_eq_false_iff_not,
    beq_eq_false_iff_ne]
  omega

/-- A numeral has no blanks. -/
theorem not_isBlank_numeral {n : ℤ} {c : Char} (h : c ∈ (toString n).toList) : isBlank c = false := by
  rw [Number.toList_toString] at h
  split at h
  · exact isBlank_digit (Number.isDigit_of_mem_toDigits h)
  · rcases List.mem_cons.mp h with rfl | h
    · rfl
    · exact isBlank_digit (Number.isDigit_of_mem_toDigits h)

end Text

namespace ScriptValue

variable {v w : ScriptValue} {kind : Primitive}

/-- Values of one number are unboxed alike to a type of numbers, or refused alike. -/
theorem unbox_of_numeric (hkind : kind.isIntegral = true ∨ kind.isFloating = true)
    (hv : v.isNullish = false) (hw : w.isNullish = false) (h : v.numeric kind = w.numeric kind) :
    v.unbox (.primitive kind) = w.unbox (.primitive kind) := by
  have hvoid : kind ≠ .void := by
    rintro rfl
    rcases hkind with h | h <;> cases h
  have hpresent : v.unboxPresent kind = w.unboxPresent kind := by
    cases kind with
    | byte | short | int | long => simp only [unboxPresent, toInteger, h]
    | float | double => simp only [unboxPresent, h]
    | void | bool | char => rcases hkind with h | h <;> cases h
  rw [unbox_primitive, unbox_primitive, unboxPrimitive, unboxPrimitive, if_neg hvoid, if_neg hvoid,
    hv, hw, hpresent]

/-- The numeral of an integer, with blanks around it, stands for the integer. -/
theorem numeric_padded {before after : List Char} (hbefore : ∀ c ∈ before, Text.isBlank c = true)
    (hafter : ∀ c ∈ after, Text.isBlank c = true) (n : Int64) :
    (string (String.ofList (before ++ (toString n.toInt).toList ++ after))).numeric kind =
      .ok (.int n) := by
  have hne : (toString n.toInt).toList ≠ [] := by
    intro hnil
    have hread := Number.readInt?_toString n.toInt
    rw [hnil] at hread
    cases hread
  rw [numeric, String.toList_ofList,
    Text.trim_padded hbefore hafter (fun _ => Text.not_isBlank_numeral) hne]
  simp only [Number.readInt64?_toString]

end ScriptValue

/-- An integer is unboxed to a text. That text, with any blanks around it, is unboxed to each type of
numbers as the integer itself is, or refused with the same error. -/
theorem numerals_unbox_as_integers (n : Int64) : ∃ s : String,
    (ScriptValue.int n).unbox .string = .ok (.string s) ∧
    ∀ (before after : List Char) (kind : Primitive), (∀ c ∈ before, Text.isBlank c = true) →
      (∀ c ∈ after, Text.isBlank c = true) → kind.isIntegral = true ∨ kind.isFloating = true →
      (ScriptValue.string (String.ofList (before ++ s.toList ++ after))).unbox (.primitive kind) =
        (ScriptValue.int n).unbox (.primitive kind) := by
  refine ⟨toString n.toInt, ?_, fun before after kind hbefore hafter hkind => ?_⟩
  · rfl
  · refine ScriptValue.unbox_of_numeric hkind rfl rfl ?_
    rw [ScriptValue.numeric_padded hbefore hafter, ScriptValue.numeric]

/-- The least integer of 64 bits among blanks of several kinds. -/
theorem least_integer_padded :
    (ScriptValue.string "\t\u3000-9223372036854775808\n").unbox (.primitive .long) =
      .ok (.long .minValue) ∧
    (ScriptValue.string "\t\u3000-9223372036854775808\n").unbox (.primitive .int) =
      .error (.outOfRange "-9223372036854775808" .int) := by
  obtain ⟨s, hs, hpadded⟩ := numerals_unbox_as_integers .minValue
  have hprinted : (ScriptValue.int .minValue).unbox .string =
      .ok (.string "-9223372036854775808") := rfl
  obtain rfl := HostValue.string.inj (Except.ok.inj (hprinted.symm.trans hs))
  have hbefore : ∀ c ∈ ['\t', '\u3000'], Text.isBlank c = true :=
    List.forall_mem_cons.mpr ⟨rfl, List.forall_mem_singleton.mpr rfl⟩
  have hafter : ∀ c ∈ ['\n'], Text.isBlank c = true := List.forall_mem_singleton.mpr rfl
  have hlong := hpadded _ _ .long hbefore hafter (.inl rfl)
  have hint := hpadded _ _ .int hbefore hafter (.inl rfl)
  exact ⟨hlong.trans rfl, hint.trans rfl⟩

end ScriptClass
