import ScriptClass.Hash.TypeHash

/-!
# Signatures that differ in one place

A parameter is folded in by multiplying what was folded before by an odd constant and adding the
parameter under its marker. Both can be undone (`mul_separator_inj`), so that no later parameter
brings two hashes together again (`foldParameters_inj`). Hence signatures that differ in the digest
of their names, or in one parameter alone, never hash alike
(`single_differences_change_the_hash`): the markers and the digest may be any at all.
-/

namespace ScriptClass

namespace TypeHash

variable {place i : Nat} {a b : UInt64} {p q : TypeHash} {ps qs : List TypeHash}

/-- What the separator is undone by. -/
def separatorInverse : UInt64 := 0xd3f20f0a40208825

theorem separator_mul_inverse : separator * separatorInverse = 1 := by decide

theorem mul_separator_inj : a * separator = b * separator ↔ a = b := by
  refine ⟨fun h => ?_, fun h => by rw [h]⟩
  calc a = a * separator * separatorInverse := by
        rw [UInt64.mul_assoc, separator_mul_inverse, UInt64.mul_one]
    _ = b * separator * separatorInverse := by rw [h]
    _ = b := by rw [UInt64.mul_assoc, separator_mul_inverse, UInt64.mul_one]

/-- Parameters that are folded in later do not bring two hashes together. -/
theorem foldParameters_inj : foldParameters place a ps = foldParameters place b ps ↔ a = b := by
  induction ps generalizing place a b with
  | nil => rfl
  | cons p ps ih =>
    rw [foldParameters, foldParameters, ih, UInt64.add_left_inj, mul_separator_inj]

/-- Nothing of a parameter is lost when it is folded in. -/
theorem foldParameters_cons_inj :
    foldParameters place a (p :: ps) = foldParameters place a (q :: ps) ↔ p = q := by
  rw [foldParameters, foldParameters, foldParameters_inj, UInt64.add_right_inj,
    UInt64.xor_right_inj]
  exact ⟨fun h => congrArg TypeHash.mk h, congrArg TypeHash.value⟩

/-- Parameters that differ in one place alone are told apart, wherever that place is. -/
theorem foldParameters_ne (hlength : ps.length = qs.length) (hdiffer : ps[i]? ≠ qs[i]?)
    (hothers : ∀ j, j ≠ i → ps[j]? = qs[j]?) :
    foldParameters place a ps ≠ foldParameters place a qs := by
  induction ps generalizing place a i qs with
  | nil =>
    rw [List.eq_nil_of_length_eq_zero hlength.symm] at hdiffer
    exact absurd rfl hdiffer
  | cons p ps ih =>
    cases qs with
    | nil => cases hlength
    | cons q qs =>
      cases i with
      | zero =>
        obtain rfl : ps = qs := List.ext_getElem? fun j => hothers (j + 1) (Nat.succ_ne_zero j)
        exact mt foldParameters_cons_inj.mp fun h => hdiffer (congrArg some h)
      | succ i =>
        obtain rfl : p = q := Option.some.inj (hothers 0 (Nat.succ_ne_zero i).symm)
        exact ih (Nat.succ.inj hlength) hdiffer fun j hj => hothers (j + 1) (mt Nat.succ.inj hj)

/-- A signature changes its hash with every single one of its parameters, and with the digest of
its name. -/
theorem single_differences_change_the_hash (digest : String → UInt64) :
    (∀ (name : String) (ps qs : List TypeHash) (i : Nat), ps.length = qs.length →
      ps[i]? ≠ qs[i]? → (∀ j, j ≠ i → ps[j]? = qs[j]?) →
        ofSignatureWith digest name ps ≠ ofSignatureWith digest name qs) ∧
    ∀ (name other : String) (params : List TypeHash), digest name ≠ digest other →
      ofSignatureWith digest name params ≠ ofSignatureWith digest other params := by
  refine ⟨fun name ps qs i hlength hdiffer hothers h => ?_, fun name other params hne h => hne ?_⟩
  · exact foldParameters_ne hlength hdiffer hothers (congrArg value h)
  · have hseed := foldParameters_inj.mp (congrArg value h)
    exact (UInt64.xor_right_inj _).mp hseed

end TypeHash

namespace Sample

/-- Twenty parameters of one type. -/
def wideParameters : List TypeHash := List.replicate 20 (.ofName "I")

end Sample

open Sample in
/-- The eighteenth parameter is one beyond those with a marker of their own. -/
theorem wide_signatures_differ :
    TypeHash.ofName "I" ≠ TypeHash.ofName "J" ∧
      TypeHash.ofSignature "wide" wideParameters ≠
        TypeHash.ofSignature "wide" (wideParameters.set 17 (.ofName "J")) ∧
      Hash.XXH64.ofString "wide" ≠ Hash.XXH64.ofString "high" ∧
      TypeHash.ofSignature "wide" wideParameters ≠ TypeHash.ofSignature "high" wideParameters := by
  obtain ⟨hparameter, hname⟩ := TypeHash.single_differences_change_the_hash Hash.XXH64.ofString
  have htypes : TypeHash.ofName "I" ≠ TypeHash.ofName "J" := by decide +kernel
  have hnames : Hash.XXH64.ofString "wide" ≠ Hash.XXH64.ofString "high" := by decide +kernel
  refine ⟨htypes, hparameter "wide" _ _ 17 ?_ ?_ ?_, hnames, hname "wide" "high" _ hnames⟩
  · exact List.length_set.symm
  · rw [List.getElem?_set_self (by decide)]
    exact fun h => htypes (Option.some.inj h)
  · exact fun j hj => (List.getElem?_set_ne hj.symm).symm

end ScriptClass
