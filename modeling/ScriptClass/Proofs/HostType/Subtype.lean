import ScriptClass.Proofs.HostType.Lookup
import Mathlib.Logic.Relation

/-!
# Subtypes

A type is a subtype of the root class, of itself and of whatever its superclass and its
interfaces are subtypes of (`isSubtypeOf_iff_extends`), which comes to the names of all
that it inherits from, however far up (`isSubtypeOf_iff`). From there are also the methods
that a virtual lookup finds (`virtual?_inherits`).
-/

namespace ScriptClass

namespace HostType

variable {t u : HostType} {target : String}

/-- `u` is the superclass of `t` or one of its interfaces. -/
def Extends (t u : HostType) : Prop := t.superclass? = some u ∨ u ∈ t.interfaces

/-- `u` is `t`, or is reached from it through superclasses and interfaces. -/
abbrev Inherits : HostType → HostType → Prop := Relation.ReflTransGen Extends

theorem Extends.sizeOf_lt (h : t.Extends u) : sizeOf u < sizeOf t := by
  obtain ⟨own, superclass, interfaces⟩ := t
  rcases h with h | h
  · cases (show superclass = some u from h)
    simp only [mk.sizeOf_spec, Option.some.sizeOf_spec]
    omega
  · have hlt := List.sizeOf_lt_of_mem (show u ∈ interfaces from h)
    simp only [mk.sizeOf_spec]
    omega

theorem superIsSubtypeOf_iff (superclass : Option HostType) :
    superIsSubtypeOf target superclass = true ↔
      ∃ u, superclass = some u ∧ u.isSubtypeOf target = true := by
  cases superclass with
  | none => simp [superIsSubtypeOf]
  | some u => simp [superIsSubtypeOf]

theorem anyIsSubtypeOf_iff (ts : List HostType) :
    anyIsSubtypeOf target ts = true ↔ ∃ u ∈ ts, u.isSubtypeOf target = true := by
  induction ts with
  | nil => simp [anyIsSubtypeOf]
  | cons t ts ih => simp [anyIsSubtypeOf, ih]

theorem isSubtypeOf_iff_extends : t.isSubtypeOf target = true ↔
    target = objectName ∨ t.name = target ∨ ∃ u, t.Extends u ∧ u.isSubtypeOf target = true := by
  obtain ⟨own, superclass, interfaces⟩ := t
  rw [isSubtypeOf, Bool.or_eq_true, Bool.or_eq_true, Bool.or_eq_true, beq_iff_eq, beq_iff_eq,
    superIsSubtypeOf_iff, anyIsSubtypeOf_iff, or_assoc, or_assoc]
  refine or_congr_right (or_congr_right ?_)
  rw [← exists_or]
  exact exists_congr fun u => or_and_right.symm

theorem isSubtypeOf_name (t : HostType) : t.isSubtypeOf t.name = true :=
  isSubtypeOf_iff_extends.mpr (.inr (.inl rfl))

theorem isSubtypeOf_of_extends (h : t.Extends u) (hu : u.isSubtypeOf target = true) :
    t.isSubtypeOf target = true :=
  isSubtypeOf_iff_extends.mpr (.inr (.inr ⟨u, h, hu⟩))

/-- What is inherited from leaves its subtypes to its heirs. -/
theorem isSubtypeOf_of_inherits (h : t.Inherits u) (hu : u.isSubtypeOf target = true) :
    t.isSubtypeOf target = true := by
  induction h using Relation.ReflTransGen.head_induction_on with
  | refl => exact hu
  | head hstep _ ih => exact isSubtypeOf_of_extends hstep ih

theorem inherits_of_isSubtypeOf (t : HostType) (h : t.isSubtypeOf target = true) :
    target = objectName ∨ ∃ u, t.Inherits u ∧ u.name = target := by
  rcases isSubtypeOf_iff_extends.mp h with hroot | hname | ⟨u, hstep, hu⟩
  · exact .inl hroot
  · exact .inr ⟨t, .refl, hname⟩
  · have := hstep.sizeOf_lt
    rcases inherits_of_isSubtypeOf u hu with hroot | ⟨v, hv, hname⟩
    · exact .inl hroot
    · exact .inr ⟨v, .head hstep hv, hname⟩
termination_by sizeOf t

/-- Subtyping is inheritance, the root class apart. -/
theorem isSubtypeOf_iff : t.isSubtypeOf target = true ↔
    target = objectName ∨ ∃ u, t.Inherits u ∧ u.name = target := by
  refine ⟨inherits_of_isSubtypeOf t, ?_⟩
  rintro (hroot | ⟨u, hu, rfl⟩)
  · exact isSubtypeOf_iff_extends.mpr (.inl hroot)
  · exact isSubtypeOf_of_inherits hu u.isSubtypeOf_name

/-! ## Where lookups find methods -/

theorem inherits_of_mem_chain {c : HostType} (t : HostType) (h : c ∈ t.chain) : t.Inherits c := by
  match t with
  | .mk own none interfaces =>
    rw [chain, List.mem_singleton] at h
    rw [h]
  | .mk own (some superclass) interfaces =>
    rw [chain] at h
    rcases List.mem_cons.mp h with rfl | h
    · exact .refl
    · exact .head (.inl rfl) (inherits_of_mem_chain superclass h)

mutual

theorem virtualInInterface?_inherits {s : Signature} {found : Found} (t : HostType)
    (h : t.virtualInInterface? s = some found) : t.Inherits found.1 := by
  obtain ⟨own, superclass, interfaces⟩ := t
  rw [virtualInInterface?] at h
  split at h
  next m hm =>
    cases h
    exact .refl
  next =>
    obtain ⟨i, hi, hinherits⟩ := virtualInInterfaces?_inherits interfaces h
    exact .head (.inr hi) hinherits

theorem virtualInInterfaces?_inherits {s : Signature} {found : Found} (ts : List HostType)
    (h : virtualInInterfaces? s ts = some found) : ∃ t ∈ ts, t.Inherits found.1 := by
  cases ts with
  | nil =>
    rw [virtualInInterfaces?] at h
    cases h
  | cons t ts =>
    rw [virtualInInterfaces?] at h
    rcases prefer_some h with h | h
    · exact ⟨t, List.mem_cons_self, virtualInInterface?_inherits t h⟩
    · obtain ⟨u, hu, hinherits⟩ := virtualInInterfaces?_inherits ts h
      exact ⟨u, List.mem_cons_of_mem _ hu, hinherits⟩

end

/-- A virtual lookup finds a method that the type inherits from where it is declared. -/
theorem virtual?_inherits {s : Signature} {found : Found} (h : t.virtual? s = some found) :
    t.Inherits found.1 ∧ found.2 ∈ found.1.methods := by
  refine ⟨?_, List.mem_of_find?_eq_some (declaredVirtual?_some.mp (virtual?_declared h)).1⟩
  rcases Option.or_eq_some_iff.mp h with h | ⟨-, h⟩
  · obtain ⟨c, hc, hdeclared⟩ := List.exists_of_findSome?_eq_some h
    obtain ⟨m, -, rfl⟩ := Option.map_eq_some_iff.mp hdeclared
    exact inherits_of_mem_chain t hc
  · obtain ⟨i, hi, hinherits⟩ := virtualInInterfaces?_inherits _ h
    obtain ⟨c, hc, hi⟩ := List.mem_flatMap.mp hi
    exact ((inherits_of_mem_chain t hc).tail (.inr hi)).trans hinherits

end HostType

end ScriptClass
