import ScriptClass.Proofs.Override.Binding
import ScriptClass.Proofs.HostType.Preorder
import Mathlib.Data.List.Nodup
import Mathlib.Data.List.Perm.Basic

/-!
# Who owns a slot

A class is abstract if the first declaration of some slot is left open: it can be overridden,
has no implementation, and nothing is bound to it (`Overrides.isAbstract_iff`). The first
declaration is that of a class, or else that of the first interface which has one, be it its
own or one from above it (`Candidate.owner?_eq`).

So the order of the requested interfaces matters for a slot if no class declares it and two of
them disagree on whether it is left open (`Contested`). For any other slot it does not
(`Overrides.leavesOpen_perm`), and for such a slot it does
(`Overrides.leavesOpen_of_contested`).
-/

namespace ScriptClass

/-- The method of a slot that a type itself declares first. -/
def HostType.firstOf (slot : TypeHash) (t : HostType) : Option (HostType × Method) :=
  (t.methods.find? (·.signature.slot == slot)).map fun m => (t, m)

/-- The declaration of a slot that an interface comes with: its own or the first above it. -/
def HostType.offered (classes : List HostType) (slot : TypeHash) (i : HostType) :
    Option (HostType × Method) := (preorder classes i).findSome? (firstOf slot)

/-- The declaration can be overridden, has no implementation, and nothing is bound to it. -/
def CollectedFacet.LeftOpen (ms : CollectedFacet) (d : HostType × Method) : Prop :=
  d.2.modifiers.isOverridable = true ∧ (Candidate.ofMethod d.1 d.2).isAbstract = true ∧
    ms.bind? (.ofMethod d.1 d.2) = none

/-- No class declares the slot, and two of the interfaces come with declarations of it of which
one is left open and the other is not. -/
def CollectedFacet.Contested (ms : CollectedFacet) (base : HostType) (interfaces : List HostType)
    (slot : TypeHash) : Prop :=
  base.classes.findSome? (HostType.firstOf slot) = none ∧
    ∃ i ∈ interfaces, ∃ j ∈ interfaces, ∃ d e, i.offered base.classes slot = some d ∧
      j.offered base.classes slot = some e ∧ ms.LeftOpen d ∧ ¬ms.LeftOpen e

/-- Names tell the types apart that a class of this base and these interfaces inherits from. -/
def HostType.NamesTellApart (base : HostType) (interfaces : List HostType) : Prop :=
  Apart (preorders base.classes (base.declaredInterfaces interfaces))

/-- Types whose names differ are told apart. -/
theorem HostType.apart_of_nodup {ts : List HostType} (h : (ts.map hash).Nodup) : Apart ts :=
  fun _ ht _ hu hhash => List.inj_on_of_nodup_map h ht hu hhash

theorem HostType.mem_of_offered {classes : List HostType} {slot : TypeHash} {i : HostType}
    {d : HostType × Method} (h : i.offered classes slot = some d) :
    d.1 ∈ preorder classes i ∧ d.2 ∈ d.1.methods := by
  obtain ⟨t, ht, hfirst⟩ := List.exists_of_findSome?_eq_some h
  obtain ⟨m, hm, rfl⟩ := Option.map_eq_some_iff.mp hfirst
  exact ⟨ht, List.mem_of_find?_eq_some hm⟩

namespace Candidate

variable {base : HostType} {interfaces : List HostType} {slot : TypeHash}

/-- The first declaration of a slot. -/
def owner? (base : HostType) (interfaces : List HostType) (slot : TypeHash) :
    Option (HostType × Method) :=
  (declared base interfaces).find? (·.2.signature.slot == slot)

theorem owner?_slot {d : HostType × Method} (h : owner? base interfaces slot = some d) :
    d.2.signature.slot = slot := by
  have hslot := List.find?_some h
  exact beq_iff_eq.mp hslot

theorem owner?_eq (hapart : base.NamesTellApart interfaces) : owner? base interfaces slot =
    (base.classes.findSome? (HostType.firstOf slot)).or
      ((base.declaredInterfaces interfaces).findSome? (HostType.offered base.classes slot)) := by
  have hfirst : owner? base interfaces slot =
      (base.ancestors interfaces).findSome? (HostType.firstOf slot) := by
    rw [owner?, declared, List.find?_flatMap]
    congr 1
    funext t
    rw [List.find?_map]
    rfl
  rw [hfirst, HostType.findSome?_ancestors hapart]
  rfl

end Candidate

namespace Overrides

variable {base : HostType} {interfaces interfaces' : List HostType} {ms : CollectedFacet}
  {slot : TypeHash}

/-- The first declaration of the slot is left open. -/
def LeavesOpen (base : HostType) (interfaces : List HostType) (ms : CollectedFacet)
    (slot : TypeHash) : Prop := ∃ d, Candidate.owner? base interfaces slot = some d ∧ ms.LeftOpen d

theorem isAbstract_iff : (ofMembers base interfaces ms).isAbstract = true ↔
    ∃ slot, LeavesOpen base interfaces ms slot := by
  rw [isAbstract, Bool.not_eq_true', List.isEmpty_eq_false_iff_exists_mem]
  simp only [ofMembers, List.mem_filter, Candidate.mem_all, Bool.and_eq_true,
    Option.isNone_iff_eq_none]
  constructor
  · rintro ⟨c, ⟨t, m, hfirst, ho, rfl⟩, hnone, habstract⟩
    exact ⟨_, (t, m), hfirst, ho, habstract, hnone⟩
  · rintro ⟨slot, ⟨t, m⟩, hfirst, ho, habstract, hnone⟩
    have hslot : m.signature.slot = slot := Candidate.owner?_slot (d := (t, m)) hfirst
    subst hslot
    exact ⟨.ofMethod t m, ⟨t, m, hfirst, ho, rfl⟩, hnone, habstract⟩

/-! ## The order of the requested interfaces -/

theorem namesTellApart_perm (hperm : interfaces.Perm interfaces')
    (h : base.NamesTellApart interfaces) : base.NamesTellApart interfaces' := by
  refine HostType.Apart.subset h fun t ht => ?_
  obtain ⟨i, hi, hti⟩ := HostType.mem_preorders.mp ht
  exact HostType.mem_preorders.mpr ⟨i, (hperm.append_right _).mem_iff.mpr hi, hti⟩

theorem contested_perm (hperm : interfaces.Perm interfaces') :
    ms.Contested base interfaces slot ↔ ms.Contested base interfaces' slot := by
  simp only [CollectedFacet.Contested, hperm.mem_iff]

/-- Where no class declares the slot, the first interface decides that comes with it. -/
theorem owner?_requested (hapart : base.NamesTellApart interfaces)
    (hclasses : base.classes.findSome? (HostType.firstOf slot) = none) :
    Candidate.owner? base interfaces slot =
      (interfaces.findSome? (HostType.offered base.classes slot)).or
        ((base.chain.flatMap HostType.interfaces).findSome? (HostType.offered base.classes slot)) := by
  rw [Candidate.owner?_eq hapart, hclasses, Option.none_or, HostType.declaredInterfaces,
    List.findSome?_append]

theorem LeavesOpen.perm (hapart : base.NamesTellApart interfaces)
    (hperm : interfaces.Perm interfaces') (huncontested : ¬ms.Contested base interfaces slot)
    (h : LeavesOpen base interfaces ms slot) : LeavesOpen base interfaces' ms slot := by
  have hapart' := namesTellApart_perm hperm hapart
  obtain ⟨d, hd, hopen⟩ := h
  cases hclasses : base.classes.findSome? (HostType.firstOf slot) with
  | some e =>
    rw [Candidate.owner?_eq hapart, hclasses, Option.some_or] at hd
    exact ⟨d, by rw [Candidate.owner?_eq hapart', hclasses, Option.some_or, hd], hopen⟩
  | none =>
    rw [owner?_requested hapart hclasses] at hd
    rw [LeavesOpen, owner?_requested hapart' hclasses]
    cases hrequested : interfaces.findSome? (HostType.offered base.classes slot) with
    | none =>
      have hnone : interfaces'.findSome? (HostType.offered base.classes slot) = none :=
        List.findSome?_eq_none_iff.mpr fun i hi =>
          List.findSome?_eq_none_iff.mp hrequested i (hperm.mem_iff.mpr hi)
      rw [hrequested] at hd
      rw [hnone]
      exact ⟨d, hd, hopen⟩
    | some d' =>
      rw [hrequested, Option.some_or, Option.some_inj] at hd
      subst hd
      obtain ⟨i, hi, hid⟩ := List.exists_of_findSome?_eq_some hrequested
      cases hrequested' : interfaces'.findSome? (HostType.offered base.classes slot) with
      | none =>
        cases (List.findSome?_eq_none_iff.mp hrequested' i (hperm.mem_iff.mp hi)).symm.trans hid
      | some e =>
        obtain ⟨j, hj, hje⟩ := List.exists_of_findSome?_eq_some hrequested'
        refine ⟨e, rfl, by_contra fun hclosed => huncontested ?_⟩
        exact ⟨hclasses, i, hi, j, hperm.mem_iff.mpr hj, d', e, hid, hje, hopen, hclosed⟩

/-- A slot that is not contested is left open in every order or in none. -/
theorem leavesOpen_perm (hapart : base.NamesTellApart interfaces)
    (hperm : interfaces.Perm interfaces') (huncontested : ¬ms.Contested base interfaces slot) :
    LeavesOpen base interfaces' ms slot ↔ LeavesOpen base interfaces ms slot :=
  ⟨.perm (namesTellApart_perm hperm hapart) hperm.symm (mt (contested_perm hperm).mpr huncontested),
    .perm hapart hperm huncontested⟩

/-- An interface can be put in front, and then decides for the slots that it comes with. -/
theorem owner?_in_front (hapart : base.NamesTellApart interfaces)
    (hclasses : base.classes.findSome? (HostType.firstOf slot) = none) {i : HostType}
    (hi : i ∈ interfaces) {d : HostType × Method} (hd : i.offered base.classes slot = some d) :
    ∃ order, interfaces.Perm order ∧ Candidate.owner? base order slot = some d := by
  obtain ⟨before, after, rfl⟩ := List.append_of_mem hi
  refine ⟨i :: (before ++ after), List.perm_middle, ?_⟩
  rw [owner?_requested (namesTellApart_perm List.perm_middle hapart) hclasses,
    List.findSome?_cons, hd, Option.some_or]

/-- A contested slot is left open in one order and not in another. -/
theorem leavesOpen_of_contested (hapart : base.NamesTellApart interfaces)
    (h : ms.Contested base interfaces slot) :
    (∃ order, interfaces.Perm order ∧ LeavesOpen base order ms slot) ∧
      ∃ order, interfaces.Perm order ∧ ¬LeavesOpen base order ms slot := by
  obtain ⟨hclasses, i, hi, j, hj, d, e, hd, he, hopen, hclosed⟩ := h
  obtain ⟨order, hperm, howner⟩ := owner?_in_front hapart hclasses hi hd
  obtain ⟨order', hperm', howner'⟩ := owner?_in_front hapart hclasses hj he
  refine ⟨⟨order, hperm, d, howner, hopen⟩, order', hperm', fun ⟨d', hd', hopen'⟩ => hclosed ?_⟩
  rw [howner'] at hd'
  exact Option.some.inj hd' ▸ hopen'

end Overrides

end ScriptClass
