import ScriptClass.Proofs.Generation.Object
import ScriptClass.Proofs.Generation.Success
import ScriptClass.Proofs.Override.Owner

/-!
# What the order of interfaces decides

The interfaces of a request may be given in any order: the request is granted in all of them
or in none (`generate_permuted`). Whether the class is abstract is the same in all of them as
long as no slot is contested, and a contested slot alone makes it abstract in one order and
concrete in another (`interface_order_decides_contested_slots`). A lookup on the class prefers
an implementation to an abstract declaration, in whatever order they come; the first
declaration of a slot is taken as it comes, so that a class can be abstract on account of a
method that every lookup finds implemented (`abstract_in_one_order`).
-/

namespace ScriptClass

section Requests

variable {s₀ s₁ : Store} {config : Config} {r : ClassRequest} {f : StaticFacet}
  {order : List HostType}

/-- A request is granted whatever the order of its interfaces. -/
theorem generate_permuted (h : s₀.generate config r = (.ok f, s₁))
    (hperm : r.interfaces.Perm order) :
    ∃ f' s₁', s₀.generate config { r with interfaces := order } = (.ok f', s₁') := by
  have hr := acceptable_of_generate h
  exact generate_of_acceptable
    { hr with interfaces := fun i hi => hr.interfaces i (hperm.mem_iff.mpr hi) }

/-- The order of the interfaces of a request decides nothing but what is left open of contested
slots. Whether the class is abstract is the same in every order if no slot is contested; if one
is, and no other is ever left open, then one order gives an abstract class and another one a
concrete class. -/
theorem interface_order_decides_contested_slots (hgen : s₀.generate config r = (.ok f, s₁))
    {ms : Members} (hms : Members.collect r.instances r.statics = .ok ms)
    (hapart : (r.base.getD s₀.registry.object).NamesTellApart r.interfaces) :
    (∀ order, r.interfaces.Perm order → ∃ f' s₁',
      s₀.generate config { r with interfaces := order } = (.ok f', s₁') ∧
        ((∀ slot, ¬ms.instances.Contested (r.base.getD s₀.registry.object) r.interfaces slot) →
          f'.backing.isAbstract = f.backing.isAbstract)) ∧
    ∀ slot, ms.instances.Contested (r.base.getD s₀.registry.object) r.interfaces slot →
      (∀ order, r.interfaces.Perm order → ∀ other, other ≠ slot → ¬Overrides.LeavesOpen
        (r.base.getD s₀.registry.object) order ms.instances other) →
      ∀ abstract, ∃ order f' s₁', r.interfaces.Perm order ∧
        s₀.generate config { r with interfaces := order } = (.ok f', s₁') ∧
          f'.backing.isAbstract = abstract := by
  refine ⟨fun order hperm => ?_, fun slot hcontested hothers abstract => ?_⟩
  · obtain ⟨f', s₁', hgen'⟩ := generate_permuted hgen hperm
    refine ⟨f', s₁', hgen', fun huncontested => Bool.eq_iff_iff.mpr ?_⟩
    rw [generate_isAbstract hgen hms, generate_isAbstract hgen' hms, Overrides.isAbstract_iff,
      Overrides.isAbstract_iff]
    exact exists_congr fun slot => Overrides.leavesOpen_perm hapart hperm (huncontested slot)
  · have hverdict {order : List HostType} (hperm : r.interfaces.Perm order) :
        ∃ f' s₁', s₀.generate config { r with interfaces := order } = (.ok f', s₁') ∧
          (f'.backing.isAbstract = true ↔ Overrides.LeavesOpen (r.base.getD s₀.registry.object)
            order ms.instances slot) := by
      obtain ⟨f', s₁', hgen'⟩ := generate_permuted hgen hperm
      refine ⟨f', s₁', hgen', ?_⟩
      rw [generate_isAbstract hgen' hms, Overrides.isAbstract_iff]
      refine ⟨fun ⟨other, hopen⟩ => ?_, fun hopen => ⟨slot, hopen⟩⟩
      by_contra hclosed
      exact hothers order hperm other (fun heq => hclosed (heq ▸ hopen)) hopen
    obtain ⟨⟨order, hperm, hopen⟩, order', hperm', hclosed⟩ :=
      Overrides.leavesOpen_of_contested hapart hcontested
    cases abstract with
    | true =>
      obtain ⟨f', s₁', hgen', hiff⟩ := hverdict hperm
      exact ⟨order, f', s₁', hperm, hgen', hiff.mpr hopen⟩
    | false =>
      obtain ⟨f', s₁', hgen', hiff⟩ := hverdict hperm'
      exact ⟨order', f', s₁', hperm', hgen', Bool.eq_false_iff.mpr (mt hiff.mp hclosed)⟩

end Requests

namespace Sample

def nameOf : Signature := ⟨"name", [], .string⟩

/-- An interface that asks for `name`. -/
def named : HostType :=
  .mk { id := 2, name := "app/Named", modifiers := .ofInterface, methods := [.abstract nameOf] }
    none []

/-- An interface that implements `name`. -/
def defaulted : HostType :=
  .mk { id := 3, name := "app/Defaulted", modifiers := .ofInterface,
        methods := [.native nameOf 0] } none []

/-- An interface that asks for another method. -/
def counted : HostType :=
  .mk { id := 4, name := "app/Counted", modifiers := .ofInterface,
        methods := [.abstract ⟨"count", [], .primitive .int⟩] } none []

def implementing (interfaces : List HostType) : ClassRequest where
  interfaces

def noMembers : Members := ⟨.empty .instances, .empty .statics⟩

theorem collect_implementing (interfaces : List HostType) :
    Members.collect (implementing interfaces).instances (implementing interfaces).statics =
      .ok noMembers := rfl

theorem named_counted_apart : (speaking []).registry.object.NamesTellApart [named, counted] :=
  HostType.apart_of_nodup (by decide +kernel)

/-- Nothing is bound, and all methods are left open. -/
theorem named_counted_uncontested (slot : TypeHash) :
    ¬noMembers.instances.Contested (speaking []).registry.object [named, counted] slot := by
  have habstract : (HostType.preorders (speaking []).registry.object.classes [named, counted]).all
      (fun t => t.methods.all fun m =>
        m.modifiers.isOverridable && (Candidate.ofMethod t m).isAbstract) = true := by decide +kernel
  rintro ⟨-, -, -, j, hj, -, e, -, he, -, hclosed⟩
  obtain ⟨ht, hm⟩ := HostType.mem_of_offered he
  have h := List.all_eq_true.mp (List.all_eq_true.mp habstract _
    (HostType.mem_preorders.mpr ⟨j, hj, ht⟩)) _ hm
  obtain ⟨hoverridable, habstract⟩ := Bool.and_eq_true_iff.mp h
  exact hclosed ⟨hoverridable, habstract, rfl⟩

end Sample

set_option maxRecDepth 10000 in
open Sample in
theorem named_counted_in_either_order : ∃ (f f' : StaticFacet) (s s' : Store),
    (speaking []).generate {} (implementing [named, counted]) = (.ok f, s) ∧
      (speaking []).generate {} (implementing [counted, named]) = (.ok f', s') ∧
      f'.backing.isAbstract = f.backing.isAbstract := by
  obtain ⟨f, s, hgen⟩ := granted (s := speaking []) (r := implementing [named, counted])
    (by decide +kernel)
  obtain ⟨horders, -⟩ := interface_order_decides_contested_slots hgen (collect_implementing _)
    named_counted_apart
  obtain ⟨f', s', hgen', hsame⟩ := horders [counted, named] (.swap _ _ _)
  exact ⟨f, f', s, s', hgen, hgen', hsame named_counted_uncontested⟩

set_option maxRecDepth 10000 in
open Sample in
/-- In one order the class is abstract and no object of it can be made; in the other it is
concrete. Either way `name` is found implemented. -/
theorem abstract_in_one_order :
    (((speaking []).generate {} (implementing [named, defaulted])).1.toOption.any fun f =>
      f.backing.isAbstract && (f.backing.virtual? nameOf).any fun found => !found.2.isAbstract) ∧
    object (speaking []) (implementing [named, defaulted]) = none ∧
    (((speaking []).generate {} (implementing [defaulted, named])).1.toOption.any fun f =>
      !f.backing.isAbstract && (f.backing.virtual? nameOf).any fun found => !found.2.isAbstract) ∧
    (object (speaking []) (implementing [defaulted, named])).isSome := by
  refine ⟨?_, ?_, ?_, ?_⟩
  · decide +kernel
  · rw [← Option.isNone_iff_eq_none]
    decide +kernel
  · decide +kernel
  · decide +kernel

end ScriptClass
