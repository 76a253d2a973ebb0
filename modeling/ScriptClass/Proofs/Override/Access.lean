import ScriptClass.Proofs.Generation.Object
import ScriptClass.Proofs.HostType.Closure
import ScriptClass.Proofs.Override.Owner

/-!
# Where an override can be seen

An override takes its visibility from one declaration, the first of its slot: it is protected where
that is protected, and public otherwise. So it can be seen from wherever a declaration of its
signature can, unless the first is protected and that one is public
(`overrides_keep_access_unless`). A protected method of the base class hides a public one of an
interface in this way (`protected_override_of_public_method`).
-/

namespace ScriptClass

/-- From where a member that is not private can be seen. -/
inductive Access where
  /-- From its package. -/
  | package
  /-- From subtypes too. -/
  | subtypes
  | everywhere
  deriving DecidableEq, Repr

namespace Access

def rank : Access → Nat
  | package => 0
  | subtypes => 1
  | everywhere => 2

instance : LE Access := ⟨fun a b => a.rank ≤ b.rank⟩

instance (a b : Access) : Decidable (a ≤ b) := inferInstanceAs (Decidable (a.rank ≤ b.rank))

theorem le_everywhere (a : Access) : a ≤ everywhere := by
  cases a <;> decide

theorem le_subtypes_iff {a : Access} : a ≤ subtypes ↔ a ≠ everywhere := by
  cases a <;> decide

end Access

def Modifiers.access (m : Modifiers) : Access :=
  if m.isPublic then .everywhere else if m.isProtected then .subtypes else .package

theorem Modifiers.access_eq_everywhere {m : Modifiers} :
    m.access = .everywhere ↔ m.isPublic = true := by
  unfold access
  cases m.isPublic <;> cases m.isProtected <;> decide

/-- A method of this signature that can be overridden, declared by a type that a class of this base
and these interfaces inherits from. -/
def HostType.Offers (base : HostType) (interfaces : List HostType) (s : Signature) (d : Method) :
    Prop :=
  ∃ t ∈ base.closure interfaces, d ∈ t.methods ∧ d.signature = s ∧ d.modifiers.isOverridable = true

theorem Binding.access_method (b : Binding) : b.method.modifiers.access =
    if b.candidate.modifiers.isProtected then .subtypes else .everywhere := by
  unfold Binding.method OverridePlan.ofBound
  dsimp only
  split <;> rfl

namespace Overrides

variable {base : HostType} {interfaces : List HostType} {ms : CollectedFacet} {b : Binding}

/-- What is overridden is the first declaration of the slot. -/
theorem owner?_of_bound (h : b ∈ (ofMembers base interfaces ms).bound) : ∃ owner first,
    Candidate.owner? base interfaces b.candidate.signature.slot = some (owner, first) ∧
      first.modifiers.isOverridable = true ∧ b.candidate = .ofMethod owner first := by
  obtain ⟨owner, first, hfirst, ho, heq⟩ := Candidate.mem_all.mp (mem_bound.mp h).1
  refine ⟨owner, first, ?_, ho, heq⟩
  rw [heq]
  exact hfirst

end Overrides

/-- An override of a generated class overrides the first declaration of its slot. It can be seen at
least from wherever another declaration of its signature can, unless the first is protected and that
one is public. -/
theorem overrides_keep_access_unless (name : String) (base : HostType) (interfaces : List HostType)
    (ms : CollectedFacet) (id : Nat) (w : WrapperRef) :
    ∀ m ∈ ((ClassPlan.ofOverrides name base interfaces
        (.ofMembers base interfaces ms)).toHostType id w).methods,
      ∃ owner first, Candidate.owner? base interfaces m.signature.slot = some (owner, first) ∧
        first.signature = m.signature ∧ first.modifiers.isOverridable = true ∧
        ∀ d, base.Offers interfaces m.signature d →
          (d.modifiers.access ≤ m.modifiers.access ↔
            ¬(first.modifiers.isProtected = true ∧ d.modifiers.isPublic = true)) := by
  intro m hm
  rw [HostType.methods_generated] at hm
  obtain ⟨b, hb, rfl⟩ := List.mem_map.mp hm
  obtain ⟨owner, first, hfirst, ho, heq⟩ := Overrides.owner?_of_bound hb
  have hsignature : first.signature = b.candidate.signature := by rw [heq]; rfl
  have hprotected : b.candidate.modifiers.isProtected = first.modifiers.isProtected := by
    rw [heq]
    rfl
  refine ⟨owner, first, hfirst, hsignature, ho, fun d _ => ?_⟩
  rw [b.access_method, hprotected]
  cases first.modifiers.isProtected with
  | false => exact iff_of_true (Access.le_everywhere _) fun h => absurd h.1 Bool.false_ne_true
  | true =>
    rw [if_pos rfl, Access.le_subtypes_iff, Ne, Modifiers.access_eq_everywhere, and_iff_right rfl]

namespace Sample

def paint : Signature := ⟨"paint", [], .primitive .void⟩

/-- A host class that paints for its subclasses. -/
def panel : HostType :=
  .mk { id := 10, name := "app/Panel", modifiers := .onlyPublic,
        methods := [(Method.native paint 0).asProtected] } none []

/-- An interface that paints for everyone. -/
def paintable : HostType :=
  .mk { id := 2, name := "app/Paintable", modifiers := .ofInterface, methods := [.abstract paint] }
    none []

def canvas : ClassRequest where
  base := some panel
  interfaces := [paintable]
  instances := some [("paint", .function ⟨0, none, none⟩)]
  name := some "Canvas"

/-- The members of `canvas`. -/
def canvasMembers : CollectedFacet :=
  ⟨.instances, [], [⟨"paint", ⟨"paint", none⟩, ⟨2⟩, ⟨0, none, none⟩⟩], none⟩

theorem panel_offers : panel.Offers [paintable] paint (Method.native paint 0).asProtected :=
  ⟨panel, List.mem_append_left _ List.mem_cons_self, List.mem_cons_self, rfl, rfl⟩

theorem paintable_offers : panel.Offers [paintable] paint (.abstract paint) :=
  ⟨paintable, List.mem_append_right _ (HostType.mem_expansion_self List.mem_cons_self),
    List.mem_cons_self, rfl, rfl⟩

end Sample

open Sample in
/-- The override is seen from wherever the method of the base is, but not from wherever that of the
interface is. -/
theorem canvas_keeps_access_of_panel : ∃ m ∈ ((ClassPlan.ofOverrides "Canvas" panel [paintable]
      (.ofMembers panel [paintable] canvasMembers)).toHostType 3 ⟨0, "", ""⟩).methods,
    (Method.native paint 0).asProtected.modifiers.access ≤ m.modifiers.access ∧
      ¬(Method.abstract paint).modifiers.access ≤ m.modifiers.access := by
  have hdeclared : ((ClassPlan.ofOverrides "Canvas" panel [paintable]
      (.ofMembers panel [paintable] canvasMembers)).toHostType 3 ⟨0, "", ""⟩).methods.any
        (fun m => m.signature = paint) = true := by decide +kernel
  have howner : (Candidate.owner? panel [paintable] paint.slot).any
      (fun d => d.2.modifiers.isProtected) = true := by decide +kernel
  obtain ⟨m, hm, hpaint⟩ := List.any_eq_true.mp hdeclared
  obtain ⟨owner, first, hfirst, -, -, hkeeps⟩ :=
    overrides_keep_access_unless "Canvas" panel [paintable] canvasMembers 3 ⟨0, "", ""⟩ m hm
  rw [of_decide_eq_true hpaint] at hfirst hkeeps
  rw [hfirst] at howner
  refine ⟨m, hm, (hkeeps _ panel_offers).mpr ?_, mt (hkeeps _ paintable_offers).mp ?_⟩
  · exact fun h => absurd h.2 Bool.false_ne_true
  · exact not_not_intro ⟨howner, rfl⟩

set_option maxRecDepth 10000 in
open Sample in
/-- A class of a protected method and of an interface with the same method overrides both by a
protected one. -/
theorem protected_override_of_public_method : ∃ f s,
    (speaking []).generate {} canvas = (.ok f, s) ∧ ∃ m ∈ f.backing.methods, m.signature = paint ∧
      panel.Offers [paintable] paint (.abstract paint) ∧
      ¬(Method.abstract paint).modifiers.access ≤ m.modifiers.access := by
  have h : ((speaking []).generate {} canvas).1.toOption.any (fun f =>
      f.backing.methods.any fun m => m.signature = paint ∧
        ¬(Method.abstract paint).modifiers.access ≤ m.modifiers.access) = true := by
    decide +kernel
  obtain ⟨f, hf, h⟩ := (Option.any_eq_true _ _).mp h
  obtain ⟨m, hm, h⟩ := List.any_eq_true.mp h
  obtain ⟨hpaint, hnarrowed⟩ := of_decide_eq_true h
  obtain ⟨f', s, hgen⟩ := granted (s := speaking []) (r := canvas) (by rw [hf]; rfl)
  rw [hgen] at hf
  obtain rfl : f' = f := Option.some.inj hf
  exact ⟨f', s, hgen, m, hm, hpaint, paintable_offers, hnarrowed⟩

end ScriptClass
