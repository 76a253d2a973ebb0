import ScriptClass.Proofs.Generation.Object
import ScriptClass.Proofs.Override.Abstract

/-!
# Calls of abstract methods

A concrete class is meant to have an implementation of everything it inherits. It has
one for the signature of every candidate; the signatures that a virtual call can
still find abstract are those whose slot another declaration has taken, or whose type
was not visited (`abstract_method_reached_iff`). One is the `area()J` of an interface
behind an `area()I` of the base class (`concrete_class_reaches_abstract_method`).
-/

namespace ScriptClass

/-- A virtual call that reaches an abstract method fails, and runs nothing. -/
theorem Run.invoke_abstract {s : Store} {sig : Signature} {args : List HostValue}
    {receiver : HostObject} {owner : HostType} {m : Method} (hfit : sig.checkFit args = .ok ())
    (hm : receiver.type.virtual? sig = some (owner, m)) (habstract : m.isAbstract = true)
    (fuel : Nat) : (invoke (fuel + 2) receiver sig args).run s =
      (.error (.failed (.abstractMethod owner.name sig.display)), s) := by
  have hbody : m.body = .abstract := by
    unfold Method.isAbstract MethodCode.isAbstract at habstract
    split at habstract
    · assumption
    · cases habstract
  have hsig : m.signature = sig :=
    HostType.declared?_signature (HostType.declaredVirtual?_some.mp (HostType.virtual?_declared hm)).1
  have hrun (t : Store) : (runMethod (fuel + 1) owner m (some receiver) args).run t =
      (.error (.failed (.abstractMethod owner.name sig.display)), t) := by
    rw [runMethod_succ, runBody, hbody, run_bind, hsig]
    rfl
  rw [invoke_run hfit hm, run_keeping, hrun, letGo_holding]

/-- A concrete class finds an abstract method for a signature exactly where it inherits
one and another declaration has taken the slot of the signature, or the type that
declares the method was not visited. A call of that signature on any object of the
class then fails. -/
theorem abstract_method_reached_iff {s₀ s₁ : Store} {config : Config} {r : ClassRequest}
    {f : StaticFacet} {ms : Members} (hgen : s₀.generate config r = (.ok f, s₁))
    (hms : Members.collect r.instances r.statics = .ok ms)
    (hconcrete : f.backing.isAbstract = false) (sig : Signature) (owner : HostType) (m : Method) :
    (f.backing.virtual? sig = some (owner, m) ∧ m.isAbstract = true ↔
      (r.base.getD s₀.registry.object).inherited? r.interfaces sig = some (owner, m) ∧
        m.isAbstract = true ∧
        (Candidate.SlotTaken (r.base.getD s₀.registry.object) r.interfaces sig ∨
          owner ∉ (r.base.getD s₀.registry.object).ancestors r.interfaces ∧
            (Overrides.ofMembers (r.base.getD s₀.registry.object) r.interfaces
              ms.instances).binding? sig = none)) ∧
    (f.backing.virtual? sig = some (owner, m) → m.isAbstract = true →
      ∀ (s : Store) (o : HostObject) (args : List HostValue) (fuel : Nat), o.type = f.backing →
        sig.checkFit args = .ok () → (Run.invoke (fuel + 2) o sig args).run s =
          (.error (.failed (.abstractMethod owner.name sig.display)), s)) := by
  obtain ⟨name, id, hbacking⟩ := generate_backing hgen hms
  generalize r.base.getD s₀.registry.object = base at hbacking ⊢
  refine ⟨?_, fun hv habstract s o args fuel ho hfit =>
    Run.invoke_abstract hfit (ho ▸ hv) habstract fuel⟩
  have hconcrete : (Overrides.ofMembers base r.interfaces ms.instances).isAbstract = false := by
    rw [hbacking] at hconcrete
    exact hconcrete
  rw [hbacking, HostType.virtual?_generated]
  constructor
  · rintro ⟨hv, habstract⟩
    cases hb : (Overrides.ofMembers base r.interfaces ms.instances).binding? sig with
    | some b =>
      -- A bound signature leads to a forwarding method.
      rw [hb] at hv
      cases hv
      cases habstract
    | none =>
      rw [hb] at hv
      refine ⟨hv, habstract, ?_⟩
      by_cases hvisited : owner ∈ base.ancestors r.interfaces
      · have hdeclared := (HostType.declaredVirtual?_some.mp (HostType.inherited?_declared hv)).1
        refine (Candidate.slotTaken_or_mem hvisited hdeclared).imp_right fun ⟨c, hc, hsig⟩ => ?_
        subst hsig
        rw [Overrides.inherited?_candidate hconcrete hc hb hv hvisited] at habstract
        cases habstract
      · exact .inr ⟨hvisited, rfl⟩
  · rintro ⟨hinherited, habstract, hwhy⟩
    have hnone : (Overrides.ofMembers base r.interfaces ms.instances).binding? sig = none := by
      rcases hwhy with htaken | ⟨-, hnone⟩
      · exact Overrides.binding?_of_slotTaken htaken
      · exact hnone
    rw [hnone]
    exact ⟨hinherited, habstract⟩

namespace Sample

/-- `area()J`. -/
def area : Signature := ⟨"area", [], .primitive .long⟩

/-- An interface whose one method is `area()J`. -/
def measured : HostType :=
  .mk { id := 2, name := "app/Shape", modifiers := .ofInterface, methods := [.abstract area] } none []

/-- A host class whose `area` gives an `int`. -/
def sized : HostType :=
  .mk { id := 10, name := "app/Base", modifiers := .onlyPublic,
        methods := [.native { area with returns := .primitive .int } 0] } none []

def square : ClassRequest where
  base := some sized
  interfaces := [measured]
  name := some "Square"

/-- The method that `sized` declares has the slot of `area`. -/
theorem area_taken : Candidate.SlotTaken sized [measured] area := by
  have h : ((Candidate.declared sized [measured]).find?
      (fun d => d.2.signature.slot == area.slot)).any (fun d => d.2.signature ≠ area) = true := by
    decide +kernel
  obtain ⟨d, hd, hne⟩ := (Option.any_eq_true _ _).mp h
  exact ⟨d, hd, .inl (of_decide_eq_true hne)⟩

end Sample

set_option maxRecDepth 10000 in
open Sample in
theorem square_reaches_area : ∃ f p s, object (speaking []) square = some (f, p, s) ∧
    (Run.invoke 2 (.pair p) area []).run s =
      (.error (.failed (.abstractMethod "app/Shape" "area()J")), s) := by
  have h : (object (speaking []) square).any (fun (f, _) => f.backing.isAbstract = false) = true := by
    decide +kernel
  obtain ⟨⟨f, p, s⟩, ho, h⟩ := (Option.any_eq_true _ _).mp h
  have hconcrete : f.backing.isAbstract = false := of_decide_eq_true h
  obtain ⟨s₁, hgen, hp, -⟩ := object_some ho
  refine ⟨f, p, s, ho, ?_⟩
  obtain ⟨ms, hms, hclass⟩ := generate_ok hgen
  cases hms
  obtain ⟨hiff, hcall⟩ :=
    abstract_method_reached_iff hgen rfl hconcrete area measured (.abstract area)
  have hreached := hiff.mpr ⟨rfl, rfl, .inl area_taken⟩
  exact hcall hreached.1 rfl s (.pair p) [] 0
    ((hclass ⟨by decide, by decide⟩).isOf_of_construct hp).1 rfl

set_option maxRecDepth 10000 in
open Sample in
/-- A concrete class reaches an abstract method. `area()I` of the base takes the slot of
`area()J`, so that the resolver never sees the abstract declaration that a call still
finds. -/
theorem concrete_class_reaches_abstract_method : ∃ f p s owner m,
    object (speaking []) square = some (f, p, s) ∧ f.backing.isAbstract = false ∧
      p.type.virtual? area = some (owner, m) ∧ m.isAbstract = true ∧
      (Run.invoke 6 (.pair p) area []).run s =
        (.error (.failed (.abstractMethod "app/Shape" "area()J")), s) := by
  have h : (object (speaking []) square).any (fun (f, p, _) => f.backing.isAbstract = false ∧
      (p.type.virtual? area).any fun (owner, m) => m.isAbstract = true ∧
        owner.name = "app/Shape") = true := by
    decide +kernel
  obtain ⟨⟨f, p, s⟩, ho, h⟩ := (Option.any_eq_true _ _).mp h
  obtain ⟨hconcrete, h⟩ := of_decide_eq_true h
  obtain ⟨⟨owner, m⟩, hv, h⟩ := (Option.any_eq_true _ _).mp h
  obtain ⟨habstract, hname⟩ := of_decide_eq_true h
  have hcall : (HostObject.pair p).type.virtual? area = some (owner, m) := hv
  refine ⟨f, p, s, owner, m, ho, hconcrete, hv, habstract, ?_⟩
  rw [← hname]
  exact Run.invoke_abstract rfl hcall habstract 4

end ScriptClass
