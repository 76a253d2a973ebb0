import ScriptClass.Generation.ClassPlan
import ScriptClass.Proofs.HostType.Lookup
import ScriptClass.Proofs.Override.Binding

/-!
# Lookup on a generated class

The host side of a generated class declares one method for each bound override
and no other, none of them static. A virtual lookup therefore reaches the
forwarding method of a signature that is bound, and what the class inherits of
any other (`HostType.virtual?_generated`).
-/

namespace ScriptClass

/-- The forwarding method of a bound override. -/
def Binding.method (b : Binding) : Method :=
  ⟨b.candidate.signature, (OverridePlan.ofBound b).modifiers, .forward b.id b.key⟩

theorem Binding.method_isStatic (b : Binding) : b.method.isStatic = false := by
  unfold Binding.method OverridePlan.ofBound Method.isStatic
  dsimp only
  split <;> rfl

namespace HostType

variable {name : String} {base : HostType} {interfaces : List HostType} {r : Overrides} {id : Nat}
  {w : WrapperRef}

theorem chain_generated : ((ClassPlan.ofOverrides name base interfaces r).toHostType id w).chain =
    (ClassPlan.ofOverrides name base interfaces r).toHostType id w :: base.chain := rfl

theorem methods_generated : ((ClassPlan.ofOverrides name base interfaces r).toHostType id w).methods =
    r.bound.map Binding.method := by
  show (r.bound.map OverridePlan.ofBound).map _ = _
  rw [List.map_map]
  rfl

theorem declared?_generated (s : Signature) :
    ((ClassPlan.ofOverrides name base interfaces r).toHostType id w).declared? s =
      (r.binding? s).map Binding.method := by
  rw [declared?, methods_generated, List.find?_map]
  rfl

theorem declaredVirtual?_generated (s : Signature) :
    ((ClassPlan.ofOverrides name base interfaces r).toHostType id w).declaredVirtual? s =
      (r.binding? s).map Binding.method := by
  rw [declaredVirtual?, declared?_generated]
  cases r.binding? s with
  | none => rfl
  | some b => simp only [Option.map_some, Option.filter_some, b.method_isStatic, Bool.not_false, if_true]

/-- A bound signature leads to its forwarding method, any other to what is inherited. -/
theorem virtual?_generated (s : Signature) :
    ((ClassPlan.ofOverrides name base interfaces r).toHostType id w).virtual? s =
      match r.binding? s with
      | some b => some ((ClassPlan.ofOverrides name base interfaces r).toHostType id w, b.method)
      | none => base.inherited? interfaces s := by
  rw [virtual?, virtualInChain?, chain_generated, List.findSome?_cons, declaredVirtual?_generated]
  cases r.binding? s with
  | none => rfl
  | some b => rfl

end HostType

end ScriptClass
