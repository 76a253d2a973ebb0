import ScriptClass.HostType.Lookup

/-!
# What lookups find

A virtual lookup answers with a type and the method of exactly that signature
that the type itself declares, which is not static (`virtual?_declared`). The same
holds of what a class would inherit (`inherited?`), before it declares anything
itself.
-/

namespace ScriptClass

namespace HostType

variable {t : HostType} {s : Signature} {found : Found}

theorem declared?_signature {m : Method} (h : t.declared? s = some m) : m.signature = s := by
  have hs := List.find?_some h
  exact of_decide_eq_true hs

theorem declaredVirtual?_some {m : Method} : t.declaredVirtual? s = some m ↔
    t.declared? s = some m ∧ m.isStatic = false := by
  simp only [declaredVirtual?, Option.filter_eq_some_iff, Bool.not_eq_true']

theorem prefer_some {a b : Option Found} (h : prefer a b = some found) :
    a = some found ∨ b = some found := by
  rcases a with _ | x <;> rcases b with _ | y
  · cases h
  · exact .inr h
  · exact .inl h
  · dsimp only [prefer] at h
    split at h
    · exact .inr h
    · exact .inl h

mutual

theorem virtualInInterface?_declared (t : HostType) (h : t.virtualInInterface? s = some found) :
    found.1.declaredVirtual? s = some found.2 := by
  obtain ⟨own, superclass, interfaces⟩ := t
  rw [virtualInInterface?] at h
  split at h
  next m hm =>
    cases h
    exact hm
  next => exact virtualInInterfaces?_declared interfaces h

theorem virtualInInterfaces?_declared (ts : List HostType)
    (h : virtualInInterfaces? s ts = some found) : found.1.declaredVirtual? s = some found.2 := by
  cases ts with
  | nil => rw [virtualInInterfaces?] at h; cases h
  | cons t ts =>
    rw [virtualInInterfaces?] at h
    rcases prefer_some h with h | h
    · exact virtualInInterface?_declared t h
    · exact virtualInInterfaces?_declared ts h

end

theorem virtualInChain?_declared (h : t.virtualInChain? s = some found) :
    found.1.declaredVirtual? s = some found.2 := by
  obtain ⟨c, -, hc⟩ := List.exists_of_findSome?_eq_some h
  obtain ⟨m, hm, rfl⟩ := Option.map_eq_some_iff.mp hc
  exact hm

/-- What a class of this base and these interfaces inherits for a signature. -/
def inherited? (base : HostType) (interfaces : List HostType) (s : Signature) : Option Found :=
  (base.virtualInChain? s).or
    (virtualInInterfaces? s (interfaces ++ base.chain.flatMap HostType.interfaces))

theorem inherited?_declared {base : HostType} {interfaces : List HostType}
    (h : base.inherited? interfaces s = some found) :
    found.1.declaredVirtual? s = some found.2 := by
  rcases Option.or_eq_some_iff.mp h with h | ⟨-, h⟩
  · exact virtualInChain?_declared h
  · exact virtualInInterfaces?_declared _ h

theorem virtual?_declared (h : t.virtual? s = some found) :
    found.1.declaredVirtual? s = some found.2 := by
  have hself : t.virtual? s = t.inherited? [] s := rfl
  rw [hself] at h
  exact inherited?_declared h

end HostType

end ScriptClass
