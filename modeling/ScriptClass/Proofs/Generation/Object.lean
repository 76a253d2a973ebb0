import ScriptClass.Proofs.Run.Dispatch
import ScriptClass.Proofs.Run.History

/-!
# Objects of generated classes

An object that is made of a class belongs to it for ever
(`Generated.isOf_of_construct`): it has the class's host side for its type and
refers to the class's wrapper.
-/

namespace ScriptClass

/-- The object belongs to the class of a static facet. -/
def Pair.IsOf (p : Pair) (f : StaticFacet) : Prop := p.type = f.backing ∧ p.wrapper = f.wrapper

namespace Generated

variable {base : HostType} {interfaces : List HostType} {instances : Option Entries} {ms : Members}
  {l : LoadedClass} {s : Store}

/-- An object that is made in a store with the class belongs to it. -/
theorem isOf_of_construct (h : Generated base interfaces instances ms l s) {fuel context : Nat}
    {args : List ScriptValue} {s' : Store} {p : Pair}
    (hp : (Run.construct fuel context l.wrapper args).run s = (.ok p, s')) :
    p.type = l.backing ∧ p.wrapper = l.wrapper := by
  obtain ⟨hwrapper, c, hc, hbacking⟩ := Run.construct_ok hp
  obtain ⟨c', hc', -, hside⟩ := h.wrapper
  rw [hc] at hc'
  cases hc'
  refine ⟨?_, hwrapper⟩
  rcases hside with hside | hside
  · exact Option.some.inj (hbacking.symm.trans hside)
  · rw [hbacking] at hside
    cases hside

end Generated

/-! ## From request to object -/

namespace Sample

/-- Functions that give these texts, and a context in which nothing runs yet. -/
def speaking (texts : List String) : Store :=
  { Store.initial with
    declarations := 3
    functions := (texts.map fun text => .expression (.const (.string text))).toArray
    contexts := { all := #[{ maxDepth := 256, nesting := 1 }], active := some 0 } }

/-- The static facet of a requested class, an object of it, and the store with both. -/
def object (s : Store) (r : ClassRequest) : Option (StaticFacet × Pair × Store) :=
  match s.generate {} r with
  | (.error _, _) => none
  | (.ok f, s) =>
    match (Run.construct 3 0 f.wrapper []).run s with
    | (.error _, _) => none
    | (.ok p, s) => some (f, p, s)

theorem granted {s : Store} {r : ClassRequest}
    (h : (s.generate {} r).1.toOption.isSome = true) : ∃ f t, s.generate {} r = (.ok f, t) := by
  rcases hgen : s.generate {} r with ⟨e | f, t⟩
  · rw [hgen] at h
    cases h
  · exact ⟨f, t, rfl⟩

theorem object_some {s t : Store} {r : ClassRequest} {f : StaticFacet} {p : Pair}
    (h : object s r = some (f, p, t)) : ∃ s₁, s.generate {} r = (.ok f, s₁) ∧
      (Run.construct 3 0 f.wrapper []).run s₁ = (.ok p, t) ∧ s₁.Later t := by
  unfold object at h
  split at h
  · cases h
  next s₁ hgen =>
    split at h
    · cases h
    next hp =>
      cases h
      have hlater := Run.later_construct 3 0 f.wrapper [] s₁
      rw [hp] at hlater
      exact ⟨s₁, hgen, hp, hlater⟩

end Sample

end ScriptClass
