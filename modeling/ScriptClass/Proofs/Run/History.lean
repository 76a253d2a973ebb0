import ScriptClass.Proofs.Run.Rules
import ScriptClass.Proofs.Store.History

/-!
# Runs and histories

The stores later than one store make up a regime (`Regime.later`), in which everything may be
used. So whatever a run does, it leaves a later store (`Keeps.later`): code stays code, and a
wrapper class keeps its plan.
-/

namespace ScriptClass

/-- The stores later than this one. -/
def Regime.later (s₀ : Store) : Regime where
  Fit s L := s₀.Later s ∧ L = Set.univ
  Home _ _ := True
  Fails _ := True
  closed hs _ _ := by
    rw [hs.2]
    trivial
  home_mono _ _ := trivial
  home_type _ _ _ := trivial
  home_pair _ _ := trivial
  home_facet _ _ := trivial
  home_wrapper hs _ := by
    rw [hs.2]
    trivial
  handed hs _ _ _ := by
    rw [hs.2]
    trivial
  ordinary _ := trivial
  missing _ _ _ := trivial
  unbacked _ _ _ _ := trivial
  function {s L code} name arity hs _ := by
    refine ⟨L, fun _ => id, ⟨hs.1.tail (.function s code name arity), hs.2⟩, ?_⟩
    rw [hs.2]
    trivial
  plain {s L} t counter hs := ⟨hs.1.tail (.plain s t counter), hs.2⟩
  make {s s' L c args p} hs _ _ h := by
    have hstep := Store.Step.pair s p.type p.wrapper ⟨p.type.startCounter, c.plan.prototype⟩
    rw [h.new] at hstep
    refine ⟨L, fun _ => id, ⟨hs.1.tail hstep, hs.2⟩, ?_⟩
    rw [hs.2]
    trivial
  hand {s L w c t} hs _ _ _ := by
    refine ⟨L, fun _ => id, ?_, (hs.1.tail (.facet s t w)).tail (.handOut _ w _), hs.2⟩
    rw [hs.2]
    trivial
  put hs _ _ h := ⟨hs.1.tail (.put h), hs.2⟩
  counter {s L} v o hs := ⟨hs.1.tail (.counter s v o), hs.2⟩
  count {s L} name hs := ⟨hs.1.tail (.count s name), hs.2⟩
  contexts {s L} contexts hs := ⟨hs.1.tail (.contexts s contexts), hs.2⟩
  roots {s L} roots hs := ⟨hs.1.tail (.roots s roots), hs.2⟩

namespace Run

/-- A run that keeps later stores leaves one. -/
theorem Keeps.later {α : Type} {x : Run α} {P : Set Holding → α → Prop} {s : Store}
    (h : Keeps (.later s) Set.univ x P) : s.Later (x.run s).2 := by
  obtain ⟨L, -, hlater, -⟩ := h s ⟨.refl, rfl⟩
  exact hlater.1

theorem later_construct (fuel context : Nat) (w : WrapperRef) (args : List ScriptValue)
    (s : Store) : s.Later ((construct fuel context w args).run s).2 :=
  ((keeps (.later s) fuel).construct context trivial fun _ _ => trivial).later

end Run

end ScriptClass
