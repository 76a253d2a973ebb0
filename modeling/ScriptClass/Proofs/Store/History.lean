import ScriptClass.Generation.Request
import Mathlib.Logic.Relation

/-!
# Histories

`Store.Step` has one constructor for each thing that the library does to a store,
whether code runs, a user asks for it or it follows from what nothing holds any
more. `Store.Later` is any number of steps, so the store in the middle of a run is
later than the one that the run began with.

What a step keeps (`Step.extends`), a history keeps (`Later.extends`): functions
and native code stay what they are, and a wrapper class keeps its plan. Only its
host side can be cleared, when it is unloaded.
-/

namespace ScriptClass

namespace Store

/-- One change of a store. -/
inductive Step : Store → Store → Prop where
  | native (s : Store) (code : NativeCode) : Step s (s.newNative code).2
  | function (s : Store) (code : FunctionCode) (name : Option String) (arity : Option Nat) :
    Step s (s.newFunction code name arity).2
  | literal (s : Store) (entries : Entries) : Step s (s.newLiteral entries).2
  | plain (s : Store) (t : HostType) (counter : Option Int64) : Step s (s.newPlain t counter).2
  | pair (s : Store) (t : HostType) (w : WrapperRef) (state : PairState) :
    Step s (s.newPair t w state).2
  | facet (s : Store) (t : HostType) (w : WrapperRef) : Step s (s.newFacet t w).2
  | type (s : Store) (make : Nat → HostType) : Step s (s.newType make).2
  /-- A wrapper class without a host side. -/
  | wrapper (s : Store) (plan : WrapperPlan) (backingName : String) (isAbstract : Bool) :
    Step s (s.newWrapper { plan, backingName, isAbstract }).2
  | put {s s' : Store} {o : ScriptObject} {name : String} {v : ScriptValue}
    (h : s.putProperty o name v = .ok s') : Step s s'
  | counter (s : Store) (v : Int64) (o : HostObject) : Step s (s.setCounter v o)
  | count (s : Store) (name : String) : Step s (s.advance name).2
  /-- A static facet is handed out. -/
  | handOut (s : Store) (w : WrapperRef) (f : StaticFacet) :
    Step s (s.updateWrapper w fun c => { c with facet := some f })
  | bind {s s' : Store} {w : WrapperRef} {f : StaticFacet} (h : s.bindFacet w f = .ok s') :
    Step s s'
  | request (s : Store) : Step s { s with generations := s.generations + 1 }
  | load (s : Store) (config : Config) (unit : Nat) (plan : ClassPlan) (script : WrapperPlan) :
    Step s (s.load config unit plan script).2
  | register (s : Store) (t : HostType) : Step s (s.register t).2
  | registerWeakly (s : Store) (t : HostType) : Step s (s.registerWeakly t).2
  | unregister (s : Store) (name : String) : Step s (s.unregister name).2
  | purge (s : Store) : Step s s.purge.2
  | unload (s : Store) (held : List Holding.Key) : Step s (s.unload held)
  | contexts (s : Store) (contexts : Contexts) : Step s { s with contexts }
  | roots (s : Store) (roots : List Holding) : Step s { s with roots }

/-- Any number of changes. -/
abbrev Later : Store → Store → Prop := Relation.ReflTransGen Step

end Store

/-! ## What histories keep -/

/-- What a wrapper class can become: it keeps what it was made with, what was bound
stays bound, and its host side stays or is cleared. -/
structure Wrapper.Became (c c' : Wrapper) : Prop where
  plan : c'.plan = c.plan
  backingName : c'.backingName = c.backingName
  isAbstract : c'.isAbstract = c.isAbstract
  unit : c'.unit = c.unit
  isBound : c.isBound = true → c'.isBound = true
  hasBacking : c.hasBacking = true → c'.hasBacking = true
  backing : c'.backing = c.backing ∨ c'.backing = none

theorem Wrapper.Became.refl (c : Wrapper) : c.Became c := ⟨rfl, rfl, rfl, rfl, id, id, .inl rfl⟩

theorem Wrapper.Became.trans {c c' c'' : Wrapper} (h : c.Became c') (h' : c'.Became c'') :
    c.Became c'' where
  plan := h'.plan.trans h.plan
  backingName := h'.backingName.trans h.backingName
  isAbstract := h'.isAbstract.trans h.isAbstract
  unit := h'.unit.trans h.unit
  isBound := h'.isBound ∘ h.isBound
  hasBacking := h'.hasBacking ∘ h.hasBacking
  backing := by
    rcases h'.backing with e | e
    · rw [e]; exact h.backing
    · exact .inr e

namespace Store

/-- `s'` has all the code and all the wrapper classes of `s`. -/
structure Extends (s s' : Store) : Prop where
  native {id : Nat} {code : NativeCode} : s.natives[id]? = some code → s'.natives[id]? = some code
  function {id : Nat} {code : FunctionCode} :
    s.functions[id]? = some code → s'.functions[id]? = some code
  wrapper {w : WrapperRef} {c : Wrapper} :
    s.wrapper? w = some c → ∃ c', s'.wrapper? w = some c' ∧ c.Became c'

namespace Extends

theorem refl (s : Store) : s.Extends s := ⟨id, id, fun {_ c} h => ⟨c, h, .refl c⟩⟩

theorem trans {s s' s'' : Store} (h : s.Extends s') (h' : s'.Extends s'') : s.Extends s'' where
  native := h'.native ∘ h.native
  function := h'.function ∘ h.function
  wrapper hc := by
    obtain ⟨c', hc', e⟩ := h.wrapper hc
    obtain ⟨c'', hc'', e'⟩ := h'.wrapper hc'
    exact ⟨c'', hc'', e.trans e'⟩

/-- A change of other things. -/
theorem of_eq {s s' : Store} (hn : s'.natives = s.natives) (hf : s'.functions = s.functions)
    (hw : s'.wrappers = s.wrappers) : s.Extends s' where
  native h := by rw [hn]; exact h
  function h := by rw [hf]; exact h
  wrapper {w c} h := ⟨c, by rw [wrapper?, hw]; exact h, .refl c⟩

theorem getElem?_push {α : Type} {xs : Array α} {i : Nat} {a b : α} (h : xs[i]? = some a) :
    (xs.push b)[i]? = some a := by
  obtain ⟨hi, rfl⟩ := Array.getElem?_eq_some_iff.mp h
  rw [Array.getElem?_push_lt hi]

/-- At most one more wrapper class. -/
theorem of_push {s s' : Store} {c : Wrapper} (hn : s'.natives = s.natives)
    (hf : s'.functions = s.functions) (hw : s'.wrappers = s.wrappers.push c) : s.Extends s' where
  native h := by rw [hn]; exact h
  function h := by rw [hf]; exact h
  wrapper {w a} h := ⟨a, by rw [wrapper?, hw]; exact getElem?_push h, .refl a⟩

theorem updateWrapper (s : Store) (w : WrapperRef) {f : Wrapper → Wrapper}
    (hf : ∀ c : Wrapper, c.Became (f c)) : s.Extends (s.updateWrapper w f) where
  native := id
  function := id
  wrapper {v c} h := by
    simp only [wrapper?, Store.updateWrapper, Array.getElem?_modify] at h ⊢
    split
    · exact ⟨f c, by rw [h]; rfl, hf c⟩
    · exact ⟨c, h, .refl c⟩

theorem unload (s : Store) (held : List Holding.Key) : s.Extends (s.unload held) where
  native := id
  function := id
  wrapper {w c} h := by
    simp only [wrapper?] at h
    refine ⟨{ c with
      backing := c.backing.filter fun t => held.contains (.type t.id)
      facet := c.facet.filter fun f => held.contains (.facet f.id) }, ?_,
      ⟨rfl, rfl, rfl, rfl, id, id, ?_⟩⟩
    · rw [wrapper?, Store.unload, Array.getElem?_map, h]
      rfl
    · rcases c.backing with _ | t
      · exact .inl rfl
      · simp only [Option.filter_some]
        split
        · exact .inl rfl
        · exact .inr rfl

end Extends

/-! ## Loading -/

/-- What a load that succeeds leaves: one more wrapper class, of the script plan,
which leads to the host type of the class plan and has no static facet yet. -/
structure Loaded (s : Store) (plan : ClassPlan) (script : WrapperPlan) (l : LoadedClass)
    (s' : Store) : Prop where
  wrapper : l.wrapper.id = s.wrappers.size
  backing : l.backing = plan.toHostType s.declarations l.wrapper
  natives : s'.natives = s.natives
  functions : s'.functions = s.functions
  wrappers : ∃ c, s'.wrappers = s.wrappers.push c ∧ c.plan = script ∧
    c.backing = some l.backing ∧ c.isAbstract = plan.isAbstract ∧ c.isBound = false

/-- A change of the newest entry. -/
theorem modify_push {α : Type} (a : Array α) (e : α) (f : α → α) :
    (a.push e).modify a.size f = a.push (f e) := by
  refine Array.ext (by simp) fun i h₁ h₂ => ?_
  rw [Array.getElem_modify, Array.getElem_push, Array.getElem_push]
  rw [Array.size_push] at h₂
  by_cases hi : i < a.size
  · rw [if_neg (by omega), dif_pos hi, dif_pos hi]
  · rw [if_pos (by omega), dif_neg hi, dif_neg hi]

theorem bindBacking_ok {s s' : Store} {w : WrapperRef} {t : HostType}
    (h : s.bindBacking w t = .ok s') :
    s' = s.updateWrapper w fun c => { c with hasBacking := true, backing := some t } := by
  unfold bindBacking at h
  split at h
  · cases h
  · split at h <;> cases h
    rfl

/-- A load that succeeds leaves one more declaration and wrapper class, and otherwise changes the
registry and the listings. -/
theorem load_store {s s' : Store} {config : Config} {unit : Nat} {plan : ClassPlan}
    {script : WrapperPlan} {l : LoadedClass} (h : s.load config unit plan script = (.ok l, s')) :
    l.wrapper.id = s.wrappers.size ∧ l.backing = plan.toHostType s.declarations l.wrapper ∧
      ∃ c registry files, s' = { s with
        declarations := s.declarations + 1, wrappers := s.wrappers.push c, registry, files } ∧
        c.plan = script ∧ c.backing = some l.backing ∧ c.isAbstract = plan.isAbstract ∧
          c.isBound = false := by
  simp only [load, newWrapper, newType] at h
  split at h
  · cases h
  · cases h
  next s₀ _ =>
    split at h
    · cases h
    next s₁ hbind =>
      let w : WrapperRef := ⟨s.wrappers.size, script.name, plan.name⟩
      let c : Wrapper := { plan := script, backingName := plan.name, isAbstract := plan.isAbstract,
                           hasBacking := true, backing := some (plan.toHostType s.declarations w) }
      have hbound : s₁ = { s with declarations := s.declarations + 1,
                                  wrappers := s.wrappers.push c, registry := s₀.registry } := by
        rw [bindBacking_ok hbind, updateWrapper]
        congr 1
        exact modify_push _ _ _
      have hwritten : ∃ files, (if config.development = true then
          s₁.writeListing config.listingDir (listingFile plan.superclass.simpleName unit)
            (listingText unit plan script)
          else (none, s₁)).2 = { s₁ with files } := by
        unfold writeListing
        repeat' split
        all_goals exact ⟨_, rfl⟩
      obtain ⟨files, hfiles⟩ := hwritten
      have hlast (f : Wrapper → Wrapper) : ({ s₁ with files } : Store).updateWrapper w f = { s with
          declarations := s.declarations + 1, wrappers := s.wrappers.push (f c)
          registry := s₀.registry, files } := by
        rw [hbound, updateWrapper]
        congr 1
        exact modify_push _ _ _
      obtain ⟨hl, rfl⟩ := Prod.mk.inj h
      cases hl
      rw [hfiles]
      exact ⟨rfl, rfl, _, s₀.registry, files, hlast _, rfl, rfl, rfl, rfl⟩

theorem load_ok {s s' : Store} {config : Config} {unit : Nat} {plan : ClassPlan}
    {script : WrapperPlan} {l : LoadedClass} (h : s.load config unit plan script = (.ok l, s')) :
    Loaded s plan script l s' := by
  obtain ⟨hwrapper, hbacking, c, registry, files, rfl, hrest⟩ := load_store h
  exact ⟨hwrapper, hbacking, rfl, rfl, c, rfl, hrest⟩

/-- A load that is refused changes the registry at most. -/
theorem load_error {s s' : Store} {config : Config} {unit : Nat} {plan : ClassPlan}
    {script : WrapperPlan} {e : GenerationError}
    (h : s.load config unit plan script = (.error e, s')) :
    ∃ registry, s' = { s with registry } := by
  have hreg {t : HostType} {r : Except RegistrationError Unit} {s'' : Store}
      (h : s.registerWeakly t = (r, s'')) : ∃ registry, s'' = { s with registry } := by
    obtain ⟨-, rfl⟩ := Prod.mk.inj h
    exact ⟨_, rfl⟩
  simp only [load, newWrapper, newType] at h
  split at h
  next heq =>
    obtain ⟨-, rfl⟩ := Prod.mk.inj h
    exact hreg heq
  next heq =>
    obtain ⟨-, rfl⟩ := Prod.mk.inj h
    exact hreg heq
  next heq =>
    split at h
    · obtain ⟨-, rfl⟩ := Prod.mk.inj h
      exact hreg heq
    · cases (Prod.mk.inj h).1

theorem Loaded.extends {s s' : Store} {plan : ClassPlan} {script : WrapperPlan} {l : LoadedClass}
    (h : Loaded s plan script l s') : s.Extends s' := by
  obtain ⟨c, hc, -⟩ := h.wrappers
  exact .of_push h.natives h.functions hc

/-! ## Steps and histories -/

theorem putProperty_keeps {s s' : Store} {o : ScriptObject} {name : String} {v : ScriptValue}
    (h : s.putProperty o name v = .ok s') :
    s'.natives = s.natives ∧ s'.functions = s.functions ∧ s'.wrappers = s.wrappers := by
  unfold putProperty at h
  split at h
  · cases h; exact ⟨rfl, rfl, rfl⟩
  · dsimp only at h
    split at h <;> cases h
    exact ⟨rfl, rfl, rfl⟩
  · cases h

theorem bindFacet_ok {s s' : Store} {w : WrapperRef} {f : StaticFacet}
    (h : s.bindFacet w f = .ok s') :
    s' = s.updateWrapper w fun c => { c with isBound := true, facet := some f } := by
  unfold bindFacet at h
  split at h
  · cases h
  · split at h <;> cases h
    rfl

theorem Step.extends {s s' : Store} (h : Step s s') : s.Extends s' := by
  cases h with
  | native code => exact ⟨Extends.getElem?_push, id, fun {_ c} h => ⟨c, h, .refl c⟩⟩
  | function code => exact ⟨id, Extends.getElem?_push, fun {_ c} h => ⟨c, h, .refl c⟩⟩
  | wrapper plan => exact .of_push rfl rfl rfl
  | put h =>
    obtain ⟨hn, hf, hw⟩ := putProperty_keeps h
    exact .of_eq hn hf hw
  | counter v o => cases o <;> exact .of_eq rfl rfl rfl
  | handOut w f => exact .updateWrapper s w fun c => ⟨rfl, rfl, rfl, rfl, id, id, .inl rfl⟩
  | bind h =>
    rw [bindFacet_ok h]
    exact .updateWrapper s _ fun c => ⟨rfl, rfl, rfl, rfl, fun _ => rfl, id, .inl rfl⟩
  | load config unit plan script =>
    rcases h : s.load config unit plan script with ⟨e | l, s'⟩
    · obtain ⟨registry, rfl⟩ := load_error h
      exact .of_eq rfl rfl rfl
    · exact (load_ok h).extends
  | register t =>
    show s.Extends (Store.register s t).2
    unfold Store.register
    split <;> exact .of_eq rfl rfl rfl
  | unload held => exact .unload s held
  | _ => exact .of_eq rfl rfl rfl

/-- What was code or a wrapper class at one time stays so. -/
theorem Later.extends {s s' : Store} (h : s.Later s') : s.Extends s' := by
  induction h with
  | refl => exact .refl s
  | tail _ step ih => exact ih.trans step.extends

/-- A wrapper class keeps its plan. -/
theorem Later.plan {s s' : Store} (h : s.Later s') {w : WrapperRef} {c : Wrapper}
    (hc : s.wrapper? w = some c) : ∃ c', s'.wrapper? w = some c' ∧ c'.plan = c.plan := by
  obtain ⟨c', hc', became⟩ := h.extends.wrapper hc
  exact ⟨c', hc', became.plan⟩

end Store

end ScriptClass
