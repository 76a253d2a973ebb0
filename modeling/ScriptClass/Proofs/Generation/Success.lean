import ScriptClass.Proofs.Generation.Request
import ScriptClass.Proofs.Store.Growth
import ScriptClass.Proofs.Registry.LiveTypes

/-!
# When a class is generated

A request is decided by its first stage. What it asks there of the base type, the interfaces,
the name and the members (`ClassRequest.Acceptable`) is all that is ever asked of it:

* the type that is planned is well formed (`wellFormed_toHostType`) and its name, which no
  loaded type has, is still free after the purge that comes before registering, so loading
  succeeds (`load_succeeds`);
* the wrapper class is new, so its host side and its static facet are bound for the first
  time, and only a second binding is refused (`bindBacking_error`, `bindFacet_error`).

The class that is generated extends the base type and the interfaces and nothing else
(`HostType.extends_generated`), and so is a subtype of what they are subtypes of.
-/

namespace ScriptClass

/-! ## Checks -/

/-- A check of every element passes if it passes each. -/
theorem forM_ok {ε α : Type} {check : α → Except ε Unit} {xs : List α} :
    xs.forM check = .ok () ↔ ∀ x ∈ xs, check x = .ok () := by
  induction xs with
  | nil => exact ⟨fun _ => nofun, fun _ => rfl⟩
  | cons x xs ih =>
    rw [List.forall_mem_cons, ← ih]
    show (check x >>= fun _ => xs.forM check) = _ ↔ _
    cases check x with
    | error e => exact ⟨nofun, nofun⟩
    | ok => exact ⟨fun h => ⟨rfl, h⟩, fun h => h.2⟩

namespace HostType

/-- What is asked of a base type. -/
structure Extensible (t : HostType) : Prop where
  isPublic : t.isPublic = true
  isFinal : t.isFinal = false
  isInterface : t.isInterface = false
  isSynthetic : t.isSynthetic = false

/-- What is asked of a requested interface. -/
structure Implementable (t : HostType) : Prop where
  isPublic : t.isPublic = true
  isFinal : t.isFinal = false
  isInterface : t.isInterface = true

theorem baseFault?_eq_none {t : HostType} : t.baseFault? = none ↔ t.Extensible := by
  have hall : t.baseFault? = none ↔ t.isInterface = false ∧ t.isFinal = false ∧
      t.isPublic = true ∧ t.isSynthetic = false := by
    unfold baseFault?
    cases t.isInterface <;> cases t.isFinal <;> cases t.isPublic <;> cases t.isSynthetic <;> decide
  rw [hall]
  exact ⟨fun ⟨hi, hf, hp, hs⟩ => ⟨hp, hf, hi, hs⟩, fun ⟨hp, hf, hi, hs⟩ => ⟨hi, hf, hp, hs⟩⟩

theorem interfaceFault?_eq_none {t : HostType} : t.interfaceFault? = none ↔ t.Implementable := by
  have hall : t.interfaceFault? = none ↔ t.isInterface = true ∧ t.isFinal = false ∧
      t.isPublic = true := by
    unfold interfaceFault?
    cases t.isInterface <;> cases t.isFinal <;> cases t.isPublic <;> decide
  rw [hall]
  exact ⟨fun ⟨hi, hf, hp⟩ => ⟨hp, hf, hi⟩, fun ⟨hp, hf, hi⟩ => ⟨hi, hf, hp⟩⟩

end HostType

theorem checkBase_ok {t : HostType} : checkBase t = .ok () ↔ t.Extensible := by
  rw [← HostType.baseFault?_eq_none, checkBase]
  split
  next hfault => simp [hfault]
  next hfault => simp [hfault]

theorem checkInterface_ok {t : HostType} : checkInterface t = .ok () ↔ t.Implementable := by
  rw [← HostType.interfaceFault?_eq_none, checkInterface]
  split
  next hfault => simp [hfault]
  next hfault => simp [hfault]

theorem Members.collect_succeeds_iff {instances statics : Option Entries} :
    (∃ ms, Members.collect instances statics = .ok ms) ↔
      (∃ ms, CollectedFacet.collect .instances instances = .ok ms) ∧
        ∃ ms, CollectedFacet.collect .statics statics = .ok ms := by
  constructor
  · rintro ⟨ms, h⟩
    obtain ⟨hi, hs⟩ := Members.collect_ok h
    exact ⟨⟨_, hi⟩, _, hs⟩
  · rintro ⟨⟨is, hi⟩, ss, hs⟩
    refine ⟨⟨is, ss⟩, ?_⟩
    rw [Members.collect, hi, hs]
    rfl

/-- What is asked of a request. -/
structure ClassRequest.Acceptable (r : ClassRequest) (registry : Registry) (base : HostType)
    (name : String) : Prop where
  base : base.Extensible
  interfaces : ∀ i ∈ r.interfaces, i.Implementable
  free : registry.lookup name = none
  instances : ∃ ms, CollectedFacet.collect .instances r.instances = .ok ms
  statics : ∃ ms, CollectedFacet.collect .statics r.statics = .ok ms

theorem ClassRequest.collect_succeeds_iff {r : ClassRequest} {registry : Registry}
    {base : HostType} {name : String} :
    (∃ ms, r.collect registry base name = .ok ms) ↔ r.Acceptable registry base name := by
  have hfree : registry.contains name = false ↔ registry.lookup name = none := by
    rw [Registry.contains, Option.isSome_eq_false_iff, Option.isNone_iff_eq_none]
  have hinterfaces : r.interfaces.forM checkInterface = .ok () ↔
      ∀ i ∈ r.interfaces, i.Implementable := by
    simp only [forM_ok, checkInterface_ok]
  simp only [ClassRequest.collect_ok_iff, checkBase_ok, hinterfaces, hfree, exists_and_left,
    Members.collect_succeeds_iff]
  constructor
  · rintro ⟨hbase, hinterfaces, hname, hinstances, hstatics⟩
    exact ⟨hbase, hinterfaces, hname, hinstances, hstatics⟩
  · intro h
    exact ⟨h.base, h.interfaces, h.free, h.instances, h.statics⟩

/-! ## Loading -/

theorem Config.nameFor_ne_empty (c : Config) (requested : Option String) (number : UInt64) :
    c.nameFor requested number ≠ "" := by
  cases requested with
  | some name => simp [nameFor]
  | none =>
    have hnumber : toString number ≠ "" := Nat.repr_ne_empty
    simp [nameFor, hnumber]

namespace Registry

/-- What was checked of a request makes the planned type well formed. -/
theorem wellFormed_toHostType {name : String} {base : HostType} {interfaces : List HostType}
    {r : Overrides} {id : Nat} {w : WrapperRef} (hname : name ≠ "") (hbase : base.Extensible)
    (hinterfaces : ∀ i ∈ interfaces, i.Implementable) :
    WellFormed ((ClassPlan.ofOverrides name base interfaces r).toHostType id w) where
  name := hname
  superclass s hs := by
    cases (show some base = some s from hs)
    exact ⟨rfl, hbase.isInterface⟩
  interfaces i hi := (hinterfaces i hi).isInterface

end Registry

namespace Store

variable {s s' : Store} {w : WrapperRef} {c : Wrapper}

/-- Only a second host side is refused. -/
theorem bindBacking_error {t : HostType} {e : RuntimeError}
    (h : s.bindBacking w t = .error e) (hc : s.wrapper? w = some c) :
    c.hasBacking = true ∧ e = .duplicateBinding c.backingName := by
  rw [bindBacking, hc] at h
  dsimp only at h
  split at h
  next hbound =>
    cases h
    exact ⟨hbound, rfl⟩
  next => cases h

/-- Only a second static facet is refused. -/
theorem bindFacet_error {f : StaticFacet} {e : RuntimeError}
    (h : s.bindFacet w f = .error e) (hc : s.wrapper? w = some c) :
    c.isBound = true ∧ e = .duplicateBinding c.backingName := by
  rw [bindFacet, hc] at h
  dsimp only at h
  split at h
  next hbound =>
    cases h
    exact ⟨hbound, rfl⟩
  next => cases h

/-- Once the host side is registered nothing else can fail. -/
theorem load_of_registered (config : Config) (unit : Nat) {plan : ClassPlan}
    {script : WrapperPlan} {registry : Registry}
    (h : s.registry.registerWeakly
        (plan.toHostType s.declarations ⟨s.wrappers.size, script.name, plan.name⟩) =
      (.ok (), registry)) :
    ∃ l s', s.load config unit plan script = (.ok l, s') ∧
      l.backing =
        plan.toHostType s.declarations ⟨s.wrappers.size, script.name, plan.name⟩ ∧
      s'.registry = registry := by
  have hregistered : s.registerWeakly
      (plan.toHostType s.declarations ⟨s.wrappers.size, script.name, plan.name⟩) =
        (.ok (), { s with registry }) := by
    rw [Store.registerWeakly, h]
  simp only [load, newWrapper, newType, hregistered]
  split
  next e hbind =>
    -- the wrapper class was made just before
    obtain ⟨hbound, -⟩ := bindBacking_error hbind Array.getElem?_push_size
    cases hbound
  next loaded hbind =>
    refine ⟨_, _, rfl, rfl, ?_⟩
    have hregistry : loaded.registry = registry := by
      rw [bindBacking_ok hbind]
      rfl
    show (if config.development = true then _ else _ : Option String × Store).2.registry = registry
    split
    · exact (grows_writeListing _ _ _ _).registry.trans hregistry
    · exact hregistry

/-- Loading succeeds where the host side is well formed, whatever its number and its
wrapper class, and no loaded type has its name. -/
theorem load_succeeds (config : Config) (unit : Nat) {plan : ClassPlan} (script : WrapperPlan)
    (hplan : ∀ id w, Registry.WellFormed (plan.toHostType id w))
    (hname : s.registry.lookup plan.name = none) :
    ∃ l s', s.load config unit plan script = (.ok l, s') := by
  have hfree : s.registry.purge.liveTypes plan.name = none := by
    refine Registry.liveTypes_purge_of_none ?_
    rw [Registry.lookup_eq, Option.map_eq_none_iff] at hname
    exact hname
  have hwellFormed := Registry.fault?_eq_none.mpr
    (hplan s.declarations ⟨s.wrappers.size, script.name, plan.name⟩)
  obtain ⟨l, s', hload, -⟩ :=
    load_of_registered config unit (Registry.registerWeakly_of_free hwellFormed hfree)
  exact ⟨l, s', hload⟩

/-- The wrapper class of a load has no static facet yet. -/
theorem Loaded.unbound {plan : ClassPlan} {script : WrapperPlan} {l : LoadedClass}
    (h : Loaded s plan script l s') :
    ∃ c, s'.wrapper? l.wrapper = some c ∧ c.isBound = false := by
  obtain ⟨c, hwrappers, -, -, -, hbound⟩ := h.wrappers
  refine ⟨c, ?_, hbound⟩
  rw [Store.wrapper?, hwrappers, h.wrapper, Array.getElem?_push_size]

end Store

/-! ## Requests -/

section Request

variable {s : Store} {config : Config} {r : ClassRequest}

/-- A request that is refused is refused at the first stage. -/
theorem generate_of_refused {cause : GenerationError}
    (h : r.collect s.registry (r.base.getD s.registry.object)
      (config.nameFor r.name (s.generations + 1)) = .error cause) :
    (s.generate config r).1 = .error (.generation .collecting cause) := by
  simp only [Store.generate, h]

/-- A request that passes the first stage passes all others. -/
theorem generate_of_collected {ms : Members}
    (h : r.collect s.registry (r.base.getD s.registry.object)
      (config.nameFor r.name (s.generations + 1)) = .ok ms) :
    ∃ f, (s.generate config r).1 = .ok f := by
  have hr := ClassRequest.collect_succeeds_iff.mp ⟨ms, h⟩
  let s₀ := { s with generations := s.generations + 1 }
  let pair := ClassPair.ofMembers (config.nameFor r.name (s.generations + 1))
    (r.base.getD s.registry.object) r.interfaces ms
  have hplan : ∀ id w, Registry.WellFormed (pair.host.toHostType id w) := fun _ _ =>
    Registry.wellFormed_toHostType (config.nameFor_ne_empty _ _) hr.base hr.interfaces
  obtain ⟨l, s₁, hload⟩ :=
    s₀.load_succeeds config (s.generations + 1).toNat pair.script hplan hr.free
  obtain ⟨c, hc, hunbound⟩ := (Store.load_ok hload).unbound
  simp only [Store.generate, h]
  rw [hload]
  dsimp only
  split
  next e hbind =>
    have hbound := (Store.bindFacet_error hbind hc).1
    cases hunbound.symm.trans hbound
  next => exact ⟨_, rfl⟩

/-- A request that is granted passed the first stage. -/
theorem acceptable_of_generate {s' : Store} {f : StaticFacet}
    (h : s.generate config r = (.ok f, s')) : r.Acceptable s.registry
      (r.base.getD s.registry.object) (config.nameFor r.name (s.generations + 1)) := by
  refine ClassRequest.collect_succeeds_iff.mp ?_
  cases hcollect : r.collect s.registry (r.base.getD s.registry.object)
      (config.nameFor r.name (s.generations + 1)) with
  | ok ms => exact ⟨ms, rfl⟩
  | error cause => cases (generate_of_refused hcollect).symm.trans (congrArg Prod.fst h)

theorem generate_of_acceptable (h : r.Acceptable s.registry (r.base.getD s.registry.object)
    (config.nameFor r.name (s.generations + 1))) : ∃ f s', s.generate config r = (.ok f, s') := by
  obtain ⟨ms, hms⟩ := ClassRequest.collect_succeeds_iff.mpr h
  obtain ⟨f, hf⟩ := generate_of_collected hms
  exact ⟨f, _, Prod.ext hf rfl⟩

end Request

/-- The host side of a class extends the base type and the interfaces, and nothing else. -/
theorem HostType.extends_generated {name : String} {base : HostType} {interfaces : List HostType}
    {r : Overrides} {id : Nat} {w : WrapperRef} {t : HostType} :
    ((ClassPlan.ofOverrides name base interfaces r).toHostType id w).Extends t ↔
      t = base ∨ t ∈ interfaces := by
  show some base = some t ∨ t ∈ interfaces ↔ _
  rw [Option.some_inj, eq_comm]

/-- A request is granted if and only if it is acceptable, and a refusal is one of the first
stage. A class that is generated is a subtype of the base type, of the interfaces and of all
that these are subtypes of; the root class and itself apart, every name it is a subtype of
is that of a type which one of them inherits from. -/
theorem generate_succeeds_iff (s : Store) (config : Config) (r : ClassRequest) :
    ((∃ f, (s.generate config r).1 = .ok f) ↔
        r.Acceptable s.registry (r.base.getD s.registry.object)
          (config.nameFor r.name (s.generations + 1))) ∧
      (∀ e, (s.generate config r).1 = .error e → ∃ cause, e = .generation .collecting cause) ∧
      ∀ f, (s.generate config r).1 = .ok f →
        (∀ t, t = r.base.getD s.registry.object ∨ t ∈ r.interfaces →
          f.backing.isSubtypeOf t.name ∧
            ∀ name, t.isSubtypeOf name → f.backing.isSubtypeOf name) ∧
        ∀ name, f.backing.isSubtypeOf name → name = objectName ∨ name = f.backing.name ∨
          ∃ t, (t = r.base.getD s.registry.object ∨ t ∈ r.interfaces) ∧
            ∃ u, t.Inherits u ∧ u.name = name := by
  rw [← ClassRequest.collect_succeeds_iff]
  refine ⟨⟨fun ⟨f, hf⟩ => ?_, fun ⟨ms, hms⟩ => generate_of_collected hms⟩, fun e he => ?_,
    fun f hf => ?_⟩
  · cases hcollect : r.collect s.registry (r.base.getD s.registry.object)
        (config.nameFor r.name (s.generations + 1)) with
    | ok ms => exact ⟨ms, rfl⟩
    | error cause => cases (generate_of_refused hcollect).symm.trans hf
  · cases hcollect : r.collect s.registry (r.base.getD s.registry.object)
        (config.nameFor r.name (s.generations + 1)) with
    | ok ms =>
      obtain ⟨f, hf⟩ := generate_of_collected hcollect
      cases hf.symm.trans he
    | error cause =>
      cases (generate_of_refused hcollect).symm.trans he
      exact ⟨cause, rfl⟩
  · have hgenerate : s.generate config r = (.ok f, (s.generate config r).2) := Prod.ext hf rfl
    obtain ⟨ms, hms, -⟩ := generate_ok hgenerate
    obtain ⟨name, number, hbacking⟩ := generate_backing hgenerate hms
    have hextends (t : HostType) : f.backing.Extends t ↔
        t = r.base.getD s.registry.object ∨ t ∈ r.interfaces := by
      rw [hbacking, HostType.extends_generated]
    refine ⟨fun t ht => ?_, fun name hname => ?_⟩
    · have hinherits : f.backing.Inherits t := .single ((hextends t).mpr ht)
      exact ⟨HostType.isSubtypeOf_of_inherits hinherits t.isSubtypeOf_name,
        fun _ => HostType.isSubtypeOf_of_inherits hinherits⟩
    · rcases HostType.isSubtypeOf_iff.mp hname with hroot | ⟨u, hu, rfl⟩
      · exact .inl hroot
      · rcases hu.cases_head with rfl | ⟨t, hstep, ht⟩
        · exact .inr (.inl rfl)
        · exact .inr (.inr ⟨t, (hextends t).mp hstep, u, ht, rfl⟩)

end ScriptClass
