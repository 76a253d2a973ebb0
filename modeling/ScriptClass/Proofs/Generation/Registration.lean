import ScriptClass.Proofs.Generation.Success
import ScriptClass.Proofs.Registry.Refinement
import Mathlib.Data.List.Sort

/-!
# Requests and the registry

A request or a load that is refused leaves a registry that answers as before, though the
entries of unloaded types may be gone (`Store.Refused`). One that is granted makes a single
name live, and leaves all others as they are (`Store.Granted`). Both hold also once the
request itself is let go, as long as nothing else is unloaded with it.

The reasons are those of the registry: the map of its live types decides every answer
(`Coherent.sameAnswers`), a purge leaves the map alone, and nothing is registered before
the name is known to be free.
-/

namespace ScriptClass

namespace Registry

variable {r r' : Registry} {used : Set String}

/-- The two registries answer every question about loaded types alike. -/
structure SameAnswers (r r' : Registry) : Prop where
  lookup : r'.lookup = r.lookup
  resolve : r'.resolve = r.resolve
  contains : r'.contains = r.contains
  names : r'.names = r.names
  size : r'.size = r.size
  lookupByHash : r'.lookupByHash = r.lookupByHash
  lookupDescriptor : r'.lookupDescriptor = r.lookupDescriptor
  isAssignable : r'.isAssignable = r.isAssignable

/-- Nothing is found by a hash that no name in use has. -/
theorem Coherent.lookupByHash_unused (h : r.Coherent used) {hash : TypeHash}
    (hunused : ∀ name ∈ used, TypeHash.ofName name ≠ hash) : r.lookupByHash hash = none := by
  have hnone : r.byHash.lookup hash = none := by
    refine List.lookup_eq_none_iff.mpr fun e he => ?_
    rw [h.index] at he
    obtain ⟨entry, hentry, rfl⟩ := List.mem_map.mp he
    exact bne_iff_ne.mpr (hunused _ (h.names _ hentry)).symm
  rw [Registry.lookupByHash, hnone, Option.bind_none]

theorem names_length (r : Registry) : r.names.length = r.size := by
  rw [names, List.length_mergeSort, List.length_map, size]

/-- Coherent registries of the same live types answer alike. -/
theorem Coherent.sameAnswers (hused : used.InjOn TypeHash.ofName) (h : r.Coherent used)
    (h' : r'.Coherent used) (hlive : r'.liveTypes = r.liveTypes) : r.SameAnswers r' := by
  have hlookup : r'.lookup = r.lookup := by
    funext name
    rw [lookup_eq, lookup_eq, hlive]
  have hnames : r'.names = r.names := by
    refine h'.names_ascend.eq_of_mem_iff h.names_ascend fun name => ?_
    rw [h'.mem_names, h.mem_names, hlive]
  have hbyHash : r'.lookupByHash = r.lookupByHash := by
    funext hash
    by_cases hhash : ∃ name ∈ used, TypeHash.ofName name = hash
    · obtain ⟨name, hname, rfl⟩ := hhash
      rw [h'.lookupByHash_eq hused hname, h.lookupByHash_eq hused hname, hlive]
    · push Not at hhash
      rw [h'.lookupByHash_unused hhash, h.lookupByHash_unused hhash]
  refine ⟨hlookup, ?_, ?_, hnames, ?_, hbyHash, ?_, ?_⟩
  · funext name
    rw [resolve, resolve, hlookup]
  · funext name
    rw [contains, contains, hlookup]
  · rw [← names_length, ← names_length, hnames]
  · funext t
    rw [lookupDescriptor, lookupDescriptor, hlookup]
  · funext source target
    rw [isAssignable, isAssignable, hlookup]

theorem entries_foldl_erase_subset (r : Registry) (names : List String) :
    (names.foldl erase r).entries ⊆ r.entries := by
  induction names generalizing r with
  | nil => exact List.Subset.refl _
  | cons name names ih =>
    have hstep : (r.erase name).entries ⊆ r.entries := List.filter_subset_self r.entries
    exact List.Subset.trans (ih _) hstep

theorem entries_purge_subset (r : Registry) : r.purge.entries ⊆ r.entries :=
  entries_foldl_erase_subset r _

/-- Every generated type that is loaded is among the things held. -/
def KeptBy (r : Registry) (held : List Holding.Key) : Prop :=
  ∀ name t, r.liveTypes name = some ⟨t, true⟩ → .type t.id ∈ held

theorem liveTypes_unload_of_kept {held : List Holding.Key} (h : r.KeptBy held) :
    (r.unload fun t => held.contains (.type t.id)).liveTypes = r.liveTypes := by
  rw [liveTypes_unload]
  funext name
  cases hl : r.liveTypes name with
  | none => rfl
  | some l =>
    obtain ⟨t, isGenerated⟩ := l
    cases isGenerated with
    | false => rfl
    | true => simp [Option.filter_some, h name t hl]

/-- A generated type that is refused leaves no new entry. -/
theorem entries_registerWeakly_subset {t : HostType} {e : RegistrationError}
    (h : (r.registerWeakly t).1 = .error e) : (r.registerWeakly t).2.entries ⊆ r.entries := by
  revert h
  unfold registerWeakly
  split
  · exact fun _ => List.Subset.refl _
  · dsimp only
    split
    · exact fun _ => entries_purge_subset r
    · exact nofun

/-- A generated type that is refused changes no live type. -/
theorem Coherent.registerWeakly_error (hused : used.InjOn TypeHash.ofName) (h : r.Coherent used)
    {t : HostType} (ht : t.name ∈ used) {e : RegistrationError}
    (herror : (r.registerWeakly t).1 = .error e) :
    (r.registerWeakly t).2.Coherent used ∧ (r.registerWeakly t).2.liveTypes = r.liveTypes := by
  obtain ⟨hanswer, hlive, hafter⟩ := h.step_refines hused (e := .registerWeakly t)
    fun name hname => Option.some_inj.mp hname ▸ ht
  refine ⟨hafter, hlive.trans ?_⟩
  have hanswer := (RegistryAnswer.registered.inj hanswer).symm.trans herror
  revert hanswer
  show (LiveTypes.register r.liveTypes t true).1 = _ →
    (LiveTypes.register r.liveTypes t true).2 = _
  unfold LiveTypes.register
  split
  · exact fun _ => rfl
  · exact fun _ => rfl
  · exact nofun

/-- A generated type that is let in makes its name live, which it was not. -/
theorem Coherent.registerWeakly_ok (hused : used.InjOn TypeHash.ofName) (h : r.Coherent used)
    {t : HostType} (ht : t.name ∈ used) (hok : (r.registerWeakly t).1 = .ok ()) :
    (r.registerWeakly t).2.Coherent used ∧ r.liveTypes t.name = none ∧
      (r.registerWeakly t).2.liveTypes =
        Function.update r.liveTypes t.name (some ⟨t, true⟩) := by
  obtain ⟨hanswer, hlive, hafter⟩ := h.step_refines hused (e := .registerWeakly t)
    fun name hname => Option.some_inj.mp hname ▸ ht
  have hanswer := (RegistryAnswer.registered.inj hanswer).symm.trans hok
  have hregister : r.liveTypes t.name = none ∧ (LiveTypes.register r.liveTypes t true).2 =
      Function.update r.liveTypes t.name (some ⟨t, true⟩) := by
    revert hanswer
    show (LiveTypes.register r.liveTypes t true).1 = _ → _
    unfold LiveTypes.register
    split
    · exact nofun
    · exact nofun
    next hfree => exact fun _ => ⟨hfree, rfl⟩
  exact ⟨hafter, hregister.1, hlive.trans hregister.2⟩

end Registry

namespace Store

variable {s s' : Store} {used : Set String} {t : HostType}

/-- What a refusal leaves: the same store, but for the number of requests and for entries of
unloaded types that are gone. The registry answers as before, and still does so when things
are let go, if every generated type is kept. -/
structure Refused (s s' : Store) : Prop where
  rest : ∃ generations, s' = { s with generations, registry := s'.registry }
  entries : s'.registry.entries ⊆ s.registry.entries
  answers : s.registry.SameAnswers s'.registry
  settled : ∀ held, s.registry.KeptBy held → s.registry.SameAnswers (s'.unload held).registry

/-- What a grant leaves: the name of the generated type was free, and the registry answers
as if this type, and nothing else, were new among the loaded ones. It still does so when
things are let go, if every generated type is kept. -/
structure Granted (s s' : Store) (t : HostType) (used : Set String) : Prop where
  free : s.registry.lookup t.name = none
  answers : s'.registry.AnswersFrom
    (Function.update s.registry.liveTypes t.name (some ⟨t, true⟩)) used
  settled : ∀ held, s.registry.KeptBy held → .type t.id ∈ held →
    (s'.unload held).registry.AnswersFrom
      (Function.update s.registry.liveTypes t.name (some ⟨t, true⟩)) used

variable (hused : used.InjOn TypeHash.ofName)

include hused in
theorem Refused.of_liveTypes (h : s.registry.Coherent used) (h' : s'.registry.Coherent used)
    (hrest : ∃ generations, s' = { s with generations, registry := s'.registry })
    (hentries : s'.registry.entries ⊆ s.registry.entries)
    (hlive : s'.registry.liveTypes = s.registry.liveTypes) : s.Refused s' where
  rest := hrest
  entries := hentries
  answers := h.sameAnswers hused h' hlive
  settled held hheld := by
    have hkept : s'.registry.KeptBy held := by
      intro name t ht
      exact hheld name t (hlive ▸ ht)
    exact h.sameAnswers hused (h'.unload _)
      ((Registry.liveTypes_unload_of_kept hkept).trans hlive)

include hused in
theorem Granted.of_liveTypes (h' : s'.registry.Coherent used)
    (hfree : s.registry.liveTypes t.name = none)
    (hlive : s'.registry.liveTypes =
      Function.update s.registry.liveTypes t.name (some ⟨t, true⟩)) :
    s.Granted s' t used where
  free := by rw [Registry.lookup_eq, hfree, Option.map_none]
  answers := hlive ▸ h'.answersFrom hused
  settled held hheld ht := by
    have hkept : s'.registry.KeptBy held := by
      intro name u hu
      rw [hlive, Function.update_apply] at hu
      split at hu
      · cases hu
        exact ht
      · exact hheld name u hu
    have hunloaded := (h'.unload fun u => held.contains (.type u.id)).answersFrom hused
    rw [Registry.liveTypes_unload_of_kept hkept, hlive] at hunloaded
    exact hunloaded

/-! ## Loads -/

section Load

variable {config : Config} {unit : Nat} {plan : ClassPlan} {script : WrapperPlan}

/-- What the registry refuses is not loaded. -/
theorem load_of_refused (config : Config) (unit : Nat) {plan : ClassPlan}
    {script : WrapperPlan} {cause : RegistrationError} {registry : Registry}
    (h : s.registry.registerWeakly
        (plan.toHostType s.declarations ⟨s.wrappers.size, script.name, plan.name⟩) =
      (.error cause, registry)) :
    ∃ e, s.load config unit plan script = (.error e, { s with registry }) := by
  simp only [load, newWrapper, newType, Store.registerWeakly, h]
  cases cause with
  | duplicateType name => exact ⟨_, rfl⟩
  | typeNotFound name => exact ⟨_, rfl⟩
  | invalidType name fault => exact ⟨_, rfl⟩

include hused in
theorem load_error_refused (h : s.registry.Coherent used) (hname : plan.name ∈ used)
    {e : GenerationError} (hload : s.load config unit plan script = (.error e, s')) :
    s.Refused s' := by
  let t := plan.toHostType s.declarations ⟨s.wrappers.size, script.name, plan.name⟩
  rcases hr : s.registry.registerWeakly t with ⟨cause | _, registry⟩
  · obtain ⟨e', hload'⟩ := load_of_refused config unit hr
    cases hload.symm.trans hload'
    have herror : (s.registry.registerWeakly t).1 = .error cause := by rw [hr]
    obtain ⟨hafter, hlive⟩ := h.registerWeakly_error hused (t := t) hname herror
    have hentries := Registry.entries_registerWeakly_subset herror
    rw [hr] at hafter hlive hentries
    exact .of_liveTypes hused h hafter ⟨s.generations, rfl⟩ hentries hlive
  · obtain ⟨l, s₁, hload', -⟩ := load_of_registered config unit hr
    cases hload.symm.trans hload'

include hused in
theorem load_ok_registry (h : s.registry.Coherent used) (hname : plan.name ∈ used)
    {l : LoadedClass} (hload : s.load config unit plan script = (.ok l, s')) :
    l.backing.name = plan.name ∧ s'.registry.Coherent used ∧
      s.registry.liveTypes plan.name = none ∧ s'.registry.liveTypes =
        Function.update s.registry.liveTypes plan.name (some ⟨l.backing, true⟩) := by
  let t := plan.toHostType s.declarations ⟨s.wrappers.size, script.name, plan.name⟩
  rcases hr : s.registry.registerWeakly t with ⟨cause | _, registry⟩
  · obtain ⟨e, hload'⟩ := load_of_refused config unit hr
    cases hload.symm.trans hload'
  · obtain ⟨l', s₁, hload', hbacking, hregistry⟩ := load_of_registered config unit hr
    cases hload.symm.trans hload'
    obtain ⟨hafter, hfree, hlive⟩ := h.registerWeakly_ok hused (t := t) hname (by rw [hr])
    rw [hr] at hafter hlive
    rw [hregistry, hbacking]
    exact ⟨rfl, hafter, hfree, hlive⟩

end Load

/-! ## Requests -/

section Request

variable {config : Config} {r : ClassRequest}

/-- A request that is refused only takes its number. -/
theorem generate_error {e : RequestError} (h : s.generate config r = (.error e, s')) :
    s' = { s with generations := s.generations + 1 } := by
  cases hcollect : r.collect s.registry (r.base.getD s.registry.object)
      (config.nameFor r.name (s.generations + 1)) with
  | error cause =>
    simp only [generate, hcollect] at h
    cases h
    rfl
  | ok ms =>
    obtain ⟨f, hf⟩ := generate_of_collected hcollect
    rw [h] at hf
    cases hf

/-- A request that is granted does to the registry what loading its class does. -/
theorem generate_ok_load {f : StaticFacet} (h : s.generate config r = (.ok f, s')) :
    ∃ (pair : ClassPair) (s₁ : Store), pair.host.name = config.nameFor r.name (s.generations + 1) ∧
      Store.load { s with generations := s.generations + 1 } config (s.generations + 1).toNat
        pair.host pair.script = (.ok f.loaded, s₁) ∧ s'.registry = s₁.registry := by
  simp only [generate] at h
  split at h
  · cases h
  next ms _ =>
    split at h
    · cases h
    next l s₁ hload =>
      split at h
      · cases h
      next s₂ hbind =>
        cases h
        refine ⟨_, s₁, rfl, hload, ?_⟩
        rw [bindFacet_ok hbind]
        rfl

end Request

end Store

/-- Whatever a registry went through, a request or a load either changes no answer of the
registry, if it is refused, or makes one name live, that of the generated type. -/
theorem requests_are_atomic {used : Set String} (hused : used.InjOn TypeHash.ofName)
    (hobject : objectName ∈ used) (hstring : stringName ∈ used) {events : List RegistryEvent}
    (hevents : ∀ e ∈ events, ∀ name, e.name? = some name → name ∈ used) {s : Store}
    (hs : s.registry = (runEvents Registry.step Store.initial.registry events).2) :
    (∀ config (r : ClassRequest), config.nameFor r.name (s.generations + 1) ∈ used →
      (∀ e s', s.generate config r = (.error e, s') → s.Refused s') ∧
      ∀ f s', s.generate config r = (.ok f, s') →
        f.backing.name = config.nameFor r.name (s.generations + 1) ∧
          s.Granted s' f.backing used) ∧
    ∀ config unit plan script, plan.name ∈ used →
      (∀ e s', s.load config unit plan script = (.error e, s') → s.Refused s') ∧
      ∀ l s', s.load config unit plan script = (.ok l, s') →
        l.backing.name = plan.name ∧ s.Granted s' l.backing used := by
  have h : s.registry.Coherent used := by
    obtain ⟨-, -, hafter⟩ := (coherent_initial hused hobject hstring).run_refines hused hevents
    exact hs ▸ hafter
  refine ⟨fun config r hname => ⟨fun e s' herror => ?_, fun f s' hok => ?_⟩,
    fun config unit plan script hname => ⟨fun e s' herror => ?_, fun l s' hok => ?_⟩⟩
  · rw [Store.generate_error herror]
    exact .of_liveTypes hused h h ⟨_, rfl⟩ (List.Subset.refl _) rfl
  · obtain ⟨pair, s₁, hpair, hload, hregistry⟩ := Store.generate_ok_load hok
    obtain ⟨hbacking, hafter, hfree, hlive⟩ :=
      Store.load_ok_registry hused (s := { s with generations := s.generations + 1 }) h
        (hpair ▸ hname) hload
    rw [← hbacking] at hfree hlive
    exact ⟨hbacking.trans hpair,
      .of_liveTypes hused (hregistry ▸ hafter) hfree (hregistry ▸ hlive)⟩
  · exact Store.load_error_refused hused h hname herror
  · obtain ⟨hbacking, hafter, hfree, hlive⟩ := Store.load_ok_registry hused h hname hok
    refine ⟨hbacking, .of_liveTypes hused hafter ?_ ?_⟩
    · rw [hbacking]
      exact hfree
    · rw [hbacking]
      exact hlive

/-- A host type, a generated type that is loaded and one that is not any more. -/
def mixedEvents : List RegistryEvent :=
  [.register (.mk { id := 2, name := "app/Host", modifiers := .onlyPublic } (some rootClass) []),
   .registerWeakly (.mk { id := 3, name := "hostbridge/generated/Gone", modifiers := .onlyPublic }
     (some rootClass) []),
   .unload fun _ => false,
   .registerWeakly (.mk { id := 4, name := "hostbridge/generated/Kept", modifiers := .onlyPublic }
     (some rootClass) [])]

def mixedNames : List String :=
  [objectName, stringName, "app/Host", "hostbridge/generated/Gone", "hostbridge/generated/Kept"]

def mixedStore : Store :=
  { Store.initial with
    declarations := 5
    registry := (runEvents Registry.step Store.initial.registry mixedEvents).2 }

/-- Another class under the name that is taken. -/
def keptAgain : ClassPair :=
  .ofMembers "hostbridge/generated/Kept" rootClass [] ⟨.empty .instances, .empty .statics⟩

theorem kept_refused_gone_granted :
    (∃ e s', mixedStore.load {} 1 keptAgain.host keptAgain.script = (.error e, s') ∧
      mixedStore.Refused s') ∧
    ∃ f s', mixedStore.generate {} { name := some "Gone" } = (.ok f, s') ∧
      f.backing.name = "hostbridge/generated/Gone" ∧
        mixedStore.Granted s' f.backing {name | name ∈ mixedNames} := by
  have hdistinct : ∀ a ∈ mixedNames, ∀ b ∈ mixedNames,
      TypeHash.ofName a = TypeHash.ofName b → a = b := by
    decide +kernel
  have hused : {name | name ∈ mixedNames}.InjOn TypeHash.ofName := fun a ha b hb =>
    hdistinct a ha b hb
  have hevents : ∀ e ∈ mixedEvents, ∀ name, e.name? = some name →
      name ∈ {name | name ∈ mixedNames} := by
    simp [mixedEvents, mixedNames, RegistryEvent.name?, HostType.name, HostType.own]
  obtain ⟨hrequest, hload⟩ := requests_are_atomic hused (by simp [mixedNames])
    (by simp [mixedNames]) hevents (s := mixedStore) rfl
  obtain ⟨e, hrefused⟩ : ∃ e, (mixedStore.load {} 1 keptAgain.host keptAgain.script).1 = .error e :=
    ⟨.nameCollision "hostbridge/generated/Kept", by rfl⟩
  have hfree : mixedStore.registry.lookup "hostbridge/generated/Gone" = none :=
    Option.isNone_iff_eq_none.mp (by decide +kernel)
  obtain ⟨f, s', hgranted⟩ : ∃ f s', mixedStore.generate {} { name := some "Gone" } = (.ok f, s') :=
    generate_of_acceptable ⟨⟨rfl, rfl, rfl, rfl⟩, fun _ hi => absurd hi List.not_mem_nil, hfree,
      ⟨_, rfl⟩, ⟨_, rfl⟩⟩
  obtain ⟨-, hgone⟩ := hrequest {} { name := some "Gone" } (by decide +kernel)
  obtain ⟨hkept, -⟩ := hload {} 1 keptAgain.host keptAgain.script (by decide +kernel)
  refine ⟨⟨e, _, Prod.ext hrefused rfl, ?_⟩, f, s', hgranted, hgone f s' hgranted⟩
  exact hkept e _ (Prod.ext hrefused rfl)

end ScriptClass
