import ScriptClass.Proofs.Store.History
import ScriptClass.Proofs.Generation.ClassPlan
import ScriptClass.Proofs.Generation.WrapperPlan

/-!
# Generated classes in a store

A class is `Generated` in a store if its two sides were planned from collected
members and loaded, at that time or earlier. Its wrapper class then has the
members for ever (`Generated.wrapper`), and every request that succeeds
generates a class (`generate_ok`).
-/

namespace ScriptClass

/-- The wrapper class has the script side of collected members, whose ids fit. -/
structure Store.HasMembers (s : Store) (w : WrapperRef) (ms : Members) : Prop where
  wrapper : ∃ c, s.wrapper? w = some c ∧ ∃ name, c.plan = .ofMembers name ms
  fit : ms.Fit
  numbered : ms.Numbered

/-- The class was planned from the members that a base, interfaces and the halves
of an implementation give, and was loaded. -/
inductive Generated (base : HostType) (interfaces : List HostType) (instances : Option Entries)
    (ms : Members) (l : LoadedClass) : Store → Prop where
  | mk {s₀ s₁ s : Store} {config : Config} {unit : Nat} {name : String} {statics : Option Entries}
    (collect : Members.collect instances statics = .ok ms) (fit : ms.Fit)
    (load : s₀.load config unit (ClassPair.ofMembers name base interfaces ms).host
      (ClassPair.ofMembers name base interfaces ms).script = (.ok l, s₁))
    (later : s₁.Later s) : Generated base interfaces instances ms l s

namespace Store

theorem HasMembers.later {s s' : Store} {w : WrapperRef} {ms : Members} (h : s.HasMembers w ms)
    (hs : s.Later s') : s'.HasMembers w ms where
  wrapper := by
    obtain ⟨c, hc, name, hplan⟩ := h.wrapper
    obtain ⟨c', hc', hplan'⟩ := hs.plan hc
    exact ⟨c', hc', name, hplan'.trans hplan⟩
  fit := h.fit
  numbered := h.numbered

/-- One wrapper class has one list of callables. -/
theorem HasMembers.methods_eq {s : Store} {w w' : WrapperRef} {ms ms' : Members}
    (h : s.HasMembers w ms) (h' : s.HasMembers w' ms') (hw : w.id = w'.id) (facet : Facet) :
    ms.methods facet = ms'.methods facet := by
  obtain ⟨c, hc, name, hplan⟩ := h.wrapper
  obtain ⟨c', hc', name', hplan'⟩ := h'.wrapper
  have hcc : c = c' := by
    rw [Store.wrapper?, hw] at hc
    exact Option.some.inj (hc.symm.trans hc')
  rw [← WrapperPlan.members_ofMembers name, ← WrapperPlan.members_ofMembers name', ← hplan,
    ← hplan', hcc]

/-- A load leaves the new wrapper class where it says. -/
theorem Loaded.wrapper? {s s' : Store} {plan : ClassPlan} {script : WrapperPlan} {l : LoadedClass}
    (h : Loaded s plan script l s') : ∃ c, s'.wrapper? l.wrapper = some c ∧ c.plan = script ∧
      c.backing = some l.backing := by
  obtain ⟨c, hc, hplan, hbacking, -⟩ := h.wrappers
  refine ⟨c, ?_, hplan, hbacking⟩
  rw [Store.wrapper?, hc, h.wrapper, Array.getElem?_push_size]

end Store

namespace Generated

variable {base : HostType} {interfaces : List HostType} {instances : Option Entries} {ms : Members}
  {l : LoadedClass} {s s' : Store}

theorem later (h : Generated base interfaces instances ms l s) (hs : s.Later s') :
    Generated base interfaces instances ms l s' := by
  obtain ⟨collect, fit, load, hlater⟩ := h
  exact ⟨collect, fit, load, hlater.trans hs⟩

theorem fit (h : Generated base interfaces instances ms l s) : ms.Fit := by
  obtain ⟨-, fit, -, -⟩ := h
  exact fit

theorem collected (h : Generated base interfaces instances ms l s) :
    CollectedFacet.CollectedFrom .instances (instances.getD []) ms.instances := by
  obtain ⟨collect, -, -, -⟩ := h
  exact CollectedFacet.collect_ok (Members.collect_ok collect).1

/-- The wrapper class keeps the members, and leads to the host side or nowhere. -/
theorem wrapper (h : Generated base interfaces instances ms l s) :
    ∃ c, s.wrapper? l.wrapper = some c ∧ (∃ name, c.plan = .ofMembers name ms) ∧
      (c.backing = some l.backing ∨ c.backing = none) := by
  obtain ⟨-, -, load, hlater⟩ := h
  obtain ⟨c, hc, hplan, hbacking⟩ := (Store.load_ok load).wrapper?
  obtain ⟨c', hc', became⟩ := hlater.extends.wrapper hc
  refine ⟨c', hc', ⟨_, became.plan.trans hplan⟩, ?_⟩
  rw [← hbacking]
  exact became.backing

theorem numbered (h : Generated base interfaces instances ms l s) : ms.Numbered := by
  obtain ⟨collect, -, -, -⟩ := h
  exact Members.numbered_of_collect collect

theorem hasMembers (h : Generated base interfaces instances ms l s) :
    s.HasMembers l.wrapper ms where
  wrapper := by
    obtain ⟨c, hc, hplan, -⟩ := h.wrapper
    exact ⟨c, hc, hplan⟩
  fit := h.fit
  numbered := h.numbered

/-- The host side is the plan of the bound overrides. -/
theorem backing (h : Generated base interfaces instances ms l s) :
    ∃ name id, l.backing = (ClassPlan.ofOverrides name base interfaces
      (.ofMembers base interfaces ms.instances)).toHostType id l.wrapper := by
  obtain ⟨-, -, load, -⟩ := h
  exact ⟨_, _, (Store.load_ok load).backing⟩

/-- A virtual lookup of a bound signature reaches its forwarding method. -/
theorem virtual?_bound (h : Generated base interfaces instances ms l s) {b : Binding}
    (hb : b ∈ (Overrides.ofMembers base interfaces ms.instances).bound) :
    l.backing.virtual? b.candidate.signature = some (l.backing, b.method) := by
  obtain ⟨name, id, hl⟩ := h.backing
  rw [hl, HostType.virtual?_generated, Overrides.binding?_of_mem hb]

/-- A method that the class declares forwards for a bound override. -/
theorem declared?_bound (h : Generated base interfaces instances ms l s) {sig : Signature}
    {m : Method} (hm : l.backing.declaredVirtual? sig = some m) :
    ∃ b ∈ (Overrides.ofMembers base interfaces ms.instances).bound, m = b.method := by
  obtain ⟨name, id, hl⟩ := h.backing
  rw [hl, HostType.declaredVirtual?_generated] at hm
  obtain ⟨b, hb, rfl⟩ := Option.map_eq_some_iff.mp hm
  exact ⟨b, (Overrides.binding?_eq_some.mp hb).1, rfl⟩

/-- A bound override names one of the instance callables, by its place and by the
key that it is written under. -/
theorem member_of_bound (h : Generated base interfaces instances ms l s) {b : Binding}
    (hb : b ∈ (Overrides.ofMembers base interfaces ms.instances).bound) :
    ∃ i m, ms.instances.methods[i]? = some m ∧ b.id = .ofIndex .instances i ∧ b.key = m.key ∧
      (instances.getD []).lookup b.key = some (.function m.function) := by
  obtain ⟨m, hm, -, hid, hkey⟩ := Overrides.member_of_bound hb
  obtain ⟨i, hi⟩ := List.mem_iff_getElem?.mp hm
  refine ⟨i, m, hi, ?_, hkey.symm, ?_⟩
  · rw [← hid, h.collected.id hi]
  · rw [← hkey]
    exact h.collected.written (List.mem_append_left _ hm)

end Generated

/-! ## Requests -/

/-- The loaded class that a static facet belongs to. -/
def StaticFacet.loaded (f : StaticFacet) : LoadedClass := ⟨f.backing, f.wrapper⟩

/-- The first stage passes where each of its checks does. -/
theorem ClassRequest.collect_ok_iff {r : ClassRequest} {registry : Registry} {base : HostType}
    {name : String} {ms : Members} : r.collect registry base name = .ok ms ↔
      checkBase base = .ok () ∧ r.interfaces.forM checkInterface = .ok () ∧
        registry.contains name = false ∧ Members.collect r.instances r.statics = .ok ms := by
  unfold ClassRequest.collect
  cases checkBase base with
  | error e => exact ⟨nofun, nofun⟩
  | ok =>
    cases r.interfaces.forM checkInterface with
    | error e => exact ⟨nofun, nofun⟩
    | ok =>
      cases registry.contains name with
      | true => exact ⟨nofun, nofun⟩
      | false => exact ⟨fun h => ⟨rfl, rfl, rfl, h⟩, fun h => h.2.2.2⟩

theorem ClassRequest.collect_ok {r : ClassRequest} {registry : Registry} {base : HostType}
    {name : String} {ms : Members} (h : r.collect registry base name = .ok ms) :
    Members.collect r.instances r.statics = .ok ms :=
  (ClassRequest.collect_ok_iff.mp h).2.2.2

/-- A request that succeeds collects members and loads the two sides that are planned
from them. -/
theorem generate_load {s s' : Store} {config : Config} {r : ClassRequest} {f : StaticFacet}
    (h : s.generate config r = (.ok f, s')) :
    ∃ ms s₀ s₁ unit name, Members.collect r.instances r.statics = .ok ms ∧
      Store.load s₀ config unit
        (ClassPair.ofMembers name (r.base.getD s.registry.object) r.interfaces ms).host
        (ClassPair.ofMembers name (r.base.getD s.registry.object) r.interfaces ms).script =
          (.ok f.loaded, s₁) ∧ s₁.Later s' := by
  unfold Store.generate at h
  dsimp only at h
  split at h
  · cases h
  next ms hcollect =>
    split at h
    · cases h
    next l s₁ hload =>
      split at h
      · cases h
      next s₂ hbind =>
        cases h
        exact ⟨ms, _, s₁, _, _, ClassRequest.collect_ok hcollect, hload,
          .tail (.single (.facet s₁ l.backing l.wrapper)) (.bind hbind)⟩

/-- The host side of a requested class is the plan of the bound overrides. -/
theorem generate_backing {s s' : Store} {config : Config} {r : ClassRequest} {f : StaticFacet}
    (h : s.generate config r = (.ok f, s')) {ms : Members}
    (hms : Members.collect r.instances r.statics = .ok ms) :
    ∃ name id, f.backing = (ClassPlan.ofOverrides name (r.base.getD s.registry.object) r.interfaces
      (.ofMembers (r.base.getD s.registry.object) r.interfaces ms.instances)).toHostType id
        f.wrapper := by
  obtain ⟨ms', s₀, s₁, unit, name, hcollect, hload, -⟩ := generate_load h
  rw [hms] at hcollect
  cases hcollect
  exact ⟨_, _, (Store.load_ok hload).backing⟩

/-- A requested class is abstract if an abstract candidate is left unbound. -/
theorem generate_isAbstract {s s' : Store} {config : Config} {r : ClassRequest} {f : StaticFacet}
    (h : s.generate config r = (.ok f, s')) {ms : Members}
    (hms : Members.collect r.instances r.statics = .ok ms) : f.backing.isAbstract =
      (Overrides.ofMembers (r.base.getD s.registry.object) r.interfaces ms.instances).isAbstract := by
  obtain ⟨name, id, hbacking⟩ := generate_backing h hms
  rw [hbacking]
  rfl

/-- A request that succeeds generates a class. -/
theorem generate_ok {s s' : Store} {config : Config} {r : ClassRequest} {f : StaticFacet}
    (h : s.generate config r = (.ok f, s')) :
    ∃ ms, Members.collect r.instances r.statics = .ok ms ∧
      (ms.Fit → Generated (r.base.getD s.registry.object) r.interfaces r.instances ms f.loaded s') := by
  obtain ⟨ms, s₀, s₁, unit, name, hcollect, hload, later⟩ := generate_load h
  exact ⟨ms, hcollect, fun fit => .mk hcollect fit hload later⟩

/-- A request only takes steps of the store, whether it is granted or refused. -/
theorem generate_later (s : Store) (config : Config) (r : ClassRequest) :
    s.Later (s.generate config r).2 := by
  unfold Store.generate
  dsimp only
  split
  · exact .single (.request s)
  next ms _ =>
    have hload := Store.Step.load { s with generations := s.generations + 1 } config
      (s.generations + 1).toNat
      (ClassPair.ofMembers (config.nameFor r.name (s.generations + 1))
        (r.base.getD s.registry.object) r.interfaces ms).host
      (ClassPair.ofMembers (config.nameFor r.name (s.generations + 1))
        (r.base.getD s.registry.object) r.interfaces ms).script
    split
    next e s₁ heq =>
      rw [heq] at hload
      exact .tail (.single (.request s)) hload
    next l s₁ heq =>
      rw [heq] at hload
      have hfacet := Store.Step.facet s₁ l.backing l.wrapper
      split
      · exact .tail (.tail (.single (.request s)) hload) hfacet
      next s₂ hbind => exact .tail (.tail (.tail (.single (.request s)) hload) hfacet) (.bind hbind)

end ScriptClass
