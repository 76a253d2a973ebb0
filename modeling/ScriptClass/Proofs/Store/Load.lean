import ScriptClass.Proofs.Generation.Success
import ScriptClass.Proofs.Store.Sound

/-!
# Loading into a sound store

Loading brings the two sides of a class into use: the wrapper class first, then the host
type, which is led to and listed at once (`Sound.tie`). A load or a request that is refused
brings nothing into use. Both keep a store sound (`Sound.load`, `Sound.generate`), and the
fresh store is (`sound_initial`).
-/

namespace ScriptClass

/-! ## What requests hold -/

namespace CollectedFacet

variable {ms ms' : CollectedFacet} {x : Holding}

/-- What the callables and the data of a facet hold. -/
def holdings (ms : CollectedFacet) : List Holding :=
  ms.callables.map (fun m => .function m.function.id) ++ ms.properties.holdings

theorem mem_holdings : x ∈ ms.holdings ↔
    (∃ m ∈ ms.callables, x = .function m.function.id) ∨ ∃ e ∈ ms.properties, x ∈ e.2.holdings := by
  rw [holdings, List.mem_append, List.mem_map, Entries.mem_holdings]
  simp only [eq_comm (a := x)]

theorem Adds.properties {entry : String × ScriptValue} (h : ms.Adds entry ms')
    {e : String × ScriptValue} (he : e ∈ ms'.properties) : e ∈ ms.properties ∨ e = entry := by
  cases h with
  | property => simpa using he
  | _ => exact .inl he

theorem Adds.holdings {entry : String × ScriptValue} (h : ms.Adds entry ms')
    (hx : x ∈ ms'.holdings) : x ∈ ms.holdings ∨ x ∈ entry.2.holdings := by
  rcases mem_holdings.mp hx with ⟨m, hm, rfl⟩ | ⟨e, he, hx⟩
  · rcases h.callables hm with hm | rfl
    · exact .inl (mem_holdings.mpr (.inl ⟨m, hm, rfl⟩))
    · exact .inr List.mem_cons_self
  · rcases h.properties he with he | rfl
    · exact .inl (mem_holdings.mpr (.inr ⟨e, he, hx⟩))
    · exact .inr hx

theorem holdings_foldlM (entries : Entries)
    (h : entries.foldlM CollectedFacet.add ms = .ok ms') (hx : x ∈ ms'.holdings) :
    x ∈ ms.holdings ∨ x ∈ entries.holdings := by
  induction entries generalizing ms with
  | nil =>
    cases h
    exact .inl hx
  | cons e es ih =>
    rw [List.foldlM_cons] at h
    cases hadd : ms.add e with
    | error fault =>
      rw [hadd] at h
      cases h
    | ok next =>
      rw [hadd] at h
      rcases ih h with hx | hx
      · rcases (adds_of_add hadd).holdings hx with hx | hx
        · exact .inl hx
        · exact .inr (Entries.mem_holdings.mpr ⟨e, List.mem_cons_self, hx⟩)
      · obtain ⟨e', he', hx⟩ := Entries.mem_holdings.mp hx
        exact .inr (Entries.mem_holdings.mpr ⟨e', List.mem_cons_of_mem _ he', hx⟩)

/-- A collected facet holds what its entries hold. -/
theorem holdings_collect {facet : Facet} {entries : Option Entries}
    (h : collect facet entries = .ok ms) (hx : x ∈ ms.holdings) :
    x ∈ Entries.holdings (entries.getD []) := by
  rcases holdings_foldlM _ h hx with hempty | hx
  · cases hempty
  · exact hx

end CollectedFacet

/-- What a request holds: its types and the entries of the implementation. -/
def ClassRequest.holdings (r : ClassRequest) : List Holding :=
  (r.base.toList ++ r.interfaces).map .type ++ Entries.holdings (r.instances.getD []) ++
    Entries.holdings (r.statics.getD [])

theorem WrapperPlan.holdings_ofMembers {name : String} {instances statics : Option Entries}
    {ms : Members} (h : Members.collect instances statics = .ok ms) {x : Holding}
    (hx : x ∈ (WrapperPlan.ofMembers name ms).holdings) :
    x ∈ Entries.holdings (instances.getD []) ∨ x ∈ Entries.holdings (statics.getD []) := by
  obtain ⟨hi, hs⟩ := Members.collect_ok h
  have hparts : x ∈ ms.instances.holdings ∨ x ∈ ms.statics.holdings := by
    simp only [CollectedFacet.mem_holdings, CollectedFacet.callables, List.mem_append]
    rcases List.mem_append.mp hx with hx | hx
    · rcases List.mem_append.mp hx with hx | hx
      · obtain ⟨m, hm, rfl⟩ := List.mem_map.mp hx
        rcases List.mem_append.mp hm with hm | hm
        · rcases List.mem_append.mp hm with hm | hm
          · exact .inl (.inl ⟨m, .inl hm, rfl⟩)
          · exact .inr (.inl ⟨m, .inl hm, rfl⟩)
        · exact .inl (.inl ⟨m, .inr hm, rfl⟩)
      · exact .inl (.inr (Entries.mem_holdings.mp hx))
    · exact .inr (.inr (Entries.mem_holdings.mp hx))
  exact hparts.imp (CollectedFacet.holdings_collect hi) (CollectedFacet.holdings_collect hs)

namespace Store

variable {s s' : Store} {L : Set Holding}

/-! ## Loading -/

/-- A weak registration either lists the type under a free name or is refused. -/
theorem Lists.registerWeakly {r : Registry} (h : Lists r L) (t : HostType) :
    (∃ e r', r.registerWeakly t = (.error e, r') ∧ Lists r' L) ∨
      r.registerWeakly t = (.ok (), r.purge.insert t (.generated (some t))) ∧
        r.purge.liveTypes t.name = none := by
  cases hfault : Registry.fault? t with
  | some fault => exact .inl ⟨_, _, Registry.registerWeakly_of_fault hfault, h⟩
  | none =>
    cases hname : r.purge.liveTypes t.name with
    | some l => exact .inl ⟨_, _, Registry.registerWeakly_of_taken hfault hname, h.purge⟩
    | none => exact .inr ⟨Registry.registerWeakly_of_free hfault hname, rfl⟩

namespace Sound

/-- Only the registry changes, and lists the same things. -/
theorem relist (hs : s.Sound L) {r : Registry} (hr : Lists r L) :
    Store.Sound { s with registry := r } L where
  heap := hs.heap.fill { Grows.refl s [] with } (.nil _)
  tied := fun h hh => (hs.tied h hh).congr rfl
  backing := hs.backing
  handed := hs.handed
  lists := hr

/-- Registering a host type that inherits from no generated one. -/
theorem register (hs : s.Sound L) {t : HostType}
    (ht : .type t ∈ L) (hplain : t.Plain) : (s.register t).2.Sound L := by
  rw [Store.register]
  cases hfault : Registry.fault? t with
  | some fault =>
    rw [Registry.register_of_fault hfault]
    exact hs
  | none =>
    cases hname : s.registry.liveTypes t.name with
    | some l =>
      rw [Registry.register_of_taken hfault hname]
      exact hs
    | none =>
      rw [Registry.register_of_free hfault hname]
      exact hs.relist (hs.lists.register ht hplain hname)

/-- Binding a static facet in use. -/
theorem bindFacet (hs : s.Sound L) {w : WrapperRef}
    {f : StaticFacet} (hf : .facet f ∈ L) (h : s.bindFacet w f = .ok s') : s'.Sound L := by
  rw [bindFacet_ok h]
  exact hs.handOut w hf (fun _ => rfl) (fun _ => rfl) fun _ => rfl

theorem newWrapper (hs : s.Sound L) {plan : WrapperPlan} (hplan : InUse L plan.holdings)
    (backingName : String) (isAbstract : Bool) :
    (s.newWrapper { plan, backingName, isAbstract }).2.Sound
      (insert (.wrapper (s.newWrapper { plan, backingName, isAbstract }).1) L) := by
  refine hs.join (grows_wrapper s plan backingName isAbstract) hplan (Nat.lt_irrefl _) ?_ ?_
    trivial fun t ht => by cases ht
  · simp [Has, Holding.key, Store.newWrapper]
  · intro x hx
    obtain ⟨c, hc, -⟩ := (held_wrapper _).mp hx
    simp [Store.newWrapper] at hc

/-- A load that succeeds brings both sides of the class into use, and no static facet. -/
theorem loads (hs : s.Sound L) {plan : ClassPlan} {script : WrapperPlan}
    (hsuper : .type plan.superclass ∈ L) (hinterfaces : ∀ i ∈ plan.interfaces, .type i ∈ L)
    (hscript : InUse L script.holdings) (config : Config) (unit : Nat) :
    ∃ L', (∀ x ∈ L, x ∈ L') ∧ (∀ f, .facet f ∈ L' → .facet f ∈ L) ∧
      (s.load config unit plan script).2.Sound L' ∧
      ∀ l, (s.load config unit plan script).1 = .ok l →
        .type l.backing ∈ L' ∧ l.backing.wrapper? = some l.wrapper := by
  let w : WrapperRef := ⟨s.wrappers.size, script.name, plan.name⟩
  let t := plan.toHostType s.declarations w
  simp only [Store.load, Store.newWrapper, Store.newType]
  rcases hs.lists.registerWeakly t with ⟨e, r, hreg, hr⟩ | ⟨hreg, hfree⟩
  · have hrefused : s.registerWeakly t = (.error e, { s with registry := r }) := by
      rw [Store.registerWeakly, hreg]
    rw [show s.registerWeakly (plan.toHostType s.declarations w) = _ from hrefused]
    cases e with
    | _ => exact ⟨L, fun _ => id, fun _ => id, hs.relist hr, fun l hl => by cases hl⟩
  · have hgranted : s.registerWeakly t =
        (.ok (), { s with registry := s.registry.purge.insert t (.generated (some t)) }) := by
      rw [Store.registerWeakly, hreg]
    rw [show s.registerWeakly (plan.toHostType s.declarations w) = _ from hgranted]
    dsimp only
    have hs₀ := hs.newWrapper hscript plan.name plan.isAbstract
    split
    next e hbind =>
      -- the wrapper class was made just before
      obtain ⟨hbound, -⟩ := bindBacking_error hbind Array.getElem?_push_size
      cases hbound
    next s₁ hbind =>
      have htied : s₁.Sound (insert (.type t) (insert (.wrapper w) L)) := by
        rw [bindBacking_ok hbind]
        refine hs₀.tie rfl rfl (.inl rfl) ?_ (fun x hx => ?_) ?_ rfl (fun _ => rfl) (fun _ => rfl)
          fun _ => rfl
        · rw [(grows_wrapper s script plan.name plan.isAbstract).backing, backing?]
          simp [Store.newWrapper]
        · rcases mem_heldByType.mp hx with ⟨u, hu, rfl⟩ | ⟨w', hw', rfl⟩ | ⟨m, hm, id, code, hid, -⟩
          · rcases hu with hu | hu
            · cases hu
              exact .inr hsuper
            · exact .inr (hinterfaces u hu)
          · cases hw'
            exact .inl rfl
          · obtain ⟨o, -, rfl⟩ := List.mem_map.mp hm
            cases hid
        · have hjoined : Lists s.registry.purge (insert (.wrapper w) L) :=
            hs.lists.purge.join fun t ht => by cases ht
          exact hjoined.enter ⟨w, rfl⟩ hfree
      refine ⟨insert (.type t) (insert (.wrapper w) L), fun _ hx => .inr (.inr hx), fun f hf => ?_,
        ?_, fun l hl => ?_⟩
      · rcases hf with hf | hf | hf
        · cases hf
        · cases hf
        · exact hf
      · have hwritten : Store.Sound (if config.development = true then
            s₁.writeListing config.listingDir (listingFile plan.superclass.simpleName unit)
              (listingText unit plan script)
            else (none, s₁)).2 (insert (.type t) (insert (.wrapper w) L)) := by
          split
          · exact htied.grow (grows_writeListing _ _ _ _) (.nil _)
          · exact htied
        exact hwritten.grow (grows_updateWrapper _ _ (fun _ => rfl) (fun _ => rfl) fun _ => rfl) (.nil _)
      · cases hl
        exact ⟨.inl rfl, rfl⟩

theorem load (hs : s.Sound L) {plan : ClassPlan} {script : WrapperPlan}
    (hsuper : .type plan.superclass ∈ L) (hinterfaces : ∀ i ∈ plan.interfaces, .type i ∈ L)
    (hscript : InUse L script.holdings) (config : Config) (unit : Nat) :
    ∃ L', (∀ x ∈ L, x ∈ L') ∧ (s.load config unit plan script).2.Sound L' ∧
      ∀ l, (s.load config unit plan script).1 = .ok l →
        .type l.backing ∈ L' ∧ l.backing.wrapper? = some l.wrapper := by
  obtain ⟨L', hsub, -, hs', hclass⟩ := hs.loads hsuper hinterfaces hscript config unit
  exact ⟨L', hsub, hs', hclass⟩

/-- A request that is granted brings its static facet into use, which is new. -/
theorem generates (hs : s.Sound L) {r : ClassRequest} (hr : InUse L r.holdings)
    (config : Config) : ∃ L', (∀ x ∈ L, x ∈ L') ∧
      (∀ f, .facet f ∈ L' → .facet f ∈ L ∨ f.id = s.facets) ∧
      (s.generate config r).2.Sound L' ∧
      ∀ f, (s.generate config r).1 = .ok f → .facet f ∈ L' := by
  have hs₀ := hs.grow (grows_request s (s.generations + 1)) (.nil _)
  have hbase : .type (r.base.getD s.registry.object) ∈ L := by
    cases hb : r.base with
    | none => exact hs.lists.object.1
    | some t => exact hr _ (by simp [ClassRequest.holdings, hb])
  have hinterfaces : ∀ i ∈ r.interfaces, .type i ∈ L := fun i hi =>
    hr _ (by simp [ClassRequest.holdings, hi])
  simp only [Store.generate]
  split
  · exact ⟨L, fun _ => id, fun _ => .inl, hs₀, fun f hf => by cases hf⟩
  next ms hcollect =>
    let plans := ClassPair.ofMembers (config.nameFor r.name (s.generations + 1))
      (r.base.getD s.registry.object) r.interfaces ms
    have hscript : ∀ x ∈ plans.script.holdings, x ∈ L := by
      intro x hx
      rcases WrapperPlan.holdings_ofMembers (ClassRequest.collect_ok hcollect) hx with hx | hx
      · exact hr x (by simp [ClassRequest.holdings, hx])
      · exact hr x (by simp [ClassRequest.holdings, hx])
    obtain ⟨L₁, hsub, hold, hload, hclass⟩ := hs₀.loads
      (show .type plans.host.superclass ∈ L from hbase) hinterfaces hscript config
      (s.generations + 1).toNat
    split
    next e s₁ heq =>
      rw [heq] at hload
      exact ⟨L₁, hsub, fun f hf => .inl (hold f hf), hload, fun f hf => by cases hf⟩
    next l s₁ heq =>
      have hnumber : s₁.facets = s.facets := by
        obtain ⟨-, -, c, registry, files, rfl, -⟩ := load_store heq
        rfl
      rw [heq] at hload hclass
      obtain ⟨hbacking, hwrapper⟩ := hclass l rfl
      have hfacet := hload.newFacet hbacking hwrapper
      have hnew (f : StaticFacet) (hf : .facet f ∈
          insert (.facet (s₁.newFacet l.backing l.wrapper).1) L₁) :
          .facet f ∈ L ∨ f.id = s.facets := by
        rcases hf with hf | hf
        · cases hf
          exact .inr hnumber
        · exact .inl (hold f hf)
      split
      next e hbind =>
        exact ⟨_, fun x hx => .inr (hsub x hx), hnew, hfacet, fun f hf => by cases hf⟩
      next s₂ hbind =>
        refine ⟨_, fun x hx => .inr (hsub x hx), hnew, hfacet.bindFacet (.inl rfl) hbind,
          fun f hf => ?_⟩
        cases hf
        exact .inl rfl

theorem generate (hs : s.Sound L) {r : ClassRequest} (hr : InUse L r.holdings)
    (config : Config) : ∃ L', (∀ x ∈ L, x ∈ L') ∧ (s.generate config r).2.Sound L' ∧
      ∀ f, (s.generate config r).1 = .ok f → .facet f ∈ L' := by
  obtain ⟨L', hsub, -, hs', hfacet⟩ := hs.generates hr config
  exact ⟨L', hsub, hs', hfacet⟩

end Sound

/-! ## The fresh store -/

theorem plain_rootClass : rootClass.Plain := by
  intro u hu
  rcases hu.cases_head with rfl | ⟨v, hv, -⟩
  · rintro ⟨w, hw⟩
    cases hw
  · rcases hv with hv | hv <;> cases hv

theorem plain_stringClass : stringClass.Plain := by
  intro u hu
  rcases hu.cases_head with rfl | ⟨v, hv, hrest⟩
  · rintro ⟨w, hw⟩
    cases hw
  · rcases hv with hv | hv <;> cases hv
    exact plain_rootClass u hrest

/-- The built-in classes are in use from the beginning. -/
theorem sound_initial : Store.initial.Sound {.type rootClass, .type stringClass} where
  heap := by
    refine ⟨?_, ?_, ?_⟩
    · rintro h (rfl | rfl) x hx
      · cases (show x ∈ [] from hx)
      · exact .inl (List.mem_singleton.mp (show x ∈ [.type rootClass] from hx))
    · rintro h (rfl | rfl)
      · exact (by decide : 0 < 2)
      · exact (by decide : 1 < 2)
    · rintro h (rfl | rfl) h' (rfl | rfl) hkey
      · rfl
      · cases hkey
      · cases hkey
      · rfl
  tied := by
    rintro h (rfl | rfl) w hw
    · cases hw
    · cases hw
  backing i t ht := by cases ht
  handed i f hf := by cases hf
  lists := by
    have hempty : Lists { object := rootClass, string := stringClass, entries := [], byHash := [] }
        {.type rootClass, .type stringClass} := by
      refine ⟨?_, nofun, nofun, ⟨.inl rfl, plain_rootClass⟩, ⟨.inr rfl, plain_stringClass⟩, .nil⟩
      rintro t (ht | ht) ⟨w, hw⟩
      · cases ht
        cases hw
      · cases ht
        cases hw
    exact (hempty.register (.inl rfl) plain_rootClass rfl).register (.inr rfl) plain_stringClass rfl

end Store

end ScriptClass
