import ScriptClass.Proofs.Generation.Request
import ScriptClass.Proofs.Store.Chronicle
import ScriptClass.Proofs.Store.Load

/-!
# Static facets that are handed out

A generated class hands out its first static facet when it is requested, and a new one where it is
asked for one and nothing holds the last (`Store.HandsOut`). The wrapper class records the last one
without holding it, and unloading clears the record. What is recorded is always the last that was
handed out (`HandsOut.last`). In a store that `Serves` a class the record is there at least as long as
the last one is in use, so a facet that is still in use is never replaced; this is kept by all that
happens to a store.
-/

namespace ScriptClass

namespace Store

variable {s s' : Store} {L L' : Set Holding} {fs : List StaticFacet}
  {f : StaticFacet} {w : WrapperRef} {c : Wrapper} {t : HostType} {i : Nat}

/-- A new static facet is made and recorded. -/
def handNew (s : Store) (t : HostType) (w : WrapperRef) : Store :=
  (s.newFacet t w).2.updateWrapper w fun c => { c with facet := some (s.newFacet t w).1 }

theorem later_handNew (s : Store) (t : HostType) (w : WrapperRef) : s.Later (s.handNew t w) :=
  .tail (.single (.facet s t w)) (.handOut _ w _)

theorem handed?_updateWrapper_facet (s : Store) (w : WrapperRef) {g : Wrapper → Wrapper}
    (hfacet : ∀ c, (g c).facet = some f) (i : Nat) : (s.updateWrapper w g).handed? i =
      if i = w.id then s.wrappers[i]?.map fun _ => f else s.handed? i := by
  rw [handed?, updateWrapper, Array.getElem?_modify]
  by_cases hi : i = w.id
  · rw [if_pos hi.symm, if_pos hi]
    cases s.wrappers[i]? with
    | none => rfl
    | some c => exact hfacet c
  · rw [if_neg (Ne.symm hi), if_neg hi]
    rfl

theorem handed?_handNew (hc : s.wrapper? w = some c) (t : HostType) (i : Nat) :
    (s.handNew t w).handed? i =
      if i = w.id then some (s.newFacet t w).1 else s.handed? i := by
  rw [handNew, handed?_updateWrapper_facet _ _ (fun _ => rfl)]
  by_cases hi : i = w.id
  · rw [if_pos hi, if_pos hi, hi]
    exact congrArg (Option.map _) hc
  · rw [if_neg hi, if_neg hi]
    rfl

/-! ## Requests of classes -/

/-- A request that is granted binds a new static facet. -/
theorem generate_bind {config : Config} {r : ClassRequest}
    (h : s.generate config r = (.ok f, s')) :
    ∃ s₁ : Store, f.id < s₁.facets ∧ s₁.bindFacet f.wrapper f = .ok s' := by
  unfold Store.generate at h
  dsimp only at h
  split at h
  · cases h
  · split at h
    · cases h
    next l s₁ _ =>
      split at h
      · cases h
      next s₂ hbind =>
        cases h
        exact ⟨_, Nat.lt_succ_self _, hbind⟩

theorem bindFacet_handed (h : s.bindFacet w f = .ok s') (i : Nat) :
    s'.handed? i = if i = w.id then some f else s.handed? i := by
  rw [bindFacet_ok h, handed?_updateWrapper_facet _ _ (fun _ => rfl)]
  by_cases hi : i = w.id
  · rw [if_pos hi, if_pos hi, hi]
    simp only [bindFacet] at h
    split at h
    · cases h
    next c hc => exact congrArg (Option.map _) hc
  · rw [if_neg hi, if_neg hi]

theorem bindFacet_facets (h : s.bindFacet w f = .ok s') : s'.facets = s.facets := by
  rw [bindFacet_ok h]
  rfl

/-- Loading one class leaves the records of the others alone. -/
theorem load_handed (s : Store) (config : Config) (unit : Nat) (plan : ClassPlan)
    (script : WrapperPlan) (hi : i < s.wrappers.size) :
    (s.load config unit plan script).2.handed? i = s.handed? i := by
  rcases h : s.load config unit plan script with ⟨e | l, s'⟩
  · obtain ⟨registry, rfl⟩ := load_error h
    rfl
  · obtain ⟨-, -, c, registry, files, rfl, -⟩ := load_store h
    rw [handed?, Array.getElem?_push_lt hi, handed?, Array.getElem?_eq_getElem hi]

theorem load_facets (s : Store) (config : Config) (unit : Nat) (plan : ClassPlan)
    (script : WrapperPlan) : (s.load config unit plan script).2.facets = s.facets := by
  rcases h : s.load config unit plan script with ⟨e | l, s'⟩
  · obtain ⟨registry, rfl⟩ := load_error h
    rfl
  · obtain ⟨-, -, c, registry, files, rfl, -⟩ := load_store h
    rfl

/-- A request leaves the records of other classes alone. -/
theorem generate_handed (s : Store) (config : Config) (r : ClassRequest)
    (hi : i < s.wrappers.size) : (s.generate config r).2.handed? i = s.handed? i ∧
      s.facets ≤ (s.generate config r).2.facets := by
  simp only [Store.generate]
  split
  · exact ⟨rfl, Nat.le_refl _⟩
  next ms _ =>
    let plans := ClassPair.ofMembers (config.nameFor r.name (s.generations + 1))
      (r.base.getD s.registry.object) r.interfaces ms
    have hhanded := load_handed { s with generations := s.generations + 1 } config
      (s.generations + 1).toNat plans.host plans.script hi
    have hfacets := load_facets { s with generations := s.generations + 1 } config
      (s.generations + 1).toNat plans.host plans.script
    split
    next e s₁ heq =>
      rw [heq] at hhanded hfacets
      exact ⟨hhanded, hfacets.ge⟩
    next l s₁ heq =>
      have hnew : l.wrapper.id = s.wrappers.size := (load_ok heq).wrapper
      rw [heq] at hhanded hfacets
      split
      next e hbind => exact ⟨hhanded, hfacets.ge.trans (Nat.le_succ _)⟩
      next s₂ hbind =>
        refine ⟨?_, ?_⟩
        · rw [bindFacet_handed hbind, if_neg (by omega)]
          exact hhanded
        · rw [bindFacet_facets hbind]
          exact hfacets.ge.trans (Nat.le_succ _)

/-! ## What a class hands out -/

/-- A request that was granted. -/
structure Grant where
  /-- The first static facet of the class. -/
  facet : StaticFacet
  /-- What the request left. -/
  store : Store
  granted : ∃ s₀ config r, Store.generate s₀ config r = (.ok facet, store)

variable {G : Grant}

/-- The class of a granted request is there, and bound. -/
theorem Grant.wrapper (G : Grant) : G.facet.backing.wrapper? = some G.facet.wrapper ∧
    ∃ c, G.store.wrapper? G.facet.wrapper = some c ∧ c.isBound = true ∧
      (c.backing = some G.facet.backing ∨ c.backing = none) := by
  obtain ⟨s₀, config, r, hgen⟩ := G.granted
  obtain ⟨ms, s₁, s₂, unit, name, -, hload, hlater⟩ := generate_load hgen
  obtain ⟨s₃, -, hbind⟩ := generate_bind hgen
  have hloaded := load_ok hload
  refine ⟨?_, ?_⟩
  · rw [show G.facet.backing = _ from hloaded.backing]
    rfl
  · obtain ⟨c, hc, -, hbacking⟩ := hloaded.wrapper?
    obtain ⟨c', hc', became⟩ := hlater.extends.wrapper hc
    have hbound := (bindFacet_isBound hbind).2 G.facet.wrapper.id
    rw [if_pos rfl, isBound,
      show G.store.wrappers[G.facet.wrapper.id]? = some c' from hc', Option.any_some] at hbound
    exact ⟨c', hc', hbound, hbacking ▸ became.backing⟩

/-- The static facets that the class of a request has handed out, in order. -/
inductive HandsOut (G : Grant) : List StaticFacet → Store → Prop where
  | first : HandsOut G [G.facet] G.store
  | again {fs : List StaticFacet} {s : Store} {w : WrapperRef} {c : Wrapper} {t : HostType}
    (h : HandsOut G fs s) (hw : w.id = G.facet.wrapper.id) (hc : s.wrapper? w = some c)
    (ht : c.backing = some t) (hback : t.wrapper? = some w) :
    HandsOut G (fs ++ [(s.newFacet t w).1]) (s.handNew t w)
  /-- Anything else. It makes no new record for the class. -/
  | quiet {fs : List StaticFacet} {s s' : Store} (h : HandsOut G fs s) (hlater : s.Later s')
    (hfacets : s.facets ≤ s'.facets)
    (hkept : ∀ f, s'.handed? G.facet.wrapper.id = some f → s.handed? G.facet.wrapper.id = some f) :
    HandsOut G fs s'

namespace HandsOut

theorem later (h : HandsOut G fs s) : G.store.Later s := by
  induction h with
  | first => exact .refl
  | again h hw hc ht hback ih => exact ih.trans (later_handNew _ _ _)
  | quiet h hlater hfacets hkept ih => exact ih.trans hlater

/-- The class has its wrapper class, which stays bound and leads to its host side or nowhere. -/
theorem wrapper (h : HandsOut G fs s) : ∃ c, s.wrapper? G.facet.wrapper = some c ∧
    c.isBound = true ∧ (c.backing = some G.facet.backing ∨ c.backing = none) := by
  obtain ⟨-, c, hc, hbound, hbacking⟩ := G.wrapper
  obtain ⟨c', hc', became⟩ := h.later.extends.wrapper hc
  refine ⟨c', hc', became.isBound hbound, ?_⟩
  rcases became.backing with heq | hnone
  · rwa [heq]
  · exact .inr hnone

theorem id_lt_size (h : HandsOut G fs s) : G.facet.wrapper.id < s.wrappers.size := by
  obtain ⟨c, hc, -⟩ := h.wrapper
  exact (Array.getElem?_eq_some_iff.mp hc).1

/-- What the wrapper class leads to is the host side that was requested. -/
theorem backing_eq (h : HandsOut G fs s) (hw : w.id = G.facet.wrapper.id)
    (hc : s.wrapper? w = some c) (ht : c.backing = some t) (hback : t.wrapper? = some w) :
    t = G.facet.backing ∧ w = G.facet.wrapper := by
  obtain ⟨c', hc', -, hbacking⟩ := h.wrapper
  rw [wrapper?, hw] at hc
  cases hc.symm.trans hc'
  rcases hbacking with hbacking | hnone
  · cases ht.symm.trans hbacking
    exact ⟨rfl, Option.some.inj (hback.symm.trans G.wrapper.1)⟩
  · cases ht.symm.trans hnone

/-- What the class has handed out are static facets of its own. -/
theorem facet (h : HandsOut G fs s) {g : StaticFacet} (hg : g ∈ fs) :
    g.id < s.facets ∧ g.loaded = G.facet.loaded := by
  induction h with
  | first =>
    cases List.mem_singleton.mp hg
    obtain ⟨s₀, config, r, hgen⟩ := G.granted
    obtain ⟨s₁, hlt, hbind⟩ := generate_bind hgen
    rw [bindFacet_facets hbind]
    exact ⟨hlt, rfl⟩
  | again h hw hc ht hback ih =>
    rcases List.mem_append.mp hg with hg | hg
    · exact ⟨Nat.lt_succ_of_lt (ih hg).1, (ih hg).2⟩
    · cases List.mem_singleton.mp hg
      obtain ⟨rfl, rfl⟩ := h.backing_eq hw hc ht hback
      exact ⟨Nat.lt_succ_self _, rfl⟩
  | quiet h hlater hfacets hkept ih => exact ⟨Nat.lt_of_lt_of_le (ih hg).1 hfacets, (ih hg).2⟩

/-- What is recorded was handed out last. -/
theorem last (h : HandsOut G fs s) (hf : s.handed? G.facet.wrapper.id = some f) :
    fs.getLast? = some f := by
  induction h with
  | first =>
    obtain ⟨s₀, config, r, hgen⟩ := G.granted
    obtain ⟨s₁, -, hbind⟩ := generate_bind hgen
    rw [bindFacet_handed hbind, if_pos rfl] at hf
    exact hf
  | again h hw hc ht hback ih =>
    rw [handed?_handNew hc, if_pos hw.symm] at hf
    rw [List.getLast?_concat]
    exact hf
  | quiet h hlater hfacets hkept ih => exact ih (hkept f hf)

end HandsOut

/-! ## Stores that serve a class -/

/-- The class has handed out these static facets. While the last one is in use it is recorded. -/
structure Serves (s : Store) (G : Grant) (fs : List StaticFacet) (L : Set Holding) : Prop where
  sound : s.Sound L
  history : HandsOut G fs s
  last {f : StaticFacet} :
    fs.getLast? = some f → .facet f ∈ L → s.handed? G.facet.wrapper.id = some f

/-- A wrapper class in use leads to a host side in use that leads to it. -/
theorem Sound.backed (hs : s.Sound L) (hw : .wrapper w ∈ L) (hc : s.wrapper? w = some c)
    (ht : c.backing = some t) : .type t ∈ L ∧ t.wrapper? = some w := by
  have hled : s.backing? w.id = some t := by
    rw [backing?, show s.wrappers[w.id]? = some c from hc]
    exact ht
  obtain ⟨hmem, w', hw', hid⟩ := hs.backing _ _ hled
  cases hs.heap.single (hs.wrapper hmem hw') hw (congrArg Holding.Key.wrapper hid)
  exact ⟨hmem, hw'⟩

namespace Serves

/-- The class was just requested. -/
theorem first (hs : G.store.Sound L) : G.store.Serves G [G.facet] L where
  sound := hs
  history := .first
  last {g} hg _ := by
    cases hg
    obtain ⟨s₀, config, r, hgen⟩ := G.granted
    obtain ⟨s₁, -, hbind⟩ := generate_bind hgen
    rw [bindFacet_handed hbind]
    exact if_pos rfl

/-- Nothing was handed out by the class. The static facets that come into use are new. -/
theorem quiet (h : s.Serves G fs L) (hs : s'.Sound L') (hlater : s.Later s')
    (hfacets : s.facets ≤ s'.facets)
    (hhanded : s'.handed? G.facet.wrapper.id = s.handed? G.facet.wrapper.id)
    (hL : ∀ f, .facet f ∈ L' → .facet f ∈ L ∨ s.facets ≤ f.id) : s'.Serves G fs L' where
  sound := hs
  history := h.history.quiet hlater hfacets fun f hf => hhanded ▸ hf
  last {f} hf hmem := by
    rw [hhanded]
    rcases hL f hmem with hmem | hnew
    · exact h.last hf hmem
    · have hlt := (h.history.facet (List.mem_of_getLast? hf)).1
      omega

/-- The store grows, and no static facet comes into use. -/
theorem grow {xs : List Holding} (h : s.Serves G fs L) (hs : s'.Sound L') (hstep : s.Step s')
    (hg : s.Grows s' xs) (hL : ∀ f, .facet f ∈ L' → .facet f ∈ L) : s'.Serves G fs L' :=
  h.quiet hs (.single hstep) hg.facets (congrFun hg.handed _) fun f hf => .inl (hL f hf)

theorem roots (h : s.Serves G fs L) (roots : List Holding) :
    Store.Serves { s with roots } G fs L :=
  h.grow (h.sound.grow (grows_roots s roots) (.nil _)) (.roots s roots) (grows_roots s roots)
    fun _ => id

theorem contexts (h : s.Serves G fs L) (contexts : Contexts) :
    Store.Serves { s with contexts } G fs L :=
  h.grow (h.sound.grow (grows_contexts s contexts) (.nil _)) (.contexts s contexts)
    (grows_contexts s contexts) fun _ => id

/-- A new static facet, of this class or of another one. -/
theorem hand (h : s.Serves G fs L) (hw : .wrapper w ∈ L) (hc : s.wrapper? w = some c)
    (ht : c.backing = some t) :
    (s.handNew t w).Serves G
      (if w.id = G.facet.wrapper.id then fs ++ [(s.newFacet t w).1] else fs)
      (insert (.facet (s.newFacet t w).1) L) := by
  obtain ⟨hmem, hwrapper⟩ := h.sound.backed hw hc ht
  have hsound : (s.handNew t w).Sound (insert (.facet (s.newFacet t w).1) L) :=
    (h.sound.newFacet hmem hwrapper).handOut w (.inl rfl) (fun _ => rfl) (fun _ => rfl) fun _ => rfl
  by_cases hid : w.id = G.facet.wrapper.id
  · rw [if_pos hid]
    refine ⟨hsound, h.history.again hid hc ht hwrapper, fun {f} hf _ => ?_⟩
    rw [List.getLast?_concat] at hf
    rw [handed?_handNew hc, if_pos hid.symm, hf]
  · rw [if_neg hid]
    refine h.quiet hsound (later_handNew s t w) (Nat.le_succ _) ?_ fun f hf => ?_
    · rw [handed?_handNew hc, if_neg (Ne.symm hid)]
    · rcases hf with hf | hf
      · cases hf
        exact .inr (Nat.le_refl _)
      · exact .inl hf

/-- The class is bound, so a static facet can only be bound to another one. -/
theorem bind (h : s.Serves G fs L) (hf : .facet f ∈ L) (hbind : s.bindFacet w f = .ok s') :
    s'.Serves G fs L := by
  obtain ⟨c, hc, hbound, -⟩ := h.history.wrapper
  have hother : G.facet.wrapper.id ≠ w.id := by
    intro hid
    have hfree := (bindFacet_isBound hbind).1
    rw [← hid, isBound, show s.wrappers[G.facet.wrapper.id]? = some c from hc] at hfree
    exact Bool.false_ne_true (hfree.symm.trans hbound)
  refine h.quiet (h.sound.bindFacet hf hbind) (.single (.bind hbind)) (bindFacet_facets hbind).ge ?_
    fun _ => .inl
  rw [bindFacet_handed hbind, if_neg hother]

/-- What roots do not reach is unloaded, and no longer in use. -/
theorem settle (h : s.Serves G fs L) {roots : List Holding} (hroots : InUse L roots)
    (hregistry : ∀ r ∈ s.registryRoots, r ∈ roots) :
    (s.unload (s.reach roots)).Serves G fs {x | s.Reaches roots x} where
  sound := h.sound.settle hroots hregistry
  history := h.history.quiet (.single (.unload s _)) (Nat.le_refl _) fun f hf => by
    rw [handed?_unload, Option.filter_eq_some_iff] at hf
    exact hf.1
  last {f} hf hreach := by
    have hmem : .facet f ∈ L := h.sound.heap.mem_of_reaches hroots hreach
    have hkept : (s.reach roots).contains (Holding.Key.facet f.id) = true :=
      List.contains_iff_mem.mpr ((h.sound.heap.key_mem_reach hroots hmem).mpr hreach)
    rw [handed?_unload, h.last hf hmem, Option.filter_some, if_pos hkept]

end Serves

end Store

end ScriptClass
