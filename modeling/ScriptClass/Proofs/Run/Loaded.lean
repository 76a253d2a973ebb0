import ScriptClass.Proofs.Run.Rules
import ScriptClass.Proofs.Store.Sound

/-!
# Code in use never misses what was unloaded

Sound stores make up a regime (`Regime.loaded`). In it no code fails because something is
unloaded: the only changes that can fail so go from a wrapper class to its host side, and code
goes through a wrapper class only where the class is `Housed`, that is, where its host side is
in use.
-/

namespace ScriptClass

/-- The host side of the wrapper class is in use. -/
def Housed (L : Set Holding) (w : WrapperRef) : Prop := ∃ t, .type t ∈ L ∧ t.wrapper? = some w

namespace Store.Sound

variable {s s' : Store} {L : Set Holding} {w : WrapperRef} {c : Wrapper}

theorem housed_pair (hs : s.Sound L) {p : Pair} (hp : .pair p ∈ L) : Housed L p.wrapper :=
  ⟨p.type, hs.pair hp⟩

theorem housed_facet (hs : s.Sound L) {f : StaticFacet} (hf : .facet f ∈ L) : Housed L f.wrapper :=
  ⟨f.backing, hs.facet hf⟩

/-- A housed wrapper class leads to its host side. -/
theorem backing_of_housed (hs : s.Sound L) (hw : Housed L w) (hc : s.wrapper? w = some c) :
    ∃ t, c.backing = some t ∧ .type t ∈ L ∧ t.wrapper? = some w := by
  obtain ⟨t, ht, hwrapper⟩ := hw
  have hled : s.backing? w.id = some t := hs.tied _ ht w hwrapper
  rw [Store.backing?, show s.wrappers[w.id]? = some c from hc] at hled
  exact ⟨t, hled, ht, hwrapper⟩

theorem makes (hs : s.Sound L) {p : Pair} {args : List ScriptValue} (hw : Housed L p.wrapper)
    (h : s.Makes c args p s') : s'.Sound (insert (.pair p) L) := by
  obtain ⟨t, hbacking, ht, hwrapper⟩ := hs.backing_of_housed hw h.wrapper
  cases hbacking.symm.trans h.admits.backing
  have hprototype : InUse L c.plan.prototype.holdings := by
    intro x hx
    refine hs.heap.closed _ (hs.wrapper ht hwrapper) x ((held_wrapper _).mpr ⟨c, h.wrapper, ?_⟩)
    exact List.mem_append_left _ (List.mem_append_right _ hx)
  have hnew : (s.newPair p.type p.wrapper ⟨p.type.startCounter, c.plan.prototype⟩).2.Sound
      (insert (.pair (s.newPair p.type p.wrapper ⟨p.type.startCounter, c.plan.prototype⟩).1) L) :=
    hs.newPair ht hwrapper hprototype
  rw [h.new] at hnew
  exact hnew

end Store.Sound

/-- Sound stores, in which nothing in use is unloaded. -/
def Regime.loaded : Regime where
  Fit := Store.Sound
  Home := Housed
  Fails e := e.isUnloaded = false
  closed hs hh hx := hs.heap.closed _ hh _ hx
  home_mono hsub := by
    rintro ⟨t, ht, hw⟩
    exact ⟨t, hsub _ ht, hw⟩
  home_type _ ht hw := ⟨_, ht, HostType.wrapper?_eq_some.mpr hw⟩
  home_pair hs := hs.housed_pair
  home_facet hs := hs.housed_facet
  home_wrapper := by
    rintro s L w hs ⟨t, ht, hw⟩
    exact hs.wrapper ht hw
  handed {s L w c f} hs _ hc hf := by
    refine hs.handed w.id f ?_
    rw [Store.handed?, show s.wrappers[w.id]? = some c from hc]
    exact hf
  ordinary := id
  missing hs hw hc := by
    obtain ⟨c, hc'⟩ := hs.wrapper?_of_mem hw
    rw [hc] at hc'
    cases hc'
  unbacked hs hw hc hnone := by
    obtain ⟨t, ht, -⟩ := hs.backing_of_housed hw hc
    rw [hnone] at ht
    cases ht
  function name arity hs hcode :=
    ⟨_, fun _ => .inr, hs.newFunction hcode name arity, .inl rfl⟩
  plain t counter hs := hs.grow (Store.grows_plain _ t counter) (.nil _)
  make hs hw _ h := ⟨_, fun _ => .inr, hs.makes hw h, .inl rfl⟩
  hand {s L w c t} hs hw hc ht := by
    obtain ⟨u, hu, hmem, hwrapper⟩ := hs.backing_of_housed hw hc
    cases ht.symm.trans hu
    have hnew := hs.newFacet hmem hwrapper
    exact ⟨_, fun _ => .inr, .inl rfl,
      hnew.handOut w (.inl rfl) (fun _ => rfl) (fun _ => rfl) fun _ => rfl⟩
  put hs _ hv h := hs.grow (Store.grows_putProperty h) hv
  counter v o hs := hs.grow (Store.grows_setCounter _ v o) (.nil _)
  count name hs := hs.grow (Store.grows_advance _ name) (.nil _)
  contexts contexts hs := hs.grow (Store.grows_contexts _ contexts) (.nil _)
  roots roots hs := hs.grow (Store.grows_roots _ roots) (.nil _)

end ScriptClass
