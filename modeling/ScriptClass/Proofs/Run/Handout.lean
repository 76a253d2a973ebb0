import ScriptClass.Proofs.Run.Loaded
import ScriptClass.Proofs.Store.Handout

/-!
# Runs never replace a static facet in use

The stores that serve a class make up a regime (`Regime.serves`): whatever code does, and however it
ends, the class has handed out what it had, and perhaps more static facets (`Store.ServesOn`), and
while the last of them is in use it is recorded. Code may go through any wrapper class in use, also
through one whose host side is gone.
-/

namespace ScriptClass

namespace Store

variable {s s' : Store} {L L' : Set Holding} {G : Grant} {told : List StaticFacet}
  {w : WrapperRef} {c : Wrapper}

/-- The class has handed out these static facets, and perhaps others since. -/
def ServesOn (G : Grant) (told : List StaticFacet) (s : Store) (L : Set Holding) : Prop :=
  ∃ fs, s.Serves G (told ++ fs) L

namespace ServesOn

theorem sound (hs : ServesOn G told s L) : s.Sound L := hs.elim fun _ h => h.sound

theorem grow {xs : List Holding} (hs : ServesOn G told s L) (hs' : s'.Sound L') (hstep : s.Step s')
    (hg : s.Grows s' xs) (hL : ∀ f, .facet f ∈ L' → .facet f ∈ L) : ServesOn G told s' L' :=
  hs.imp fun _ h => h.grow hs' hstep hg hL

/-- Nothing comes into use. -/
theorem fill {xs : List Holding} (hs : ServesOn G told s L) (hstep : s.Step s')
    (hg : s.Grows s' xs) (hxs : InUse L xs) : ServesOn G told s' L :=
  hs.grow (hs.sound.grow hg hxs) hstep hg fun _ => id

theorem hand {t : HostType} (hs : ServesOn G told s L) (hw : .wrapper w ∈ L)
    (hc : s.wrapper? w = some c) (ht : c.backing = some t) :
    ServesOn G told (s.handNew t w) (insert (.facet (s.newFacet t w).1) L) := by
  obtain ⟨fs, h⟩ := hs
  have hnew := h.hand hw hc ht
  split at hnew
  · exact ⟨fs ++ [(s.newFacet t w).1], by rwa [← List.append_assoc]⟩
  · exact ⟨fs, hnew⟩

theorem make {args : List ScriptValue} {p : Pair} (hs : ServesOn G told s L)
    (hw : .wrapper p.wrapper ∈ L) (h : s.Makes c args p s') :
    ServesOn G told s' (insert (.pair p) L) := by
  obtain ⟨ht, hwrapper⟩ := hs.sound.backed hw h.wrapper h.admits.backing
  have hsound := hs.sound.makes ⟨_, ht, hwrapper⟩ h
  rw [h.store_eq] at hsound ⊢
  let state : PairState := ⟨p.type.startCounter, c.plan.prototype⟩
  exact hs.grow hsound (.pair s p.type p.wrapper state) (grows_pair s p.type p.wrapper state)
    fun f hf => hf.resolve_left nofun

end ServesOn

end Store

open Store in
/-- The stores in which the class has handed out these static facets, and perhaps others since. -/
def Regime.serves (G : Grant) (told : List StaticFacet) : Regime where
  Fit := ServesOn G told
  Home L w := .wrapper w ∈ L
  Fails _ := True
  closed hs hh hx := hs.sound.heap.closed _ hh _ hx
  home_mono hsub hw := hsub _ hw
  home_type hs ht hw := hs.sound.wrapper ht (HostType.wrapper?_eq_some.mpr hw)
  home_pair hs hp :=
    have ⟨ht, hw⟩ := hs.sound.pair hp
    hs.sound.wrapper ht hw
  home_facet hs hf :=
    have ⟨ht, hw⟩ := hs.sound.facet hf
    hs.sound.wrapper ht hw
  home_wrapper _ hw := hw
  handed {s L w c f} hs _ hc hf := by
    refine hs.sound.handed w.id f ?_
    rw [handed?, show s.wrappers[w.id]? = some c from hc]
    exact hf
  ordinary _ := trivial
  missing _ _ _ := trivial
  unbacked _ _ _ _ := trivial
  function {s L code} name arity hs hcode :=
    ⟨_, fun _ => .inr, hs.grow (hs.sound.newFunction hcode name arity) (.function s code name arity)
      (grows_function s code name arity) fun f hf => hf.resolve_left nofun, .inl rfl⟩
  plain {s L} t counter hs := hs.fill (.plain s t counter) (grows_plain s t counter) (.nil _)
  make hs hw _ h := ⟨_, fun _ => .inr, hs.make hw h, .inl rfl⟩
  hand hs hw hc ht := ⟨_, fun _ => .inr, .inl rfl, hs.hand hw hc ht⟩
  put hs _ hv h := hs.fill (.put h) (grows_putProperty h) hv
  counter {s L} v o hs := hs.fill (.counter s v o) (grows_setCounter s v o) (.nil _)
  count {s L} name hs := hs.fill (.count s name) (grows_advance s name) (.nil _)
  contexts {s L} contexts hs := hs.fill (.contexts s contexts) (grows_contexts s contexts) (.nil _)
  roots {s L} roots hs := hs.fill (.roots s roots) (grows_roots s roots) (.nil _)

end ScriptClass
