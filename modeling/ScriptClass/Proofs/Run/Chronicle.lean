import ScriptClass.Proofs.Run.Rules
import ScriptClass.Proofs.Store.Chronicle

/-!
# Runs continue chronicles

The stores whose chronicle begins with certain events make up a regime (`Regime.chronicle`), with
everything in use but objects that were not made. So whatever code does, and however it ends, it
continues the chronicle, and the answer holds no object but those that were made
(`Run.Keeps.chronicle`).
-/

namespace ScriptClass

open Event

namespace Store

variable {s s' : Store} {xs : List Holding}

theorem isBound_updateWrapper (s : Store) (w : WrapperRef) {f : Wrapper → Wrapper}
    (hf : ∀ c, (f c).isBound = c.isBound) : (s.updateWrapper w f).isBound = s.isBound := by
  funext i
  rw [isBound, updateWrapper, Array.getElem?_modify]
  split
  · rw [isBound, Option.any_map]
    exact congrArg (fun p => s.wrappers[i]?.any p) (funext hf)
  · rfl

/-- A step that leaves objects alone and binds nothing. -/
theorem Step.quiet (hstep : s.Step s') (hfills : s.Fills s' xs) (hpairs : s'.pairs = s.pairs)
    (hbound : s'.isBound = s.isBound) : s.Quiet s' xs :=
  { hfills, hstep.extends with
    properties := by rw [hpairs]
    isBound := hbound }

theorem quiet_setCounter (s : Store) (v : Int64) (o : HostObject) :
    s.Quiet (s.setCounter v o) [] where
  toFills := (grows_setCounter s v o).toFills
  toExtends := (Step.counter s v o).extends
  properties := by
    cases o with
    | plain id t => rfl
    | pair p =>
      refine Array.ext_getElem? fun i => ?_
      simp only [setCounter, Array.getElem?_map, Array.getElem?_modify]
      split
      · cases s.pairs[i]? <;> rfl
      · rfl
  isBound := by cases o <;> rfl

/-- A static facet is handed out. -/
theorem quiet_handOut (s : Store) (w : WrapperRef) (f : StaticFacet) :
    s.Quiet (s.updateWrapper w fun c => { c with facet := some f }) [] :=
  (Step.handOut s w f).quiet (fills_updateWrapper s w fun _ => rfl) rfl
    (isBound_updateWrapper s w fun _ => rfl)

/-- The chronicle continues these events, and all is in use but objects that were not made. -/
def Continues (told : List Event) (s : Store) (L : Set Holding) : Prop :=
  ∃ es, s.Chronicle (told ++ es) ∧ L = Known (told ++ es)

namespace Continues

variable {told : List Event} {L : Set Holding}

theorem mem {x : Holding} (hs : Continues told s L) (hx : ∀ p, x ≠ .pair p) : x ∈ L := by
  obtain ⟨es, -, rfl⟩ := hs
  exact fun p hp => absurd hp (hx p)

theorem quiet (hs : Continues told s L) (hquiet : s.Quiet s' xs) (hxs : InUse L xs) :
    Continues told s' L := by
  obtain ⟨es, h, rfl⟩ := hs
  exact ⟨es, h.quiet hquiet hxs, rfl⟩

theorem step (hs : Continues told s L) (hstep : s.Step s') (hfills : s.Fills s' xs)
    (hxs : InUse L xs) (hpairs : s'.pairs = s.pairs) (hbound : s'.isBound = s.isBound) :
    Continues told s' L :=
  hs.quiet (hstep.quiet hfills hpairs hbound) hxs

theorem put {o : ScriptObject} {name : String} {v : ScriptValue} (hs : Continues told s L)
    (ho : o.holding ∈ L) (hv : InUse L v.holdings) (h : s.putProperty o name v = .ok s') :
    Continues told s' L := by
  have hgrows := grows_putProperty h
  cases o with
  | plain id =>
    refine hs.step (.put h) hgrows.toFills hv ?_ ?_ <;> cases h <;> rfl
  | pair p =>
    obtain ⟨es, hes, rfl⟩ := hs
    have hwrote := hes.wrote (pair_mem_known.mp ho) hv h
    refine ⟨es ++ [.wrote p name v], by rwa [← List.append_assoc], ?_⟩
    rw [← List.append_assoc, known_snoc_of_pair? rfl]
  | facet f => cases h

theorem make {c : Wrapper} {args : List ScriptValue} {p : Pair} (hs : Continues told s L)
    (h : s.Makes c args p s') : ∃ L', (∀ x ∈ L, x ∈ L') ∧ Continues told s' L' ∧ .pair p ∈ L' := by
  obtain ⟨es, hes, rfl⟩ := hs
  refine ⟨Known (told ++ es ++ [.made p args]), fun x hx => known_append _ hx, ?_, ?_⟩
  · refine ⟨es ++ [.made p args], ?_, ?_⟩
    · rw [← List.append_assoc]
      exact hes.made h
    · rw [List.append_assoc]
  · exact pair_mem_known.mpr (mem_objects.mpr ⟨args, List.mem_concat_self⟩)

end Continues

end Store

open Store in
/-- The stores whose chronicle continues these events. -/
def Regime.chronicle (told : List Event) : Regime where
  Fit := Continues told
  Home _ _ := True
  Fails _ := True
  closed hs _ hx := by
    obtain ⟨es, h, rfl⟩ := hs
    exact h.closed hx
  home_mono _ _ := trivial
  home_type _ _ _ := trivial
  home_pair _ _ := trivial
  home_facet _ _ := trivial
  home_wrapper hs _ := hs.mem nofun
  handed hs _ _ _ := hs.mem nofun
  ordinary _ := trivial
  missing _ _ _ := trivial
  unbacked _ _ _ _ := trivial
  function {s L code} name arity hs hcode :=
    ⟨L, fun _ => id, hs.step (.function s code name arity) (grows_function s code name arity).toFills
      hcode rfl rfl, hs.mem nofun⟩
  plain {s L} t counter hs :=
    hs.step (.plain s t counter) (grows_plain s t counter).toFills (.nil _) rfl rfl
  make hs _ _ h := hs.make h
  hand {s L w c t} hs _ _ _ :=
    have hnew := hs.step (.facet s t w) (grows_facet s t w).toFills (.nil _) rfl rfl
    ⟨L, fun _ => id, hs.mem nofun, hnew.quiet (quiet_handOut _ w _) (.nil _)⟩
  put hs ho hv h := hs.put ho hv h
  counter {s L} v o hs := hs.quiet (quiet_setCounter s v o) (.nil _)
  count {s L} name hs := hs.step (.count s name) (grows_advance s name).toFills (.nil _) rfl rfl
  contexts {s L} contexts hs :=
    hs.step (.contexts s contexts) (grows_contexts s contexts).toFills (.nil _) rfl rfl
  roots {s L} roots hs := hs.step (.roots s roots) (grows_roots s roots).toFills (.nil _) rfl rfl

namespace Run

/-- Code that is given nothing but objects that were made continues the chronicle, and answers
with nothing but objects that were made. -/
theorem Keeps.chronicle {α : Type} {x : Run α} {P : Set Holding → α → Prop} {s : Store}
    {told : List Event} (h : Keeps (.chronicle told) (Known told) x P) (hs : s.Chronicle told) :
    ∃ es, (x.run s).2.Chronicle (told ++ es) ∧
      ∀ a, (x.run s).1 = .ok a → P (Known (told ++ es)) a := by
  obtain ⟨L, -, ⟨es, hes, rfl⟩, hok, -⟩ := h s ⟨[], by rwa [List.append_nil], by rw [List.append_nil]⟩
  exact ⟨es, hes, hok⟩

end Run

end ScriptClass
