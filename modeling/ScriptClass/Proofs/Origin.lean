import ScriptClass.Proofs.Generation.Object
import ScriptClass.Proofs.Lifetime
import ScriptClass.Proofs.Workspace.Chronicle

/-!
# Where objects come from

All objects of generated classes that any code comes across were made, and what it takes to make
one is checked at one place (`Store.Makes`). So the chronicle tells how each came about
(`Store.Origin`): its wrapper class had got a static facet before, is not abstract and leads to the
object's type, and the script constructor took the arguments. This is so while the script
constructor runs on the object, and also if it fails.

Each way to ask for an object is either refused, and changes nothing, or makes an object with just
the arguments that it was given (`Run.Constructs`).
-/

namespace ScriptClass

open Event

/-- The script constructor takes the arguments. Where there is none, there are no arguments. -/
def Wrapper.Accepts (c : Wrapper) (args : List ScriptValue) : Prop :=
  match c.plan.constructor with
  | none => args = []
  | some m => m.accepts args = true

/-- Arguments that fit the script constructor are those that it accepts. -/
theorem accepts_of_checkScriptFit {method : String} {m : Member} {args : List ScriptValue}
    (h : checkScriptFit method (some m) args = .ok ()) : m.accepts args = true := by
  unfold Member.accepts
  simp only [checkScriptFit] at h
  cases hsignature : m.signature with
  | none => rfl
  | some sig =>
    simp only [hsignature] at h
    split at h
    · cases h
    next hlength =>
      split at h
      · cases h
      next hall =>
        have hlength : sig.params.length = args.length := (not_not.mp hlength).symm
        rw [Bool.and_eq_true, beq_iff_eq, List.all_eq_true]
        refine ⟨hlength, fun e he => ?_⟩
        rw [← List.zip_swap, List.mem_map] at he
        obtain ⟨⟨v, t⟩, hvt, rfl⟩ := he
        obtain ⟨i, hi⟩ := List.mem_iff_getElem?.mp hvt
        have hfits := List.find?_eq_none.mp hall ((v, t), i) (List.mem_zipIdx_iff_getElem?.mpr hi)
        simpa using hfits

theorem Wrapper.Admits.accepts {c : Wrapper} {t : HostType} {args : List ScriptValue}
    (h : c.Admits t args) : c.Accepts args := by
  have hfit := h.fit
  unfold Wrapper.Accepts
  cases hconstructor : c.plan.constructor with
  | none =>
    simp only [hconstructor, checkScriptFit] at hfit
    split at hfit
    next hempty => exact List.isEmpty_iff.mp hempty
    next => cases hfit
  | some m =>
    rw [hconstructor] at hfit
    exact accepts_of_checkScriptFit hfit

namespace Store

variable {s : Store} {es before : List Event} {p : Pair} {args : List ScriptValue}

/-- How an object comes about: in a store with this chronicle, of this wrapper class. -/
structure Origin (before : List Event) (p : Pair) (args : List ScriptValue) (c : Wrapper)
    (s₀ s₁ : Store) : Prop where
  chronicle : s₀.Chronicle before
  wrapper : s₀.wrapper? p.wrapper = some c
  /-- Its wrapper class has got a static facet. -/
  bound : ∃ w f, .bound w f ∈ before ∧ w.id = p.wrapper.id
  concrete : c.isAbstract = false
  backing : c.backing = some p.type
  accepts : c.Accepts args
  /-- It is none of the objects that are there. -/
  new : ∀ q ∈ objects before, q.id ≠ p.id
  made : s₁.Chronicle (before ++ [.made p args])
  /-- Its native state is the nearest one that the classes of its chain declare. -/
  state : s₁.counter? (.pair p) = p.type.chain.findSome? (·.own.counter)

theorem Makes.origin {s₀ s₁ : Store} {c : Wrapper} (h₀ : s₀.Chronicle before)
    (h : s₀.Makes c args p s₁) : Origin before p args c s₀ s₁ where
  chronicle := h₀
  wrapper := h.wrapper
  bound := by
    refine mem_boundIds.mp ((h₀.bindings.2 p.wrapper.id).mp ?_)
    have hlookup : s₀.wrappers[p.wrapper.id]? = some c := h.wrapper
    rw [isBound, hlookup]
    exact h.admits.isBound
  concrete := h.admits.concrete
  backing := h.admits.backing
  accepts := h.admits.accepts
  new q hq := by
    have hlt := h₀.id_lt hq
    have hid := h.id_eq
    omega
  made := h₀.made h
  state := by
    rw [h.store_eq, counter?, h.id_eq, Array.getElem?_push_size]
    rfl

/-- Every object that a chronicle tells of has an origin. -/
theorem Chronicle.origin (h : s.Chronicle es) (hpre : before ++ [.made p args] <+: es) :
    ∃ (c : Wrapper) (s₀ s₁ : Store), Origin before p args c s₀ s₁ ∧ s₁.Extends s := by
  obtain ⟨t, ht, hext⟩ := h.of_prefix hpre
  obtain ⟨s₀, c, s₁, h₀, hmakes, hext'⟩ := ht.of_made
  exact ⟨c, s₀, s₁, hmakes.origin h₀, hext'.trans hext⟩

/-- The wrapper class of an object stays bound and concrete. -/
theorem Chronicle.wrapper_of_object (h : s.Chronicle es) (hp : p ∈ objects es) :
    ∃ c, s.wrapper? p.wrapper = some c ∧ c.isBound = true ∧ c.isAbstract = false := by
  obtain ⟨before, args, hpre⟩ := prefix_of_mem_objects hp
  obtain ⟨t, ht, hext⟩ := h.of_prefix hpre
  obtain ⟨s₀, c, s₁, -, hmakes, hext'⟩ := ht.of_made
  obtain ⟨c', hc', became⟩ := (hmakes.extends.trans (hext'.trans hext)).wrapper hmakes.wrapper
  exact ⟨c', hc', became.isBound hmakes.admits.isBound, became.isAbstract.trans hmakes.admits.concrete⟩

end Store

/-- A live object is of its wrapper class's host side. -/
theorem Workspace.Sound.backing_of_live {W : Workspace} (hs : W.Sound) {p : Pair}
    (hp : W.Live (.pair p)) {c : Wrapper} (hc : W.store.wrapper? p.wrapper = some c) :
    c.backing = some p.type := by
  obtain ⟨ht, hw⟩ := Store.Sound.pair hs hp
  have hled : W.store.backing? p.wrapper.id = some p.type := hs.tied _ ht p.wrapper hw
  rw [Store.backing?, show W.store.wrappers[p.wrapper.id]? = some c from hc] at hled
  exact hled

/-! ## Constructions -/

namespace Run

variable {α β : Type} {s : Store} {w : WrapperRef} {args : List ScriptValue}

/-- Either the run is refused and changes nothing, or it first makes an object with these
arguments. What comes after that continues the chronicle, and if there is an answer it is the
object. -/
def Constructs (s : Store) (x : Run α) (w : WrapperRef) (args : List ScriptValue)
    (answer : Pair → α) : Prop :=
  (∃ e, x.run s = (.error e, s)) ∨ ∃ c p s₁, p.wrapper = w ∧ s.Makes c args p s₁ ∧
    (∀ a, (x.run s).1 = .ok a → a = answer p) ∧
      ∀ es, s.Chronicle es → InUse (Known es) (holdingsOfScript args) →
        ∃ es', (x.run s).2.Chronicle (es ++ [.made p args] ++ es')

namespace Constructs

/-- A part before that only looks at the store. -/
theorem after {x : Run β} {f : β → Run α} {answer : Pair → α} {b : β} (hx : x.run s = (.ok b, s))
    (h : Constructs s (f b) w args answer) : Constructs s (x >>= f) w args answer := by
  have hrun := run_bind_ok hx f
  unfold Constructs
  rw [hrun]
  exact h

/-- A part that runs in the context of the current thread, if there is one. -/
theorem inContext {f : Nat → Run α} {answer : Pair → α}
    (h : ∀ context, Constructs s (f context) w args answer) :
    Constructs s (currentContext >>= f) w args answer := by
  cases hactive : s.contexts.active with
  | none =>
    refine .inl ⟨.failed .noActiveContext, ?_⟩
    rw [run_bind, run_currentContext_none hactive]
  | some context => exact (h context).after (run_currentContext hactive)

/-- What is given from the answer. -/
theorem map {x : Run β} {answer : Pair → β} (g : β → α) (h : Constructs s x w args answer) :
    Constructs s (do return g (← x)) w args fun p => g (answer p) := by
  rcases hrun : x.run s with ⟨e | b, t⟩
  · have hrun' : (do return g (← x) : Run α).run s = (.error e, t) := by rw [run_bind, hrun]
    rcases h with ⟨e', he⟩ | ⟨c, p, s₁, hw, hmakes, -, hchronicle⟩
    · cases hrun.symm.trans he
      exact .inl ⟨e, hrun'⟩
    · rw [hrun] at hchronicle
      refine .inr ⟨c, p, s₁, hw, hmakes, fun a ha => ?_, ?_⟩
      · rw [hrun'] at ha
        cases ha
      · rw [hrun']
        exact hchronicle
  · have hrun' : (do return g (← x) : Run α).run s = (.ok (g b), t) := by
      rw [run_bind, hrun]
      rfl
    rcases h with ⟨e', he⟩ | ⟨c, p, s₁, hw, hmakes, hanswer, hchronicle⟩
    · cases hrun.symm.trans he
    · rw [hrun] at hanswer hchronicle
      refine .inr ⟨c, p, s₁, hw, hmakes, fun a ha => ?_, ?_⟩
      · rw [hrun'] at ha
        cases ha
        rw [hanswer b rfl]
      · rw [hrun']
        exact hchronicle

end Constructs

theorem constructs (fuel context : Nat) (w : WrapperRef) (args : List ScriptValue) (s : Store) :
    Constructs s (construct fuel context w args) w args id := by
  cases fuel with
  | zero =>
    rw [construct]
    exact .inl ⟨_, rfl⟩
  | succ fuel =>
    rw [construct_succ]
    rcases hmake : (makePair w args).run s with ⟨e | ⟨c, p⟩, s₁⟩
    · obtain ⟨rfl, -⟩ := makePair_error hmake
      refine .inl ⟨e, ?_⟩
      rw [run_bind, hmake]
    · obtain ⟨rfl, hmakes⟩ := makePair_ok hmake
      have hrun := run_bind_ok hmake fun r => runConstructor fuel context r.1 r.2 args
      refine .inr ⟨c, p, s₁, rfl, hmakes, fun q hq => ?_, fun es hes hargs => ?_⟩
      · rw [hrun] at hq
        exact runConstructor_ok (Prod.ext hq rfl)
      · have hmade := hes.made hmakes
        have hplan : InUse (Known (es ++ [.made p args])) c.plan.holdings := by
          intro x hx
          refine known_append _ (hes.closed ((Store.held_wrapper p.wrapper).mpr ⟨c, ?_, hx⟩))
          exact hmakes.wrapper
        have hp : .pair p ∈ Known (es ++ [.made p args]) :=
          pair_mem_known.mpr (mem_objects.mpr ⟨args, List.mem_concat_self⟩)
        have hkeeps := (keeps (.chronicle (es ++ [.made p args])) fuel).runConstructor context
          hplan hp fun x hx => known_append _ (hargs x hx)
        obtain ⟨es', hes', -⟩ := hkeeps.chronicle hmade
        refine ⟨es', ?_⟩
        rw [hrun]
        exact hes'

/-- The constructor of a generated type. -/
theorem constructs_instantiate (fuel : Nat) {t : HostType} (ht : t.wrapper? = some w)
    (args : List HostValue) (s : Store) :
    Constructs s (instantiate fuel t args) w (HostValue.boxAll args) .pair := by
  unfold instantiate
  split
  · exact .inl ⟨_, rfl⟩
  · rw [HostType.wrapper?_eq_some.mp ht]
    exact .inContext fun context =>
      (constructs fuel context w (HostValue.boxAll args) s).map HostObject.pair

/-- An id that the wrapper class reads as the constructor's. -/
theorem constructs_dispatch (fuel context : Nat) {c : Wrapper} {id : MemberId}
    (hc : s.wrapper? w = some c) (hid : c.plan.handlers.lookup id = .constructor)
    (receiver : Option Pair) (args : List ScriptValue) :
    Constructs s (dispatch fuel context w receiver id args) w args fun p => .object (.pair p) := by
  cases fuel with
  | zero =>
    rw [dispatch]
    exact .inl ⟨_, rfl⟩
  | succ fuel =>
    rw [dispatch]
    refine Constructs.after (run_wrapper hc) ?_
    rw [hid]
    exact (constructs fuel context w args s).map fun p => ScriptValue.object (.pair p)

end Run

/-! ## Bindings -/

namespace Store

variable {s s' t : Store} {w : WrapperRef} {c : Wrapper}

theorem wrapper?_updateWrapper (hc : s.wrapper? w = some c) (f : Wrapper → Wrapper) :
    (s.updateWrapper w f).wrapper? w = some (f c) := by
  have hlookup : s.wrappers[w.id]? = some c := hc
  rw [wrapper?, updateWrapper, Array.getElem?_modify, if_pos rfl, hlookup]
  rfl

/-- A static facet is bound once. -/
theorem bindFacet_again {f : StaticFacet} (h : s.bindFacet w f = .ok s') (hlater : s'.Later t)
    (g : StaticFacet) : ∃ name, t.bindFacet w g = .error (.duplicateBinding name) := by
  cases hc : s.wrapper? w with
  | none =>
    rw [bindFacet, hc] at h
    cases h
  | some c =>
    have hbound : s'.wrapper? w = some { c with isBound := true, facet := some f } := by
      rw [bindFacet_ok h]
      exact wrapper?_updateWrapper hc _
    obtain ⟨c', hc', became⟩ := hlater.extends.wrapper hbound
    refine ⟨c'.backingName, ?_⟩
    simp only [bindFacet, hc', became.isBound rfl, if_true]

/-- A host side is bound once. -/
theorem bindBacking_again {u : HostType} (h : s.bindBacking w u = .ok s') (hlater : s'.Later t)
    (v : HostType) : ∃ name, t.bindBacking w v = .error (.duplicateBinding name) := by
  cases hc : s.wrapper? w with
  | none =>
    rw [bindBacking, hc] at h
    cases h
  | some c =>
    have hbound : s'.wrapper? w = some { c with hasBacking := true, backing := some u } := by
      rw [bindBacking_ok h]
      exact wrapper?_updateWrapper hc _
    obtain ⟨c', hc', became⟩ := hlater.extends.wrapper hbound
    refine ⟨c'.backingName, ?_⟩
    simp only [bindBacking, hc', became.hasBacking rfl, if_true]

end Store

/-- What a sample object tells, of a store of which nothing is told. -/
theorem Sample.object_chronicle {s t : Store} {r : ClassRequest} {f : StaticFacet} {p : Pair}
    (hs : s.Chronicle []) (hr : ∀ q, .pair q ∉ r.holdings) (h : Sample.object s r = some (f, p, t)) :
    ∃ s₁, s.generate {} r = (.ok f, s₁) ∧ (Run.construct 3 0 f.wrapper []).run s₁ = (.ok p, t) ∧
      s₁.Later t ∧ p.wrapper = f.wrapper ∧
        ∃ es, t.Chronicle ([.bound f.wrapper f] ++ [.made p []] ++ es) := by
  obtain ⟨s₁, hgen, hp, hlater⟩ := Sample.object_some h
  obtain ⟨es, hes, hbound⟩ := hs.generate {} (Workspace.inUse_known_of_no_pair hr)
  rw [hgen] at hes hbound
  cases hbound f rfl
  rcases Run.constructs 3 0 f.wrapper [] s₁ with ⟨e, he⟩ | ⟨c, q, s₂, hw, -, hq, hchronicle⟩
  · cases hp.symm.trans he
  · rw [hp] at hq hchronicle
    have hanswer : p = q := hq p rfl
    subst hanswer
    exact ⟨s₁, hgen, hp, hlater, hw, hchronicle _ hes nofun⟩

/-- Each object that a chronicle tells of, and so each that any code or any user comes across,
was made of a wrapper class that had got its static facet before, is not abstract and led to the
object's type. The script constructor took the arguments, its native state began as the nearest one
that the chain of its type declares, and its two views lead to each other. Live objects are of the
type that their wrapper class leads to now. However an object is asked for, the attempt is refused
and changes nothing, or makes one with the arguments given. Static facets and host sides are bound
to a wrapper class at most once; later attempts change nothing. -/
theorem objects_come_of_bound_classes :
    (∀ (s : Store) (es before : List Event) (p : Pair) (args : List ScriptValue),
      s.Chronicle es → before ++ [.made p args] <+: es →
        ∃ (c : Wrapper) (s₀ s₁ : Store), Store.Origin before p args c s₀ s₁ ∧ s₁.Extends s) ∧
    (∀ p : Pair, (HostValue.object (.pair p)).box = .object (.pair p) ∧
      (ScriptValue.object (.pair p)).host? = some (.pair p)) ∧
    (∀ (es : List Event) (fuel : Nat), Run.KeepsAt (.chronicle es) fuel) ∧
    (∀ (W W' : Workspace) (es : List Event) (out : List Holding), W.Tells es → W.Does out W' →
      ∃ es', W'.store.Chronicle (es ++ es') ∧ ∀ p, .pair p ∈ out → p ∈ objects (es ++ es')) ∧
    (∀ (config : Config) (writable : Bool) (stateName : String) (W : Workspace),
      Workspace.Evolves (.fresh config writable stateName) W →
        ∃ es, W.Tells es ∧ ∀ p, W.Live (.pair p) → p ∈ objects es ∧
          ∃ c, W.store.wrapper? p.wrapper = some c ∧ c.isBound = true ∧ c.isAbstract = false ∧
            c.backing = some p.type) ∧
    (∀ (s : Store) (fuel : Nat) (w : WrapperRef) (args : List ScriptValue),
      (∀ context, Run.Constructs s (Run.construct fuel context w args) w args id) ∧
      Run.Constructs s ((Operation.construct w args).part fuel) w args (fun p => [.pair p]) ∧
      (∀ t hostArgs, t.wrapper? = some w → HostValue.boxAll hostArgs = args →
        Run.Constructs s (Run.instantiate fuel t hostArgs) w args .pair) ∧
      ∀ c id, s.wrapper? w = some c → c.plan.handlers.lookup id = .constructor →
        (∀ context receiver, Run.Constructs s (Run.dispatch fuel context w receiver id args) w args
          fun p => .object (.pair p)) ∧
        (∀ q : Pair, q.wrapper = w → Run.Constructs s (Run.executeId fuel (.pair q) id args) w args
          fun p => some (.object (.pair p))) ∧
        ∀ f : StaticFacet, f.wrapper = w → Run.Constructs s (Run.executeId fuel (.facet f) id args)
          w args fun p => some (.object (.pair p))) ∧
    (∀ (name : String) (ms : Members), ms.Fit →
      (WrapperPlan.ofMembers name ms).handlers.lookup .constructor = .constructor) ∧
    (∀ (s : Store) (es : List Event), s.Chronicle es → (boundIds es).Nodup) ∧
    ∀ (s s' t : Store) (w : WrapperRef), s'.Later t →
      (∀ f g, s.bindFacet w f = .ok s' → ∃ name,
        (Run.ofUpdate fun t => t.bindFacet w g).run t = (.error (.failed (.duplicateBinding name)), t)) ∧
      ∀ u v, s.bindBacking w u = .ok s' → ∃ name,
        (Run.ofUpdate fun t => t.bindBacking w v).run t =
          (.error (.failed (.duplicateBinding name)), t) := by
  refine ⟨fun s es before p args h => h.origin, fun p => ⟨rfl, rfl⟩,
    fun es => Run.keeps (.chronicle es), fun W W' es out hW h => ?_,
    fun config writable stateName W hW => ?_, fun s fuel w args => ⟨fun context => ?_, ?_, ?_, ?_⟩,
    fun name ms fit => HandlerTable.lookup_constructor fit, fun s es h => h.bindings.1,
    fun s s' t w hlater => ⟨fun f g h => ?_, fun u v h => ?_⟩⟩
  · obtain ⟨es', hes, hout⟩ := h.chronicle hW
    exact ⟨es', hes, fun p hp => pair_mem_known.mp (hout _ hp)⟩
  · obtain ⟨es, hes⟩ := hW.tells (Workspace.tells_fresh config writable stateName)
    have hsound : W.Sound := hW.sound (Workspace.sound_fresh config writable stateName)
    refine ⟨es, hes, fun p hp => ?_⟩
    have hmade := pair_mem_known.mp (hes.live _ hp)
    obtain ⟨c, hc, hbound, hconcrete⟩ := hes.chronicle.wrapper_of_object hmade
    exact ⟨hmade, c, hc, hbound, hconcrete, hsound.backing_of_live hp hc⟩
  · exact Run.constructs fuel context w args s
  · exact .inContext fun context => (Run.constructs fuel context w args s).map fun p => [Holding.pair p]
  · rintro t hostArgs ht rfl
    exact Run.constructs_instantiate fuel ht hostArgs s
  · intro c id hc hid
    refine ⟨fun context receiver => Run.constructs_dispatch fuel context hc hid receiver args, ?_, ?_⟩
    · rintro q rfl
      exact .inContext fun context =>
        (Run.constructs_dispatch fuel context hc hid (some q) args).map some
    · rintro f rfl
      exact .inContext fun context =>
        (Run.constructs_dispatch fuel context hc hid none args).map some
  · obtain ⟨name, hname⟩ := Store.bindFacet_again h hlater g
    exact ⟨name, by rw [Run.ofUpdate, ExceptT.run_mk, hname]⟩
  · obtain ⟨name, hname⟩ := Store.bindBacking_again h hlater v
    exact ⟨name, by rw [Run.ofUpdate, ExceptT.run_mk, hname]⟩

set_option maxRecDepth 10000 in
open Temp in
/-- The object that is made of a requested class comes of that class. -/
theorem temp_object_comes_of_temp : ∃ f s p t,
    start.store.generate start.config request = (.ok f, s) ∧
      (Run.construct 3 0 f.wrapper []).run s = (.ok p, t) ∧
        ∃ c s₀ s₁, Store.Origin [.bound f.wrapper f] p [] c s₀ s₁ ∧ s₁.Extends t := by
  have h : (Sample.object start.store request).isSome = true := by decide +kernel
  obtain ⟨⟨f, p, t⟩, ho⟩ := Option.isSome_iff_exists.mp h
  have hstart : start.store.Chronicle [] := .fresh true "Counter"
  obtain ⟨s, hgen, hp, -, -, es, ht⟩ := Sample.object_chronicle hstart (fun _ => List.not_mem_nil) ho
  refine ⟨f, s, p, t, hgen, hp, ?_⟩
  exact objects_come_of_bound_classes.1 t _ [.bound f.wrapper f] p [] ht ⟨es, rfl⟩

end ScriptClass
