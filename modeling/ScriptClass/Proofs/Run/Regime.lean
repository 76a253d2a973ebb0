import ScriptClass.Proofs.Registry.LiveTypes
import ScriptClass.Proofs.Run.Construction
import ScriptClass.Proofs.Store.Growth
import ScriptClass.Proofs.Value.Holding

/-!
# What runs keep

A `Regime` says what runs may count on and have to keep: which stores are fit, with which
things in use, and which failures may come up. It states of each change that code can make to
a store that the store stays fit, the change being made with things in use.

A run `Keeps` a regime if, begun in a fit store, it leaves a fit store with these and more
things in use, gives an answer about things in use, and fails as the regime allows. Here are
the primitives that runs are made of; what is said of each is what it needs to be in use.
That every rule by which code runs keeps every regime is proved once, from these.
-/

namespace ScriptClass

section InUse

variable {L L' : Set Holding} {hs hs' : List Holding}

theorem InUse.mono (h : InUse L hs) (hsub : ∀ x ∈ L, x ∈ L') : InUse L' hs :=
  fun x hx => hsub x (h x hx)

theorem InUse.append (h : InUse L hs) (h' : InUse L hs') : InUse L (hs ++ hs') :=
  fun x hx => (List.mem_append.mp hx).elim (h x) (h' x)

theorem inUse_append : InUse L (hs ++ hs') ↔ InUse L hs ∧ InUse L hs' := List.forall_mem_append

theorem inUse_cons {x : Holding} : InUse L (x :: hs) ↔ x ∈ L ∧ InUse L hs := List.forall_mem_cons

theorem inUse_singleton {x : Holding} (hx : x ∈ L) : InUse L [x] := List.forall_mem_singleton.mpr hx

end InUse

/-- A wrapper class holds the function of each member. -/
theorem WrapperPlan.function_mem_holdings {p : WrapperPlan} {m : Member}
    (hm : m ∈ p.instances ++ p.statics ++ p.constructor.toList) :
    .function m.function.id ∈ p.holdings :=
  List.mem_append_left _ (List.mem_append_left _ (List.mem_map.mpr ⟨m, hm, rfl⟩))

/-- What runs may count on and have to keep. -/
structure Regime where
  /-- The store is fit, with these things in use. -/
  Fit : Store → Set Holding → Prop
  /-- Code that uses these things may go through the wrapper class. -/
  Home : Set Holding → WrapperRef → Prop
  /-- The failure may come up. -/
  Fails : RuntimeError → Prop
  closed {s : Store} {L : Set Holding} {h x : Holding} : Fit s L → h ∈ L → x ∈ s.held h → x ∈ L
  home_mono {L L' : Set Holding} {w : WrapperRef} : (∀ x ∈ L, x ∈ L') → Home L w → Home L' w
  home_type {s : Store} {L : Set Holding} {t : HostType} {w : WrapperRef} :
    Fit s L → .type t ∈ L → t.own.instantiation = some (.generated w) → Home L w
  home_pair {s : Store} {L : Set Holding} {p : Pair} : Fit s L → .pair p ∈ L → Home L p.wrapper
  home_facet {s : Store} {L : Set Holding} {f : StaticFacet} :
    Fit s L → .facet f ∈ L → Home L f.wrapper
  home_wrapper {s : Store} {L : Set Holding} {w : WrapperRef} :
    Fit s L → Home L w → .wrapper w ∈ L
  /-- The static facet that a class handed out last is in use. -/
  handed {s : Store} {L : Set Holding} {w : WrapperRef} {c : Wrapper} {f : StaticFacet} :
    Fit s L → Home L w → s.wrapper? w = some c → c.facet = some f → .facet f ∈ L
  ordinary {e : RuntimeError} : e.isUnloaded = false → Fails e
  missing {s : Store} {L : Set Holding} {w : WrapperRef} :
    Fit s L → .wrapper w ∈ L → s.wrapper? w = none → Fails (.unloaded w.backing)
  unbacked {s : Store} {L : Set Holding} {w : WrapperRef} {c : Wrapper} :
    Fit s L → Home L w → s.wrapper? w = some c → c.backing = none → Fails (.unloaded c.backingName)
  function {s : Store} {L : Set Holding} {code : FunctionCode} (name : Option String)
    (arity : Option Nat) : Fit s L → InUse L code.holdings →
      ∃ L', (∀ x ∈ L, x ∈ L') ∧ Fit (s.newFunction code name arity).2 L' ∧
        .function s.functions.size ∈ L'
  plain {s : Store} {L : Set Holding} (t : HostType) (counter : Option Int64) :
    Fit s L → Fit (s.newPlain t counter).2 L
  /-- An object of a generated class is made. -/
  make {s s' : Store} {L : Set Holding} {c : Wrapper} {args : List ScriptValue} {p : Pair} :
    Fit s L → Home L p.wrapper → InUse L (holdingsOfScript args) → s.Makes c args p s' →
      ∃ L', (∀ x ∈ L, x ∈ L') ∧ Fit s' L' ∧ .pair p ∈ L'
  /-- A new static facet of a class is handed out. -/
  hand {s : Store} {L : Set Holding} {w : WrapperRef} {c : Wrapper} {t : HostType} :
    Fit s L → Home L w → s.wrapper? w = some c → c.backing = some t →
      ∃ L', (∀ x ∈ L, x ∈ L') ∧ .facet (s.newFacet t w).1 ∈ L' ∧
        Fit ((s.newFacet t w).2.updateWrapper w fun c =>
          { c with facet := some (s.newFacet t w).1 }) L'
  put {s s' : Store} {L : Set Holding} {o : ScriptObject} {name : String} {v : ScriptValue} :
    Fit s L → o.holding ∈ L → InUse L v.holdings → s.putProperty o name v = .ok s' → Fit s' L
  counter {s : Store} {L : Set Holding} (v : Int64) (o : HostObject) :
    Fit s L → Fit (s.setCounter v o) L
  count {s : Store} {L : Set Holding} (name : String) : Fit s L → Fit (s.advance name).2 L
  contexts {s : Store} {L : Set Holding} (contexts : Contexts) : Fit s L → Fit { s with contexts } L
  roots {s : Store} {L : Set Holding} (roots : List Holding) : Fit s L → Fit { s with roots } L

namespace Regime

variable {R : Regime} {s : Store} {L : Set Holding}

/-- All that a wrapper class in use holds is in use. -/
theorem plan (hs : R.Fit s L) {w : WrapperRef} (hw : .wrapper w ∈ L) {c : Wrapper}
    (hc : s.wrapper? w = some c) : InUse L c.plan.holdings :=
  fun _ hx => R.closed hs hw ((Store.held_wrapper w).mpr ⟨c, hc, hx⟩)

/-- The class of a host object is in use with it. -/
theorem object (hs : R.Fit s L) {o : HostObject} (ho : o.holding ∈ L) : .type o.type ∈ L := by
  cases o with
  | plain id t => exact ho
  | pair p => exact R.closed hs ho ((Store.held_pair p).mpr (.inl rfl))

theorem inherits (hs : R.Fit s L) {t u : HostType} (ht : .type t ∈ L) (h : t.Inherits u) :
    .type u ∈ L := by
  induction h with
  | refl => exact ht
  | tail _ hstep ih => exact R.closed hs ih (Store.mem_heldByType.mpr (.inl ⟨_, hstep, rfl⟩))

/-! ## Reading properties -/

theorem newFunction (hs : R.Fit s L) {code : FunctionCode} (hcode : InUse L code.holdings)
    (name : String) : ∃ L', (∀ h ∈ L, h ∈ L') ∧
      R.Fit (s.newFunction code (some name) none).2 L' ∧
        ∀ f, some (s.newFunction code (some name) none).1 = some f → .function f.id ∈ L' := by
  obtain ⟨L', hsub, hs', hmem⟩ := R.function (some name) none hs hcode
  refine ⟨L', hsub, hs', fun f hf => ?_⟩
  cases hf
  exact hmem

/-- A function that is made for a member holds the wrapper class and nothing else. -/
theorem memberFunction (hs : R.Fit s L) {w : WrapperRef} (hw : .wrapper w ∈ L) (facet : Facet)
    (name : String) : ∃ L', (∀ h ∈ L, h ∈ L') ∧ R.Fit (s.memberFunction w facet name).2 L' ∧
      ∀ f, (s.memberFunction w facet name).1 = some f → .function f.id ∈ L' := by
  unfold Store.memberFunction
  split
  · exact ⟨L, fun _ => id, hs, fun f hf => by cases hf⟩
  · dsimp only
    split
    · exact ⟨L, fun _ => id, hs, fun f hf => by cases hf⟩
    · refine newFunction hs ?_ name
      exact inUse_singleton hw

theorem hostFunction (hs : R.Fit s L) (t : HostType) (name : String) :
    ∃ L', (∀ h ∈ L, h ∈ L') ∧ R.Fit (s.hostFunction t name).2 L' ∧
      ∀ f, (s.hostFunction t name).1 = some f → .function f.id ∈ L' := by
  unfold Store.hostFunction
  split
  · exact ⟨L, fun _ => id, hs, fun f hf => by cases hf⟩
  · exact newFunction hs (.nil _) name

/-- What an object in use answers with is in use: its data, that of its class, or a function
that is made for a member. -/
theorem getProperty (hs : R.Fit s L) {o : ScriptObject} (ho : o.holding ∈ L) (name : String) :
    ∃ L', (∀ h ∈ L, h ∈ L') ∧ R.Fit (s.getProperty o name).2 L' ∧
      ∀ v, (s.getProperty o name).1 = some v → InUse L' v.holdings := by
  have hfunction {L' : Set Holding} {f : Option FunctionRef}
      (hf : ∀ g, f = some g → .function g.id ∈ L') (v : ScriptValue)
      (hv : f.map ScriptValue.function = some v) : InUse L' v.holdings := by
    obtain ⟨g, hg, rfl⟩ := Option.map_eq_some_iff.mp hv
    exact inUse_singleton (hf g hg)
  cases o with
  | plain id =>
    refine ⟨L, fun _ hh => hh, hs, fun v hv x hx => ?_⟩
    exact R.closed hs ho (Entries.mem_holdings.mpr ⟨_, mem_of_lookup hv, hx⟩)
  | pair p =>
    unfold Store.getProperty
    dsimp only
    split
    next v hv =>
      refine ⟨L, fun _ hh => hh, hs, fun u hu x hx => ?_⟩
      cases hu
      refine R.closed hs ho (List.mem_cons_of_mem _ (List.mem_cons_of_mem _ ?_))
      exact Entries.mem_holdings.mpr ⟨_, mem_of_lookup hv, hx⟩
    next =>
      have hw := R.home_wrapper hs (R.home_pair hs ho)
      obtain ⟨L₁, hsub, hs₁, hf⟩ := memberFunction hs hw .instances name
      split
      next f s₁ heq =>
        rw [heq] at hs₁ hf
        exact ⟨L₁, hsub, hs₁, hfunction hf⟩
      next s₁ heq =>
        rw [heq] at hs₁
        obtain ⟨L₂, hsub', hs₂, hf⟩ := hostFunction hs₁ p.type name
        exact ⟨L₂, fun h hh => hsub' h (hsub h hh), hs₂, hfunction hf⟩
  | facet f =>
    unfold Store.getProperty
    dsimp only
    have hw := R.home_wrapper hs (R.home_facet hs ho)
    split
    next v hv =>
      refine ⟨L, fun _ hh => hh, hs, fun u hu x hx => ?_⟩
      cases hu
      obtain ⟨c, hc, hdata⟩ := Option.bind_eq_some_iff.mp hv
      obtain ⟨e, he, rfl⟩ := Option.map_eq_some_iff.mp hdata
      refine plan hs hw hc x (List.mem_append_right _ ?_)
      exact Entries.mem_holdings.mpr ⟨e, List.mem_of_find?_eq_some he, hx⟩
    next =>
      obtain ⟨L₁, hsub, hs₁, hf⟩ := memberFunction hs hw .statics name
      exact ⟨L₁, hsub, hs₁, hfunction hf⟩

end Regime

namespace Run

variable {α β : Type} {R : Regime} {L : Set Holding} {P : Set Holding → α → Prop}
  {Q : Set Holding → β → Prop}

/-- Begun in a fit store the run comes to an answer about things in use. -/
def Keeps (R : Regime) (L : Set Holding) (x : Run α) (P : Set Holding → α → Prop) : Prop :=
  ∀ s : Store, R.Fit s L → ∃ L', (∀ h ∈ L, h ∈ L') ∧ R.Fit (x.run s).2 L' ∧
    (∀ a, (x.run s).1 = .ok a → P L' a) ∧ ∀ e, (x.run s).1 = .error (.failed e) → R.Fails e

namespace Keeps

theorem pure {a : α} (h : P L a) : Keeps R L (Pure.pure a) P := by
  intro s hs
  refine ⟨L, fun _ => id, hs, fun b hb => ?_, fun e he => by cases he⟩
  cases hb
  exact h

theorem exhausted : Keeps R L (throw .exhausted : Run α) P :=
  fun _ hs => ⟨L, fun _ => id, hs, fun a ha => (by cases ha), fun e he => by cases he⟩

theorem allowed {e : RuntimeError} (he : R.Fails e) : Keeps R L (Run.fail e : Run α) P := by
  intro s hs
  refine ⟨L, fun _ => id, hs, fun a h => ?_, fun e' h => ?_⟩
  · cases h
  · cases h
    exact he

theorem fail {e : RuntimeError} (he : e.isUnloaded = false) : Keeps R L (Run.fail e : Run α) P :=
  .allowed (R.ordinary he)

theorem bind {x : Run α} {f : α → Run β} (hx : Keeps R L x P)
    (hf : ∀ L' a, (∀ h ∈ L, h ∈ L') → P L' a → Keeps R L' (f a) Q) : Keeps R L (x >>= f) Q := by
  intro s hs
  obtain ⟨L₁, hsub, hs₁, hok, herror⟩ := hx s hs
  rw [run_bind]
  rcases hrun : x.run s with ⟨e | a, t⟩ <;> rw [hrun] at hs₁ hok herror
  · refine ⟨L₁, hsub, hs₁, fun b hb => (by cases hb), fun e' h => herror e' ?_⟩
    cases h
    rfl
  · obtain ⟨L₂, hsub', h⟩ := hf L₁ a hsub (hok a rfl) t hs₁
    exact ⟨L₂, fun h hh => hsub' h (hsub h hh), h⟩

/-- A run whose first part only looks at the store. -/
theorem withStore {f : Store → Run β} (hf : ∀ s, R.Fit s L → Keeps R L (f s) Q) :
    Keeps R L (MonadState.get >>= f) Q := by
  intro s hs
  rw [run_bind]
  exact hf s hs s hs

/-- A run may count on the store being fit. -/
theorem ofFit {x : Run α} (hx : ∀ s : Store, R.Fit s L → Keeps R L x P) : Keeps R L x P :=
  fun s hs => hx s hs s hs

theorem ofExcept {x : Except RuntimeError α} (hok : ∀ a, x = .ok a → P L a)
    (herror : ∀ e, x = .error e → e.isUnloaded = false) : Keeps R L (Run.ofExcept x) P := by
  cases x with
  | ok a => exact .pure (hok a rfl)
  | error e => exact .fail (herror e rfl)

theorem ofConversion {x : Except ConversionError α} (hok : ∀ a, x = .ok a → P L a) :
    Keeps R L (Run.ofConversion x) P := by
  cases x with
  | ok a => exact .pure (hok a rfl)
  | error e => exact .fail rfl

theorem ofChange {f : Store → α × Store} (hf : ∀ s, R.Fit s L →
    ∃ L', (∀ h ∈ L, h ∈ L') ∧ R.Fit (f s).2 L' ∧ P L' (f s).1) : Keeps R L (Run.ofChange f) P := by
  intro s hs
  obtain ⟨L', hsub, hs', ha⟩ := hf s hs
  refine ⟨L', hsub, hs', fun a h => ?_, fun e h => by cases h⟩
  cases h
  exact ha

theorem change {f : Store → Store} (hf : ∀ s, R.Fit s L → R.Fit (f s) L) :
    Keeps R L (modify f : Run Unit) fun _ _ => True :=
  fun s hs => ⟨L, fun _ => id, hf s hs, fun _ _ => trivial, fun e h => by cases h⟩

theorem ofUpdate {f : Store → Except RuntimeError Store}
    (hok : ∀ s s', R.Fit s L → f s = .ok s' → R.Fit s' L)
    (herror : ∀ s e, f s = .error e → e.isUnloaded = false) :
    Keeps R L (Run.ofUpdate f) fun _ _ => True := by
  intro s hs
  rw [Run.ofUpdate, ExceptT.run_mk]
  rcases hf : f s with e | s'
  · refine ⟨L, fun _ => id, hs, fun a h => (by cases h), fun e' h => ?_⟩
    cases h
    exact R.ordinary (herror s e hf)
  · exact ⟨L, fun _ => id, hok s s' hs hf, fun _ _ => trivial, fun e h => by cases h⟩

theorem keeping (vs : List ScriptValue) {x : Run α} (hx : Keeps R L x P) :
    Keeps R L (Run.keeping vs x) P := by
  intro s hs
  obtain ⟨L', hsub, hs', hrest⟩ := hx (s.holding vs) (R.roots _ hs)
  exact ⟨L', hsub, R.roots _ hs', hrest⟩

theorem withCall (context : Nat) {x : Run α} (hx : Keeps R L x P) :
    Keeps R L (Run.withCall context x) P := by
  intro s hs
  rw [Run.withCall, ExceptT.run_mk]
  split
  next e hpush =>
    refine ⟨L, fun _ => id, hs, fun a h => (by cases h), fun e' h => ?_⟩
    cases h
    unfold Contexts.pushCall at hpush
    repeat' split at hpush
    all_goals cases hpush
    all_goals exact R.ordinary rfl
  next contexts hpush =>
    obtain ⟨L', hsub, hs', hrest⟩ := hx { s with contexts } (R.contexts contexts hs)
    exact ⟨L', hsub, R.contexts _ hs', hrest⟩

theorem attempt {x : Run ScriptValue} (hx : Keeps R L x fun L v => InUse L v.holdings) :
    Keeps R L (Run.attempt x) fun L v => InUse L v.holdings := by
  intro s hs
  obtain ⟨L', hsub, hs', hok, herror⟩ := hx s hs
  rw [Run.attempt, ExceptT.run_mk]
  split
  next e t hrun =>
    rw [hrun] at hs'
    refine ⟨L', hsub, hs', fun v hv => ?_, fun e h => by cases h⟩
    cases hv
    exact .nil _
  next => exact ⟨L', hsub, hs', hok, herror⟩

/-! ## Contexts and classes -/

theorem currentContext : Keeps R L Run.currentContext fun _ _ => True := by
  refine .withStore fun s _ => .ofExcept (fun _ _ => trivial) fun e h => ?_
  unfold Contexts.current at h
  split at h <;> cases h
  rfl

/-- All that the plan of a wrapper class in use holds is in use. -/
theorem wrapper {w : WrapperRef} (hw : .wrapper w ∈ L) :
    Keeps R L (Run.wrapper w) fun L' c => InUse L' c.plan.holdings := by
  refine .withStore fun s hs => ?_
  cases hc : s.wrapper? w with
  | none => exact .allowed (R.missing hs hw hc)
  | some c => exact .pure (Regime.plan hs hw hc)

/-- The static facet that a class hands out is in use. -/
theorem facetOf {w : WrapperRef} (hw : R.Home L w) :
    Keeps R L (Run.facetOf w) fun L' f => .facet f ∈ L' := by
  intro s hs
  have hwrapper := R.home_wrapper hs hw
  cases hc : s.wrapper? w with
  | none =>
    refine ⟨L, fun _ => id, ?_⟩
    rw [Run.facetOf, run_bind, run_wrapper_none hc]
    refine ⟨hs, fun a h => (by cases h), fun e h => ?_⟩
    cases h
    exact R.missing hs hwrapper hc
  | some c =>
    rw [Run.facetOf, run_bind_ok (run_wrapper hc), run_bind, run_checkBound]
    cases c.isBound with
    | false =>
      refine ⟨L, fun _ => id, hs, fun a h => (by cases h), fun e h => ?_⟩
      cases h
      exact R.ordinary rfl
    | true =>
      simp only [if_true, run_bind, run_get]
      split
      next f hf =>
        refine ⟨L, fun _ => id, hs, fun a h => ?_, fun e h => by cases h⟩
        cases h
        exact R.handed hs hw hc (Option.filter_eq_some_iff.mp hf).1
      next =>
        rw [run_bind, Run.backing]
        cases hbacking : c.backing with
        | none =>
          refine ⟨L, fun _ => id, hs, fun a h => (by cases h), fun e h => ?_⟩
          cases h
          exact R.unbacked hs hw hc hbacking
        | some t =>
          obtain ⟨L', hsub, hf, hs'⟩ := R.hand hs hw hc hbacking
          refine ⟨L', hsub, hs', fun a h => ?_, fun e h => by cases h⟩
          cases h
          exact hf

/-- An object that is made comes into use. -/
theorem makePair {w : WrapperRef} (hw : R.Home L w) {args : List ScriptValue}
    (hargs : InUse L (holdingsOfScript args)) :
    Keeps R L (Run.makePair w args) fun L' r => InUse L' r.1.plan.holdings ∧ .pair r.2 ∈ L' := by
  intro s hs
  have hwrapper := R.home_wrapper hs hw
  rcases hrun : (Run.makePair w args).run s with ⟨e | ⟨c, p⟩, s'⟩
  · obtain ⟨rfl, cause, rfl, hcause⟩ := makePair_error hrun
    refine ⟨L, fun _ => id, hs, fun a h => (by cases h), fun e h => ?_⟩
    cases h
    rcases hcause with hcause | ⟨hc, rfl⟩ | ⟨c, hc, hbacking, rfl⟩
    · exact R.ordinary hcause
    · exact R.missing hs hwrapper hc
    · exact R.unbacked hs hw hc hbacking
  · obtain ⟨rfl, hmakes⟩ := makePair_ok hrun
    obtain ⟨L', hsub, hs', hp⟩ := R.make hs hw hargs hmakes
    refine ⟨L', hsub, hs', fun a h => ?_, fun e h => by cases h⟩
    cases h
    exact ⟨(Regime.plan hs hwrapper hmakes.wrapper).mono hsub, hp⟩

theorem pickMember {w : WrapperRef} (hw : .wrapper w ∈ L) (facet : Facet) (label : String)
    (id : MemberId) (exact : Bool) (args : List ScriptValue) :
    Keeps R L (Run.pickMember w facet label id exact args) fun _ _ => True := by
  unfold Run.pickMember
  split
  · exact .pure trivial
  · refine (Keeps.wrapper hw).bind fun L₁ c _ _ => ?_
    split
    · exact .pure trivial
    · exact .fail rfl

/-! ## Signatures -/

theorem parseSignature (name descriptor : String) :
    Keeps R L (Run.ofExcept ((Signature.parse name descriptor).mapError .descriptor))
      fun _ _ => True := by
  cases Signature.parse name descriptor with
  | ok s => exact .pure trivial
  | error e => exact .fail rfl

theorem checkFit (s : Signature) (args : List HostValue) :
    Keeps R L (Run.ofExcept (s.checkFit args)) fun _ _ => True := by
  refine .ofExcept (fun _ _ => trivial) fun e h => ?_
  unfold Signature.checkFit at h
  repeat' split at h
  all_goals cases h
  all_goals rfl

/-! ## Native calls -/

/-- The receiver of a native call is in use with the call. -/
theorem this {call : NativeCall} (hcall : ∀ o, call.receiver = some o → o.holding ∈ L) :
    Keeps R L (Run.ofExcept call.this) fun L' o => o.holding ∈ L' := by
  unfold NativeCall.this
  split
  next o ho => exact .pure (hcall o ho)
  next => exact .fail rfl

theorem counterOf {call : NativeCall} (hcall : ∀ o, call.receiver = some o → o.holding ∈ L) :
    Keeps R L (Run.counterOf call) fun _ _ => True := by
  refine (Keeps.this hcall).bind fun L₁ o _ _ => .withStore fun s _ => ?_
  cases s.counter? o with
  | none => exact .fail rfl
  | some n => exact .pure trivial

theorem arg {call : NativeCall} (hcall : InUse L (holdingsOfHost call.args)) (index : Nat) :
    Keeps R L (Run.ofExcept (call.arg index)) fun L' v => InUse L' v.holdings := by
  unfold NativeCall.arg
  split
  next v hv =>
    exact .pure fun x hx => hcall x (mem_holdingsOfHost.mpr ⟨v, List.mem_of_getElem? hv, hx⟩)
  next => exact .fail rfl

theorem argAs {γ : Type} (call : NativeCall) (expected : String) (read : HostValue → Option γ)
    (index : Nat) : Keeps R L (Run.ofExcept (call.argAs expected read index)) fun _ _ => True := by
  refine .ofExcept (fun _ _ => trivial) fun e h => ?_
  simp only [NativeCall.argAs, NativeCall.arg] at h
  cases hv : call.args[index]? with
  | none =>
    rw [hv] at h
    cases h
    rfl
  | some v =>
    rw [hv] at h
    dsimp only [Bind.bind, Except.bind] at h
    split at h <;> cases h
    rfl

/-! ## Properties -/

theorem getProperty {v : ScriptValue} (hv : InUse L v.holdings) (name : String) :
    Keeps R L (Run.getProperty v name) fun L' r => ∀ u, r = some u → InUse L' u.holdings := by
  cases v with
  | object o =>
    exact .ofChange fun s hs => Regime.getProperty hs (hv _ List.mem_cons_self) name
  | _ => exact .pure fun u hu => by cases hu

theorem putProperty {target v : ScriptValue} (htarget : InUse L target.holdings)
    (hv : InUse L v.holdings) (name : String) :
    Keeps R L (Run.putProperty target name v) fun _ _ => True := by
  cases target with
  | object o =>
    refine .ofUpdate (fun s s' hs h => R.put hs (htarget _ List.mem_cons_self) hv h) fun s e h => ?_
    cases o with
    | plain id => cases h
    | pair p =>
      simp only [Store.putProperty] at h
      split at h <;> cases h
      rfl
    | facet f =>
      cases h
      rfl
  | _ => exact .fail rfl

end Keeps

end Run

end ScriptClass
