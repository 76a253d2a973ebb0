import ScriptClass.Proofs.Run.Loaded
import ScriptClass.Workspace

/-!
# Operations on a workspace

An `Operation` is a part of a program that a user runs with things that they have: objects
are made, static facets are handed out, properties are read and written, and code of either
side is called. `Operation.part` is what runs, and answers with what it hands out.

An operation keeps every regime, like the rules that it runs (`Operation.keeps_part`). Begun
with things in use it leaves a sound store and hands out things in use, also where the user
goes through a wrapper class whose host side is gone (`Operation.sound_part`).
-/

namespace ScriptClass

/-- What a user runs, with the things that they give it. -/
inductive Operation where
  /-- Makes an object of a generated class. -/
  | construct (w : WrapperRef) (args : List ScriptValue)
  /-- Asks a wrapper class for its static facet. -/
  | facet (w : WrapperRef)
  /-- Makes an object of a host type. -/
  | instantiate (t : HostType) (args : List HostValue)
  /-- Reads a property or a member. -/
  | get (target : ScriptValue) (name : String)
  /-- Writes a property. -/
  | put (target : ScriptValue) (name : String) (v : ScriptValue)
  /-- Calls a member by name. -/
  | call (target : ScriptValue) (name : String) (args : List ScriptValue)
  /-- Calls a function. -/
  | apply (f this : ScriptValue) (args : List ScriptValue)
  /-- Calls a member by id. -/
  | execute (o : ScriptObject) (id : MemberId) (args : List ScriptValue)
  /-- Calls a host method. -/
  | invoke (receiver : HostObject) (name descriptor : String) (args : List HostValue)
  /-- Calls a static host method. -/
  | callStatic (t : HostType) (name descriptor : String) (args : List HostValue)

namespace Operation

/-- The things that an operation is given. -/
def holdings : Operation → List Holding
  | .construct w args => .wrapper w :: holdingsOfScript args
  | .facet w => [.wrapper w]
  | .instantiate t args => .type t :: holdingsOfHost args
  | .get target _ => target.holdings
  | .put target _ v => target.holdings ++ v.holdings
  | .call target _ args => target.holdings ++ holdingsOfScript args
  | .apply f this args => f.holdings ++ (this.holdings ++ holdingsOfScript args)
  | .execute o _ args => o.holding :: holdingsOfScript args
  | .invoke receiver _ _ args => receiver.holding :: holdingsOfHost args
  | .callStatic t _ _ args => .type t :: holdingsOfHost args

/-- The wrapper class that the user names, where they name one. All others are found
through an object, a static facet or a type. -/
def wrapper? : Operation → Option WrapperRef
  | .construct w _ => some w
  | .facet w => some w
  | _ => none

/-- Runs an operation in the context of the current thread, and gives what it hands out. -/
def part (fuel : Nat) : Operation → Run (List Holding)
  | .construct w args => do
    let context ← Run.currentContext
    return [.pair (← Run.construct fuel context w args)]
  | .facet w => do return [.facet (← Run.facetOf w)]
  | .instantiate t args => do return [(← Run.instantiate fuel t args).holding]
  | .get target name => do
    return ((← Run.getProperty target name).map ScriptValue.holdings).getD []
  | .put target name v => do
    Run.putProperty target name v
    return []
  | .call target name args => do
    let context ← Run.currentContext
    return (← Run.callProperty fuel context target name args).holdings
  | .apply f this args => do
    let context ← Run.currentContext
    return (← Run.callValue fuel context f this args).holdings
  | .execute o id args => do
    return ((← Run.executeId fuel o id args).map ScriptValue.holdings).getD []
  | .invoke receiver name descriptor args => do
    return (← Run.callNamed fuel receiver name descriptor args).holdings
  | .callStatic t name descriptor args => do
    return (← Run.callStatic fuel t name descriptor args).holdings

end Operation

/-! ## Rules that begin a run -/

namespace Run.Keeps

variable {R : Regime} {L : Set Holding}

/-- The constructor of a generated type goes to the wrapper class that the type houses. -/
theorem instantiate (fuel : Nat) {t : HostType} {args : List HostValue} (ht : .type t ∈ L)
    (hargs : InUse L (holdingsOfHost args)) :
    Keeps R L (Run.instantiate fuel t args) fun L o => o.holding ∈ L := by
  have hplain (counter : Option Int64) :
      Keeps R L (Run.ofChange fun s => s.newPlain t counter) fun L o => o.holding ∈ L :=
    .ofChange fun s hs => ⟨L, fun _ => id, R.plain t counter hs, ht⟩
  unfold Run.instantiate
  split
  · exact .fail rfl
  · split
    · exact .fail rfl
    · exact hplain _
    next w hw =>
      refine .ofFit fun s hs => Keeps.currentContext.bind fun L₁ context h₁ _ => ?_
      have hhome : R.Home L₁ w := R.home_mono h₁ (R.home_type hs ht hw)
      refine ((Run.keeps R fuel).construct context hhome ?_).bind fun L₂ p _ hp => .pure hp
      rw [HostValue.holdings_boxAll]
      exact hargs.mono h₁
    · split
      · exact hplain _
      · exact .fail rfl

theorem callNamed (fuel : Nat) {receiver : HostObject} {args : List HostValue}
    (name descriptor : String) (hreceiver : receiver.holding ∈ L)
    (hargs : InUse L (holdingsOfHost args)) :
    Keeps R L (Run.callNamed fuel receiver name descriptor args)
      fun L v => InUse L v.holdings :=
  (Keeps.parseSignature name descriptor).bind fun _ s h₁ _ =>
    (Run.keeps R fuel).invoke s (h₁ _ hreceiver) (hargs.mono h₁)

theorem callStatic (fuel : Nat) {t : HostType} {args : List HostValue}
    (name descriptor : String) (ht : .type t ∈ L) (hargs : InUse L (holdingsOfHost args)) :
    Keeps R L (Run.callStatic fuel t name descriptor args) fun L v => InUse L v.holdings := by
  refine (Keeps.parseSignature name descriptor).bind fun L₁ s h₁ _ => ?_
  split
  · exact .fail rfl
  next m hm =>
    refine (Keeps.checkFit s args).bind fun L₂ _ h₂ _ => ?_
    have hmem : m ∈ t.methods :=
      List.mem_of_find?_eq_some (Option.filter_eq_some_iff.mp hm).1
    exact (Run.keeps R fuel).runMethod (h₂ _ (h₁ _ ht)) hmem (fun o ho => by cases ho) ((hargs.mono h₁).mono h₂)

theorem executeId (fuel : Nat) {o : ScriptObject} {args : List ScriptValue} (id : MemberId)
    (ho : o.holding ∈ L) (hargs : InUse L (holdingsOfScript args)) :
    Keeps R L (Run.executeId fuel o id args) fun L r => ∀ v, r = some v → InUse L v.holdings := by
  refine Keeps.currentContext.bind fun L₁ context h₁ _ => .ofFit fun s hs => ?_
  have hdispatch {w : WrapperRef} {receiver : Option Pair} (hw : R.Home L₁ w)
      (hreceiver : ∀ p, receiver = some p → .pair p ∈ L₁) :
      Keeps R L₁ (do return some (← Run.dispatch fuel context w receiver id args))
        fun L r => ∀ v, r = some v → InUse L v.holdings := by
    refine ((Run.keeps R fuel).dispatch context id hw hreceiver (hargs.mono h₁)).bind
      fun L₂ v _ hv => .pure fun u hu => ?_
    cases hu
    exact hv
  cases o with
  | plain id => exact .pure fun v hv => by cases hv
  | pair p =>
    refine hdispatch (R.home_pair hs (h₁ _ ho)) fun q hq => ?_
    cases hq
    exact h₁ _ ho
  | facet f => exact hdispatch (R.home_facet hs (h₁ _ ho)) fun p hp => by cases hp

end Run.Keeps

/-! ## Wrapper classes whose host side is gone -/

variable {s : Store} {L : Set Holding} {w : WrapperRef} {c : Wrapper}

/-- A wrapper class in use leads nowhere if its host side is not in use. -/
theorem Store.Sound.unhoused (hs : s.Sound L) (hw : .wrapper w ∈ L) (hno : ¬ Housed L w) :
    ∃ c, s.wrapper? w = some c ∧ c.backing = none := by
  obtain ⟨c, hc⟩ := hs.wrapper?_of_mem hw
  refine ⟨c, hc, ?_⟩
  cases hbacking : c.backing with
  | none => rfl
  | some t =>
    have hled : s.backing? w.id = some t := by
      rw [Store.backing?, show s.wrappers[w.id]? = some c from hc]
      exact hbacking
    obtain ⟨ht, w', hw', hid⟩ := hs.backing _ _ hled
    cases hs.heap.single (hs.wrapper ht hw') hw (congrArg Holding.Key.wrapper hid)
    exact absurd ⟨t, ht, hw'⟩ hno

namespace Run

theorem run_construct_unhoused (hc : s.wrapper? w = some c) (hbacking : c.backing = none)
    (fuel context : Nat) (args : List ScriptValue) :
    ∃ e, (construct fuel context w args).run s = (.error e, s) := by
  cases fuel with
  | zero =>
    rw [construct]
    exact ⟨_, rfl⟩
  | succ fuel =>
    simp only [construct, run_bind, run_wrapper hc, run_checkBound, backing, hbacking]
    cases c.isBound <;> exact ⟨_, rfl⟩

/-- Such a class still hands out a static facet that was bound and is held. -/
theorem run_facetOf_unhoused (hc : s.wrapper? w = some c) (hbacking : c.backing = none) :
    ((facetOf w).run s).2 = s ∧ ∀ f, ((facetOf w).run s).1 = .ok f → c.facet = some f := by
  simp only [facetOf, run_bind, run_wrapper hc, run_checkBound]
  cases c.isBound with
  | false => exact ⟨rfl, fun f hf => by cases hf⟩
  | true =>
    simp only [if_true, run_get]
    split
    next f hf =>
      refine ⟨rfl, fun g hg => ?_⟩
      cases hg
      exact (Option.filter_eq_some_iff.mp hf).1
    next =>
      rw [run_bind, backing, hbacking]
      exact ⟨rfl, fun f hf => by cases hf⟩

end Run

/-! ## Operations -/

namespace Operation

theorem inUse_getD {r : Option ScriptValue} (hr : ∀ v, r = some v → InUse L v.holdings) :
    InUse L ((r.map ScriptValue.holdings).getD []) := by
  cases r with
  | none => exact .nil _
  | some v => exact hr v rfl

/-- An operation with things in use keeps every regime and hands out things in use, if the
regime lets it go through the wrapper class that it names. -/
theorem keeps_part (R : Regime) (fuel : Nat) {op : Operation} (hop : InUse L op.holdings)
    (hhome : ∀ w, op.wrapper? = some w → R.Home L w) : Run.Keeps R L (op.part fuel) InUse := by
  have hcontext := Run.Keeps.currentContext (R := R) (L := L)
  cases op with
  | construct w args =>
    refine hcontext.bind fun L₁ context h₁ _ => ?_
    have hargs := (inUse_cons.mp hop).2
    refine ((Run.keeps R fuel).construct context (R.home_mono h₁ (hhome w rfl)) (hargs.mono h₁)).bind
      fun L₂ p _ hp => .pure (inUse_singleton hp)
  | facet w =>
    refine (Run.Keeps.facetOf (hhome w rfl)).bind fun L₁ f _ hf => .pure (inUse_singleton hf)
  | instantiate t args =>
    obtain ⟨ht, hargs⟩ := inUse_cons.mp hop
    exact (Run.Keeps.instantiate fuel ht hargs).bind fun L₁ o _ ho =>
      .pure (inUse_singleton ho)
  | get target name =>
    exact (Run.Keeps.getProperty hop name).bind fun L₁ r _ hr => .pure (inUse_getD hr)
  | put target name v =>
    obtain ⟨htarget, hv⟩ := inUse_append.mp hop
    exact (Run.Keeps.putProperty htarget hv name).bind fun _ _ _ _ =>
      .pure (.nil _)
  | call target name args =>
    obtain ⟨htarget, hargs⟩ := inUse_append.mp hop
    exact hcontext.bind fun L₁ context h₁ _ =>
      ((Run.keeps R fuel).callProperty context name (htarget.mono h₁) (hargs.mono h₁)).bind
        fun _ _ _ => .pure
  | apply f this args =>
    obtain ⟨hf, hrest⟩ := inUse_append.mp hop
    obtain ⟨hthis, hargs⟩ := inUse_append.mp hrest
    exact hcontext.bind fun L₁ context h₁ _ => ((Run.keeps R fuel).callValue context
      (hf.mono h₁) (hthis.mono h₁) (hargs.mono h₁)).bind fun _ _ _ => .pure
  | execute o id args =>
    obtain ⟨ho, hargs⟩ := inUse_cons.mp hop
    exact (Run.Keeps.executeId fuel id ho hargs).bind fun L₁ r _ hr => .pure (inUse_getD hr)
  | invoke receiver name descriptor args =>
    obtain ⟨hreceiver, hargs⟩ := inUse_cons.mp hop
    exact (Run.Keeps.callNamed fuel name descriptor hreceiver hargs).bind fun _ _ _ => .pure
  | callStatic t name descriptor args =>
    obtain ⟨ht, hargs⟩ := inUse_cons.mp hop
    exact (Run.Keeps.callStatic fuel name descriptor ht hargs).bind fun _ _ _ => .pure

/-- An operation with things in use leaves a sound store, however it ends, and hands out
things in use. -/
theorem sound_part (hs : s.Sound L) (fuel : Nat) {op : Operation} (hop : InUse L op.holdings) :
    ∃ L', (∀ x ∈ L, x ∈ L') ∧ ((op.part fuel).run s).2.Sound L' ∧
      ∀ out, ((op.part fuel).run s).1 = .ok out → InUse L' out := by
  by_cases hhoused : ∀ w, op.wrapper? = some w → Housed L w
  · obtain ⟨L', hsub, hs', hout, -⟩ := keeps_part .loaded fuel hop hhoused s hs
    exact ⟨L', hsub, hs', hout⟩
  · push Not at hhoused
    obtain ⟨w, hnamed, hno⟩ := hhoused
    refine ⟨L, fun _ => id, ?_⟩
    cases op with
    | construct w' args =>
      cases hnamed
      obtain ⟨c, hc, hbacking⟩ := hs.unhoused (hop _ List.mem_cons_self) hno
      have hrun : ∃ e, ((construct w args).part fuel).run s = (.error e, s) := by
        cases hactive : s.contexts.active with
        | none =>
          rw [part, Run.run_bind, Run.run_currentContext_none hactive]
          exact ⟨_, rfl⟩
        | some context =>
          obtain ⟨e, he⟩ := Run.run_construct_unhoused hc hbacking fuel context args
          simp only [part, Run.run_bind, Run.run_currentContext hactive, he]
          exact ⟨_, rfl⟩
      obtain ⟨e, he⟩ := hrun
      rw [he]
      exact ⟨hs, fun out ho => by cases ho⟩
    | facet w' =>
      cases hnamed
      obtain ⟨c, hc, hbacking⟩ := hs.unhoused (hop _ List.mem_cons_self) hno
      obtain ⟨hstore, hout⟩ := Run.run_facetOf_unhoused hc hbacking
      rw [part, Run.run_bind]
      rcases hrun : (Run.facetOf w).run s with ⟨e | f, t⟩ <;> rw [hrun] at hstore hout
      · rw [← hstore] at hs
        exact ⟨hs, fun out ho => by cases ho⟩
      · have hf : .facet f ∈ L := by
          refine hs.handed w.id f ?_
          rw [Store.handed?, show s.wrappers[w.id]? = some c from hc]
          exact hout f rfl
        rw [← hstore] at hs
        refine ⟨hs, fun out ho x hx => ?_⟩
        cases ho
        cases List.mem_singleton.mp hx
        exact hf
    | _ => cases hnamed

end Operation

end ScriptClass
