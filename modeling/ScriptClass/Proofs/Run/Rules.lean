import ScriptClass.Proofs.Run.Regime

/-!
# Every rule keeps every regime

By induction on the fuel (`keeps`), from what is said of the primitives: called with things
in use, a rule uses only things that are in use or that it makes. Objects of a generated class
and static facets bring their wrapper class with them, and dispatch goes through nothing else.
-/

namespace ScriptClass

/-- What a call in progress holds. -/
def Frame.holdings (frame : Frame) : List Holding :=
  frame.this.holdings ++ holdingsOfScript frame.args

/-- What expressions hold. -/
def Expr.holdings (e : Expr) : List Holding := holdingsOfScript e.constants

def holdingsOfExprs (es : List Expr) : List Holding := holdingsOfScript (constantsOfAll es)

namespace Run

variable {R : Regime} {L : Set Holding}

/-- Every rule keeps the regime with so much fuel. -/
structure KeepsAt (R : Regime) (fuel : Nat) : Prop where
  eval {L : Set Holding} {frame : Frame} {e : Expr} (hframe : InUse L frame.holdings)
    (he : InUse L e.holdings) : Keeps R L (eval fuel frame e) fun L v => InUse L v.holdings
  evalAll {L : Set Holding} {frame : Frame} {es : List Expr} (hframe : InUse L frame.holdings)
    (hes : InUse L (holdingsOfExprs es)) :
    Keeps R L (evalAll fuel frame es) fun L vs => InUse L (holdingsOfScript vs)
  evalLast {L : Set Holding} {frame : Frame} {last : ScriptValue} {es : List Expr}
    (hframe : InUse L frame.holdings) (hlast : InUse L last.holdings)
    (hes : InUse L (holdingsOfExprs es)) :
    Keeps R L (evalLast fuel frame last es) fun L v => InUse L v.holdings
  evalUnboxed {L : Set Holding} {frame : Frame} {es : List Expr} (params : List Descriptor)
    (hframe : InUse L frame.holdings) (hes : InUse L (holdingsOfExprs es)) :
    Keeps R L (evalUnboxed fuel frame es params) fun L hs => InUse L (holdingsOfHost hs)
  callFunction {L : Set Holding} {f : FunctionRef} {this : ScriptValue} {args : List ScriptValue}
    (context : Nat) (hf : .function f.id ∈ L) (hthis : InUse L this.holdings)
    (hargs : InUse L (holdingsOfScript args)) :
    Keeps R L (callFunction fuel context f this args) fun L v => InUse L v.holdings
  callMemberFunction {L : Set Holding} {w : WrapperRef} {this : ScriptValue}
    {args : List ScriptValue} (context : Nat) (facet : Facet) (label : String) (id : MemberId)
    (exact : Bool) (hw : .wrapper w ∈ L) (hthis : InUse L this.holdings)
    (hargs : InUse L (holdingsOfScript args)) :
    Keeps R L (callMemberFunction fuel context w facet label id exact this args)
      fun L v => InUse L v.holdings
  callValue {L : Set Holding} {f this : ScriptValue} {args : List ScriptValue} (context : Nat)
    (hf : InUse L f.holdings) (hthis : InUse L this.holdings)
    (hargs : InUse L (holdingsOfScript args)) :
    Keeps R L (callValue fuel context f this args) fun L v => InUse L v.holdings
  callProperty {L : Set Holding} {target : ScriptValue} {args : List ScriptValue} (context : Nat)
    (name : String) (htarget : InUse L target.holdings) (hargs : InUse L (holdingsOfScript args)) :
    Keeps R L (callProperty fuel context target name args) fun L v => InUse L v.holdings
  dispatch {L : Set Holding} {w : WrapperRef} {receiver : Option Pair} {args : List ScriptValue}
    (context : Nat) (id : MemberId) (hw : R.Home L w) (hreceiver : ∀ p, receiver = some p → .pair p ∈ L)
    (hargs : InUse L (holdingsOfScript args)) :
    Keeps R L (dispatch fuel context w receiver id args) fun L v => InUse L v.holdings
  construct {L : Set Holding} {w : WrapperRef} {args : List ScriptValue} (context : Nat)
    (hw : R.Home L w) (hargs : InUse L (holdingsOfScript args)) :
    Keeps R L (construct fuel context w args) fun L p => .pair p ∈ L
  invoke {L : Set Holding} {receiver : HostObject} {args : List HostValue} (s : Signature)
    (hreceiver : receiver.holding ∈ L) (hargs : InUse L (holdingsOfHost args)) :
    Keeps R L (invoke fuel receiver s args) fun L v => InUse L v.holdings
  runMethod {L : Set Holding} {owner : HostType} {m : Method} {receiver : Option HostObject}
    {args : List HostValue} (howner : .type owner ∈ L) (hm : m ∈ owner.methods)
    (hreceiver : ∀ o, receiver = some o → o.holding ∈ L) (hargs : InUse L (holdingsOfHost args)) :
    Keeps R L (runMethod fuel owner m receiver args) fun L v => InUse L v.holdings
  forward {L : Set Holding} {receiver : HostObject} {args : List HostValue} (member : MemberId)
    (key : String) (s : Signature) (hreceiver : receiver.holding ∈ L)
    (hargs : InUse L (holdingsOfHost args)) :
    Keeps R L (forward fuel member key s receiver args) fun L v => InUse L v.holdings
  runNative {L : Set Holding} {owner : HostType} {m : Method} {code : Nat} {call : NativeCall}
    (howner : .type owner ∈ L) (hm : m ∈ owner.methods) (hcode : m.body = .native code)
    (hreceiver : ∀ o, call.receiver = some o → o.holding ∈ L)
    (hargs : InUse L (holdingsOfHost call.args)) :
    Keeps R L (runNative fuel code call) fun L v => InUse L v.holdings

theorem KeepsAt.zero : KeepsAt R 0 where
  eval _ _ := by rw [Run.eval]; exact .exhausted
  evalAll _ _ := by rw [Run.evalAll]; exact .exhausted
  evalLast _ _ _ := by rw [Run.evalLast]; exact .exhausted
  evalUnboxed _ _ _ := by rw [Run.evalUnboxed]; exact .exhausted
  callFunction _ _ _ _ := by rw [Run.callFunction]; exact .exhausted
  callMemberFunction _ _ _ _ _ _ _ _ := by rw [Run.callMemberFunction]; exact .exhausted
  callValue _ _ _ _ := by rw [Run.callValue]; exact .exhausted
  callProperty _ _ _ _ := by rw [Run.callProperty]; exact .exhausted
  dispatch _ _ _ _ _ := by rw [Run.dispatch]; exact .exhausted
  construct _ _ _ := by rw [Run.construct]; exact .exhausted
  invoke _ _ _ := by rw [Run.invoke]; exact .exhausted
  runMethod _ _ _ _ := by rw [Run.runMethod]; exact .exhausted
  forward _ _ _ _ _ := by rw [Run.forward]; exact .exhausted
  runNative _ _ _ _ _ := by rw [Run.runNative]; exact .exhausted

section Succ

variable {fuel : Nat} (ih : KeepsAt R fuel)

/-! ## Script code -/

section Eval

variable {frame : Frame} (hframe : InUse L frame.holdings)

include hframe

theorem inUse_arg (place : Nat) : InUse L (frame.args[place]?.getD .undefined).holdings := by
  cases harg : frame.args[place]? with
  | none => exact .nil _
  | some v =>
    intro x hx
    refine hframe x (List.mem_append_right _ (mem_holdingsOfScript.mpr ⟨v, ?_, hx⟩))
    exact List.mem_of_getElem? harg

include ih

theorem KeepsAt.eval_succ {e : Expr} (he : InUse L e.holdings) :
    Keeps R L (Run.eval (fuel + 1) frame e) fun L v => InUse L v.holdings := by
  cases e <;> rw [Run.eval.eq_def] <;> dsimp only <;>
    simp only [Expr.holdings, Expr.constants, holdingsOfScript_append, inUse_append] at he
  case const v => exact .pure fun x hx => he x (by simpa [holdingsOfScript] using hx)
  case arg place => exact .pure (inUse_arg hframe place)
  case args => exact .pure fun x hx => hframe x (List.mem_append_right _ hx)
  case this => exact .pure fun x hx => hframe x (List.mem_append_left _ hx)
  case depth => exact .withStore fun _ _ => .pure (.nil _)
  case get of name =>
    refine (ih.eval hframe he).bind fun L₁ o h₁ ho => (Keeps.getProperty ho name).bind
      fun L₂ r h₂ hr => .pure ?_
    cases r with
    | none => exact .nil _
    | some v => exact hr v rfl
  case put of name value =>
    obtain ⟨hof, hvalue⟩ := he
    exact (ih.eval hframe hvalue).bind fun L₁ v h₁ hv =>
      (Keeps.keeping _ (ih.eval (hframe.mono h₁) (hof.mono h₁))).bind fun L₂ o h₂ ho =>
        (Keeps.putProperty ho (hv.mono h₂) name).bind fun _ _ _ _ => .pure (.nil _)
  case call of name args =>
    obtain ⟨hof, hargs⟩ := he
    exact (ih.evalAll hframe hargs).bind fun L₁ args h₁ hargs =>
      (Keeps.keeping _ (ih.eval (hframe.mono h₁) (hof.mono h₁))).bind fun L₂ o h₂ ho =>
        ih.callProperty _ name ho (hargs.mono h₂)
  case apply function receiver args =>
    obtain ⟨⟨hfunction, hreceiver⟩, hargs⟩ := he
    exact (ih.evalAll hframe hargs).bind fun L₁ args h₁ hargs =>
      (Keeps.keeping _ (ih.eval (hframe.mono h₁) (hfunction.mono h₁))).bind fun L₂ f h₂ hf =>
        (Keeps.keeping _ (ih.eval ((hframe.mono h₁).mono h₂) ((hreceiver.mono h₁).mono h₂))).bind
          fun L₃ this h₃ hthis =>
            ih.callValue _ (hf.mono h₃) hthis ((hargs.mono h₂).mono h₃)
  case invoke of method args =>
    obtain ⟨hof, hargs⟩ := he
    refine (ih.eval hframe hof).bind fun L₁ o h₁ ho => ?_
    cases hhost : o.host? with
    | none => exact .fail rfl
    | some host =>
      have hmem : host.holding ∈ L₁ := ho _ (by
        rw [ScriptValue.holding_of_host? hhost]
        exact List.mem_singleton_self _)
      exact (Keeps.keeping _ (ih.evalUnboxed method.params (hframe.mono h₁) (hargs.mono h₁))).bind
        fun L₂ args h₂ hargs => (ih.invoke method (h₂ _ hmem) hargs).bind fun L₃ v _ hv =>
          .pure fun x hx => hv x (by rwa [HostValue.holdings_box] at hx)
  case throw => exact .fail rfl
  case attempt body => exact .attempt (ih.eval hframe he)
  case seq list => exact ih.evalLast hframe (.nil _) he
  case array list =>
    exact (ih.evalAll hframe he).bind fun L₁ vs _ hvs => .pure hvs
  case add a b =>
    obtain ⟨ha, hb⟩ := he
    refine (ih.eval hframe ha).bind fun L₁ x h₁ _ =>
      (Keeps.keeping _ (ih.eval (hframe.mono h₁) (hb.mono h₁))).bind fun L₂ y _ _ => ?_
    split
    · exact .pure (.nil _)
    · exact .pure (.nil _)
  case lt a b =>
    obtain ⟨ha, hb⟩ := he
    refine (ih.eval hframe ha).bind fun L₁ x h₁ _ =>
      (Keeps.keeping _ (ih.eval (hframe.mono h₁) (hb.mono h₁))).bind fun L₂ y _ _ => ?_
    split <;> exact .pure (.nil _)
  case ite condition yes no =>
    obtain ⟨⟨hcondition, hyes⟩, hno⟩ := he
    refine (ih.eval hframe hcondition).bind fun L₁ c h₁ _ => ?_
    split
    · exact ih.eval (hframe.mono h₁) (hyes.mono h₁)
    · exact ih.eval (hframe.mono h₁) (hno.mono h₁)
  case describe of => exact (ih.eval hframe he).bind fun _ _ _ _ => .pure (.nil _)
  case count name =>
    have hcount : Keeps R L (ofChange fun s => s.advance name) fun _ _ => True :=
      .ofChange fun s hs => ⟨L, fun _ => id, R.count name hs, trivial⟩
    exact hcount.bind fun _ _ _ _ => .pure (.nil _)

theorem KeepsAt.evalAll_succ {es : List Expr} (hes : InUse L (holdingsOfExprs es)) :
    Keeps R L (Run.evalAll (fuel + 1) frame es) fun L vs => InUse L (holdingsOfScript vs) := by
  cases es <;> rw [Run.evalAll.eq_def] <;> dsimp only
  case nil => exact .pure (.nil _)
  case cons e es =>
    obtain ⟨he, hes⟩ : InUse L e.holdings ∧ InUse L (holdingsOfExprs es) := by
      rwa [holdingsOfExprs, constantsOfAll, holdingsOfScript_append, inUse_append] at hes
    exact (ih.eval hframe he).bind fun L₁ v h₁ hv =>
      (Keeps.keeping _ (ih.evalAll (hframe.mono h₁) (hes.mono h₁))).bind fun L₂ vs h₂ hvs =>
        .pure ((hv.mono h₂).append hvs)

theorem KeepsAt.evalLast_succ {last : ScriptValue} {es : List Expr}
    (hlast : InUse L last.holdings) (hes : InUse L (holdingsOfExprs es)) :
    Keeps R L (Run.evalLast (fuel + 1) frame last es) fun L v => InUse L v.holdings := by
  cases es <;> rw [Run.evalLast.eq_def] <;> dsimp only
  case nil => exact .pure hlast
  case cons e es =>
    obtain ⟨he, hes⟩ : InUse L e.holdings ∧ InUse L (holdingsOfExprs es) := by
      rwa [holdingsOfExprs, constantsOfAll, holdingsOfScript_append, inUse_append] at hes
    exact (Keeps.keeping _ (ih.eval hframe he)).bind fun L₁ v h₁ hv =>
      ih.evalLast (hframe.mono h₁) hv (hes.mono h₁)

theorem KeepsAt.evalUnboxed_succ {es : List Expr} (params : List Descriptor)
    (hes : InUse L (holdingsOfExprs es)) :
    Keeps R L (Run.evalUnboxed (fuel + 1) frame es params)
      fun L hs => InUse L (holdingsOfHost hs) := by
  cases es <;> rw [Run.evalUnboxed.eq_def] <;> dsimp only
  case nil => exact .pure (.nil _)
  case cons e es =>
    obtain ⟨he, hes⟩ : InUse L e.holdings ∧ InUse L (holdingsOfExprs es) := by
      rwa [holdingsOfExprs, constantsOfAll, holdingsOfScript_append, inUse_append] at hes
    refine (ih.eval hframe he).bind fun L₁ v h₁ hv => ?_
    have hunbox : Keeps R L₁ (ofConversion (v.unbox (params.headD .object)))
        fun L h => InUse L h.holdings :=
      .ofConversion fun h hh x hx => hv x (ScriptValue.holdings_unbox v hh hx)
    exact hunbox.bind fun L₂ h h₂ hh =>
      (Keeps.keeping _ (ih.evalUnboxed params.tail ((hframe.mono h₁).mono h₂)
        ((hes.mono h₁).mono h₂))).bind fun L₃ hs h₃ hhs => .pure ((hh.mono h₃).append hhs)

end Eval

include ih

/-! ## Calls of script functions -/

theorem KeepsAt.runCode {code : FunctionCode} {this : ScriptValue} {args : List ScriptValue}
    (context : Nat) (hcode : InUse L code.holdings) (hthis : InUse L this.holdings)
    (hargs : InUse L (holdingsOfScript args)) :
    Keeps R L (Run.runCode fuel context code this args) fun L v => InUse L v.holdings := by
  cases code with
  | expression body => exact ih.eval (hthis.append hargs) hcode
  | member w facet label id exact =>
    exact ih.callMemberFunction context facet label id exact (hcode _ List.mem_cons_self) hthis hargs
  | inherited className label signatures =>
    dsimp only [Run.runCode]
    split
    · exact .fail rfl
    next receiver hreceiver =>
      split
      next s hostArgs happlicable =>
        have hmem : receiver.holding ∈ L := hthis _ (by
          rw [ScriptValue.holding_of_host? hreceiver]
          exact List.mem_singleton_self _)
        refine (ih.invoke s hmem fun x hx => hargs x ?_).bind fun L₁ v _ hv =>
          .pure fun x hx => hv x (by rwa [HostValue.holdings_box] at hx)
        exact holdings_firstApplicable happlicable hx
      next => exact .fail rfl

theorem KeepsAt.callFunction_succ {f : FunctionRef} {this : ScriptValue}
    {args : List ScriptValue} (context : Nat) (hf : .function f.id ∈ L)
    (hthis : InUse L this.holdings) (hargs : InUse L (holdingsOfScript args)) :
    Keeps R L (Run.callFunction (fuel + 1) context f this args) fun L v => InUse L v.holdings := by
  rw [Run.callFunction_succ]
  refine .withCall _ (.keeping _ (.withStore fun s hs => ?_))
  split
  · exact .fail rfl
  next code hcode =>
    refine ih.runCode context (fun x hx => ?_) hthis hargs
    exact R.closed hs hf ((Store.held_function _).mpr ⟨code, hcode, hx⟩)

theorem KeepsAt.callMemberFunction_succ {w : WrapperRef} {this : ScriptValue}
    {args : List ScriptValue} (context : Nat) (facet : Facet) (label : String) (id : MemberId)
    (exact : Bool) (hw : .wrapper w ∈ L) (hthis : InUse L this.holdings)
    (hargs : InUse L (holdingsOfScript args)) :
    Keeps R L (Run.callMemberFunction (fuel + 1) context w facet label id exact this args)
      fun L v => InUse L v.holdings := by
  rw [Run.callMemberFunction_succ]
  refine (Keeps.pickMember hw facet label id exact args).bind fun L₁ id h₁ _ => ?_
  refine .ofFit fun s hs => ?_
  unfold dispatchOn
  split
  next p =>
    have hp : .pair p ∈ L₁ := h₁ _ (hthis _ List.mem_cons_self)
    refine ih.dispatch context id (R.home_pair hs hp) (fun q hq => ?_) (hargs.mono h₁)
    cases hq
    exact hp
  next f =>
    have hf : .facet f ∈ L₁ := h₁ _ (hthis _ List.mem_cons_self)
    exact ih.dispatch context id (R.home_facet hs hf) (fun p hp => by cases hp)
      (hargs.mono h₁)
  next => exact .fail rfl

theorem KeepsAt.callValue_succ {f this : ScriptValue} {args : List ScriptValue} (context : Nat)
    (hf : InUse L f.holdings) (hthis : InUse L this.holdings)
    (hargs : InUse L (holdingsOfScript args)) :
    Keeps R L (Run.callValue (fuel + 1) context f this args) fun L v => InUse L v.holdings := by
  cases f <;> rw [Run.callValue.eq_def] <;> dsimp only
  case function f => exact ih.callFunction context (hf _ List.mem_cons_self) hthis hargs
  all_goals exact .fail rfl

theorem KeepsAt.callProperty_succ {target : ScriptValue} {args : List ScriptValue}
    (context : Nat) (name : String) (htarget : InUse L target.holdings)
    (hargs : InUse L (holdingsOfScript args)) :
    Keeps R L (Run.callProperty (fuel + 1) context target name args)
      fun L v => InUse L v.holdings := by
  rw [Run.callProperty]
  refine (Keeps.getProperty htarget name).bind fun L₁ v h₁ hv => ?_
  split
  next f =>
    have hf : .function f.id ∈ L₁ := hv _ rfl _ List.mem_cons_self
    exact ih.callFunction context hf (htarget.mono h₁) (hargs.mono h₁)
  · exact .fail rfl
  · exact .fail rfl

/-! ## Dispatch -/

theorem KeepsAt.dispatch_succ {w : WrapperRef} {receiver : Option Pair}
    {args : List ScriptValue} (context : Nat) (id : MemberId) (hw : R.Home L w)
    (hreceiver : ∀ p, receiver = some p → .pair p ∈ L) (hargs : InUse L (holdingsOfScript args)) :
    Keeps R L (Run.dispatch (fuel + 1) context w receiver id args)
      fun L v => InUse L v.holdings := by
  rw [Run.dispatch]
  refine .ofFit fun s hs => (Keeps.wrapper (R.home_wrapper hs hw)).bind fun L₁ c h₁ hc => ?_
  have hmember {facet : Facet} {i : Nat} {m : Member} (hm : (c.plan.members facet)[i]? = some m) :
      .function m.function.id ∈ L₁ := by
    refine hc _ (WrapperPlan.function_mem_holdings (List.mem_append_left _ ?_))
    rw [List.mem_append]
    cases facet with
    | instances => exact .inl (List.mem_of_getElem? hm)
    | statics => exact .inr (List.mem_of_getElem? hm)
  split
  · exact .fail rfl
  · exact (ih.construct context (R.home_mono h₁ hw) (hargs.mono h₁)).bind fun L₂ p _ hp =>
      .pure (inUse_singleton hp)
  · split
    · exact .fail rfl
    next m hm =>
      split
      · split
        · exact .fail rfl
        next p =>
          have hp : .pair p ∈ L₁ := h₁ _ (hreceiver p rfl)
          exact ih.callFunction context (hmember hm) (inUse_singleton hp) (hargs.mono h₁)
      · exact (Keeps.facetOf (R.home_mono h₁ hw)).bind fun L₂ f h₂ hf =>
          ih.callFunction context (h₂ _ (hmember hm)) (inUse_singleton hf)
            ((hargs.mono h₁).mono h₂)

theorem KeepsAt.runConstructor {c : Wrapper} {p : Pair} {args : List ScriptValue} (context : Nat)
    (hplan : InUse L c.plan.holdings) (hp : .pair p ∈ L)
    (hargs : InUse L (holdingsOfScript args)) :
    Keeps R L (Run.runConstructor fuel context c p args) fun L p => .pair p ∈ L := by
  unfold Run.runConstructor
  split
  · exact .pure hp
  next m hm =>
    have hfunction : .function m.function.id ∈ L := by
      refine hplan _ (WrapperPlan.function_mem_holdings (List.mem_append_right _ ?_))
      rw [hm]
      exact List.mem_singleton_self _
    have hthis : InUse L (ScriptValue.object (.pair p)).holdings := inUse_singleton hp
    exact (ih.callFunction context hfunction hthis hargs).bind fun L₁ _ h₁ _ => .pure (h₁ _ hp)

theorem KeepsAt.construct_succ {w : WrapperRef} {args : List ScriptValue} (context : Nat)
    (hw : R.Home L w) (hargs : InUse L (holdingsOfScript args)) :
    Keeps R L (Run.construct (fuel + 1) context w args) fun L p => .pair p ∈ L := by
  rw [Run.construct_succ]
  exact (Keeps.makePair hw hargs).bind fun L₁ r h₁ hr =>
    ih.runConstructor context hr.1 hr.2 (hargs.mono h₁)

/-! ## Host code -/

theorem KeepsAt.invoke_succ {receiver : HostObject} {args : List HostValue} (s : Signature)
    (hreceiver : receiver.holding ∈ L) (hargs : InUse L (holdingsOfHost args)) :
    Keeps R L (Run.invoke (fuel + 1) receiver s args) fun L v => InUse L v.holdings := by
  rw [Run.invoke]
  refine (Keeps.checkFit s args).bind fun L₁ _ h₁ _ => .ofFit fun store hstore => ?_
  split
  · exact .fail rfl
  next owner m hfound =>
    obtain ⟨hinherits, hm⟩ := HostType.virtual?_inherits hfound
    have howner := Regime.inherits hstore (Regime.object hstore (h₁ _ hreceiver)) hinherits
    refine .keeping _ (ih.runMethod howner hm (fun o ho => ?_) (hargs.mono h₁))
    cases ho
    exact h₁ _ hreceiver

theorem KeepsAt.runMethod_succ {owner : HostType} {m : Method} {receiver : Option HostObject}
    {args : List HostValue} (howner : .type owner ∈ L) (hm : m ∈ owner.methods)
    (hreceiver : ∀ o, receiver = some o → o.holding ∈ L) (hargs : InUse L (holdingsOfHost args)) :
    Keeps R L (Run.runMethod (fuel + 1) owner m receiver args) fun L v => InUse L v.holdings := by
  rw [Run.runMethod_succ]
  have hbody : Keeps R L (runBody fuel owner m receiver args) fun L v => InUse L v.holdings := by
    unfold runBody
    split
    next code hcode => exact ih.runNative howner hm hcode hreceiver hargs
    · exact .fail rfl
    next member key _ =>
      split
      · exact .fail rfl
      next o => exact ih.forward member key m.signature (hreceiver o rfl) hargs
  refine hbody.bind fun L₁ v _ hv => ?_
  split
  · exact .pure (.nil _)
  · exact .pure hv

theorem KeepsAt.forward_succ {receiver : HostObject} {args : List HostValue}
    (member : MemberId) (key : String) (s : Signature) (hreceiver : receiver.holding ∈ L)
    (hargs : InUse L (holdingsOfHost args)) :
    Keeps R L (Run.forward (fuel + 1) member key s receiver args)
      fun L v => InUse L v.holdings := by
  rw [Run.forward]
  refine Keeps.currentContext.bind fun L₁ context h₁ _ => .ofFit fun store hstore => ?_
  split
  · exact .fail rfl
  next p =>
    have hp : .pair p ∈ L₁ := h₁ _ hreceiver
    refine (ih.dispatch context member (R.home_pair hstore hp) (fun q hq => ?_) ?_).bind
      fun L₂ v _ hv => .ofConversion fun h hh x hx => hv x (ScriptValue.holdings_unbox v hh hx)
    · cases hq
      exact hp
    · rw [HostValue.holdings_boxAll]
      exact hargs.mono h₁

theorem KeepsAt.runNative_succ {owner : HostType} {m : Method} {code : Nat} {call : NativeCall}
    (howner : .type owner ∈ L) (hm : m ∈ owner.methods) (hcode : m.body = .native code)
    (hreceiver : ∀ o, call.receiver = some o → o.holding ∈ L)
    (hargs : InUse L (holdingsOfHost call.args)) :
    Keeps R L (Run.runNative (fuel + 1) code call) fun L v => InUse L v.holdings := by
  rw [Run.runNative]
  refine .withStore fun s hs => ?_
  split
  · exact .pure (.nil _)
  next c hc =>
    have hconstants : InUse L c.holdings := fun x hx => R.closed hs howner
      (Store.mem_heldByType.mpr (.inr (.inr ⟨m, hm, code, c, hcode, hc, hx⟩)))
    cases c <;> dsimp only
    case const v => exact .pure hconstants
    case arg index => exact .arg hargs index
    case int | long | double =>
      exact (Keeps.argAs call _ _ _).bind fun _ _ _ _ => .pure (.nil _)
    case string =>
      refine (Keeps.argAs call _ _ _).bind fun _ text _ _ => .pure ?_
      cases text <;> exact .nil _
    case args => exact .pure hargs
    case argCount | methodName | describe => exact .pure (.nil _)
    case className | identity | identityText =>
      exact (Keeps.this hreceiver).bind fun _ _ _ _ => .pure (.nil _)
    case this =>
      refine (Keeps.this hreceiver).bind fun L₁ o _ ho => .pure fun x hx => ?_
      cases List.mem_singleton.mp hx
      exact ho
    case counter => exact (Keeps.counterOf hreceiver).bind fun _ _ _ _ => .pure (.nil _)
    case addToCounter index =>
      refine (Keeps.argAs call _ _ _).bind fun L₁ summand h₁ _ => ?_
      have hreceiver₁ := fun o ho => h₁ _ (hreceiver o ho)
      refine (Keeps.counterOf hreceiver₁).bind fun L₂ n h₂ _ => ?_
      have hreceiver₂ := fun o ho => h₂ _ (hreceiver₁ o ho)
      refine (Keeps.this hreceiver₂).bind fun L₃ o _ _ => ?_
      exact Keeps.bind (P := fun _ _ => True) (.change fun s hs => R.counter _ o hs) fun _ _ _ _ =>
        .pure (.nil _)
    case throw => exact .fail rfl
    case invoke name descriptor args =>
      refine (Keeps.this hreceiver).bind fun L₁ o h₁ ho => ?_
      exact (Keeps.parseSignature name descriptor).bind fun L₂ s h₂ _ =>
        ih.invoke s (h₂ _ ho) ((hconstants.mono h₁).mono h₂)
    case sameObject =>
      refine (Keeps.this hreceiver).bind fun L₁ o h₁ _ => ?_
      exact (Keeps.arg (hargs.mono h₁) 0).bind fun _ _ _ _ => .pure (.nil _)

theorem KeepsAt.succ : KeepsAt R (fuel + 1) where
  eval hframe he := ih.eval_succ hframe he
  evalAll hframe hes := ih.evalAll_succ hframe hes
  evalLast hframe hlast hes := ih.evalLast_succ hframe hlast hes
  evalUnboxed params hframe hes := ih.evalUnboxed_succ hframe params hes
  callFunction := ih.callFunction_succ
  callMemberFunction := ih.callMemberFunction_succ
  callValue := ih.callValue_succ
  callProperty := ih.callProperty_succ
  dispatch := ih.dispatch_succ
  construct := ih.construct_succ
  invoke := ih.invoke_succ
  runMethod := ih.runMethod_succ
  forward := ih.forward_succ
  runNative := ih.runNative_succ

end Succ

theorem keeps (R : Regime) (fuel : Nat) : KeepsAt R fuel := by
  induction fuel with
  | zero => exact .zero
  | succ fuel ih => exact ih.succ

end Run

end ScriptClass
