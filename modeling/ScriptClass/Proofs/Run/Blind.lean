import ScriptClass.Proofs.Run.Dispatch
import ScriptClass.Proofs.Run.Construction
import ScriptClass.Proofs.Store.Unlisted

/-!
# Code is blind to listings

A run is `Blind` if it does in a store without listings what it does in the store: it gives the same
answer, and leaves the same but for listings. The primitives are blind, and by induction on the fuel
so is every rule (`blind`), for none reads the record of a load unit.
-/

namespace ScriptClass

namespace Run

/-- The run does the same where listings left no trace. -/
def Blind {α : Type} (x : Run α) : Prop :=
  ∀ s : Store, x.run s.unlisted = ((x.run s).1, (x.run s).2.unlisted)

namespace Blind

variable {α β : Type}

theorem pure (a : α) : Blind (Pure.pure a : Run α) := fun _ => rfl

theorem exhausted : Blind (throw .exhausted : Run α) := fun _ => rfl

theorem fail (e : RuntimeError) : Blind (Run.fail e : Run α) := fun _ => rfl

theorem bind {x : Run α} {f : α → Run β} (hx : Blind x) (hf : ∀ a, Blind (f a)) :
    Blind (x >>= f) := by
  intro s
  rw [run_bind, run_bind, hx s]
  rcases x.run s with ⟨e | a, t⟩
  · rfl
  · exact hf a t

/-- A run whose first part looks at nothing of listings. -/
theorem withStore {f : Store → Run β} (hsame : ∀ s : Store, f s.unlisted = f s)
    (hf : ∀ s, Blind (f s)) : Blind (MonadState.get >>= f) := by
  intro s
  rw [run_bind, run_bind]
  exact (congrArg (·.run s.unlisted) (hsame s)).trans (hf s s)

/-- A run whose first part looks up a wrapper class, but not its record. -/
theorem withWrapper (w : WrapperRef) {f : Wrapper → Run β}
    (hsame : ∀ c : Wrapper, f c.unlisted = f c) (hf : ∀ c, Blind (f c)) :
    Blind (Run.wrapper w >>= f) := by
  intro s
  cases hc : s.wrapper? w with
  | none =>
    have hc' : s.unlisted.wrapper? w = none := by rw [Store.wrapper?_unlisted, hc]; rfl
    rw [run_bind, run_bind, run_wrapper_none hc, run_wrapper_none hc']
  | some c =>
    have hc' : s.unlisted.wrapper? w = some c.unlisted := by rw [Store.wrapper?_unlisted, hc]; rfl
    rw [run_bind_ok (run_wrapper hc), run_bind_ok (run_wrapper hc'), hsame]
    exact hf c s

theorem ofExcept (x : Except RuntimeError α) : Blind (Run.ofExcept x) := by
  cases x with
  | ok a => exact .pure a
  | error e => exact .fail e

theorem ofConversion (x : Except ConversionError α) : Blind (Run.ofConversion x) := .ofExcept _

theorem ofChange {f : Store → α × Store}
    (hf : ∀ s : Store, f s.unlisted = ((f s).1, (f s).2.unlisted)) : Blind (Run.ofChange f) := by
  intro s
  simp only [Run.ofChange, ExceptT.run_mk, hf s]

theorem change {f : Store → Store} (hf : ∀ s : Store, f s.unlisted = (f s).unlisted) :
    Blind (modify f : Run Unit) := fun s =>
  congrArg (fun t => ((.ok () : Except Halt Unit), t)) (hf s)

theorem ofUpdate {f : Store → Except RuntimeError Store}
    (hf : ∀ s : Store, f s.unlisted = (f s).map Store.unlisted) : Blind (Run.ofUpdate f) := by
  intro s
  simp only [Run.ofUpdate, ExceptT.run_mk, hf s]
  cases f s <;> rfl

theorem keeping (vs : List ScriptValue) {x : Run α} (hx : Blind x) : Blind (Run.keeping vs x) := by
  intro s
  rw [run_keeping, run_keeping]
  show letGo s.unlisted (x.run (s.holding vs).unlisted) = _
  rw [hx]
  rfl

theorem withCall (context : Nat) {x : Run α} (hx : Blind x) : Blind (Run.withCall context x) := by
  intro s
  cases hpush : s.contexts.pushCall context with
  | error e =>
    rw [run_withCall_error hpush, run_withCall_error (s := s.unlisted) hpush]
  | ok cs =>
    have hpush' : s.unlisted.contexts.pushCall context = .ok cs := hpush
    have hpart : x.run { s.unlisted with contexts := cs } = _ := hx { s with contexts := cs }
    simp only [Run.withCall, ExceptT.run_mk, hpush, hpush', hpart]
    rfl

theorem attempt {x : Run ScriptValue} (hx : Blind x) : Blind (Run.attempt x) := by
  intro s
  simp only [Run.attempt, ExceptT.run_mk, hx s]
  rcases x.run s with ⟨(e | _) | v, t⟩ <;> rfl

/-! ## Properties, contexts and classes -/

theorem getProperty (v : ScriptValue) (name : String) : Blind (Run.getProperty v name) := by
  cases v with
  | object o => exact .ofChange fun s => s.getProperty_unlisted o name
  | _ => exact .pure none

theorem putProperty (target : ScriptValue) (name : String) (v : ScriptValue) :
    Blind (Run.putProperty target name v) := by
  cases target with
  | object o => exact .ofUpdate fun s => s.putProperty_unlisted o name v
  | _ => exact .fail _

theorem currentContext : Blind Run.currentContext :=
  .withStore (fun _ => rfl) fun s => .ofExcept s.contexts.current

theorem counterOf (call : NativeCall) : Blind (Run.counterOf call) := by
  refine (Blind.ofExcept call.this).bind fun o => .withStore (fun _ => rfl) fun s => ?_
  cases s.counter? o with
  | none => exact .fail _
  | some n => exact .pure n

theorem backing (c : Wrapper) : Blind (Run.backing c) := by
  unfold Run.backing
  split
  · exact .pure _
  · exact .fail _

theorem checkBound (c : Wrapper) : Blind (Run.checkBound c) := by
  unfold Run.checkBound
  split
  · exact .pure ()
  · exact .fail _

/-- A static facet is held in both stores or in neither. -/
theorem facetOf (w : WrapperRef) : Blind (Run.facetOf w) := by
  refine .withWrapper w (fun _ => rfl) fun c => (Blind.checkBound c).bind fun _ =>
    .withStore (fun s => by rw [Store.isHeld_unlisted]) fun s => ?_
  split
  · exact .pure _
  · refine (Blind.backing c).bind fun t => ?_
    have hnew : Blind (Run.ofChange fun s => s.newFacet t w) := .ofChange fun s => rfl
    refine hnew.bind fun f => Blind.bind (.change fun s => ?_) fun _ => .pure f
    exact s.updateWrapper_unlisted w fun _ => rfl

theorem pickMember (w : WrapperRef) (facet : Facet) (label : String) (id : MemberId) (exact : Bool)
    (args : List ScriptValue) : Blind (Run.pickMember w facet label id exact args) := by
  unfold Run.pickMember
  split
  · exact .pure id
  · refine .withWrapper w (fun _ => rfl) fun c => ?_
    split
    · exact .pure _
    · exact .fail _

end Blind

/-! ## Rules -/

/-- Every rule is blind with so much fuel. -/
structure BlindAt (fuel : Nat) : Prop where
  eval (frame : Frame) (e : Expr) : Blind (eval fuel frame e)
  evalAll (frame : Frame) (es : List Expr) : Blind (evalAll fuel frame es)
  evalLast (frame : Frame) (last : ScriptValue) (es : List Expr) :
    Blind (evalLast fuel frame last es)
  evalUnboxed (frame : Frame) (es : List Expr) (params : List Descriptor) :
    Blind (evalUnboxed fuel frame es params)
  callFunction (context : Nat) (f : FunctionRef) (this : ScriptValue) (args : List ScriptValue) :
    Blind (callFunction fuel context f this args)
  callMemberFunction (context : Nat) (w : WrapperRef) (facet : Facet) (label : String)
    (id : MemberId) (exact : Bool) (this : ScriptValue) (args : List ScriptValue) :
    Blind (callMemberFunction fuel context w facet label id exact this args)
  callValue (context : Nat) (f this : ScriptValue) (args : List ScriptValue) :
    Blind (callValue fuel context f this args)
  callProperty (context : Nat) (target : ScriptValue) (name : String) (args : List ScriptValue) :
    Blind (callProperty fuel context target name args)
  dispatch (context : Nat) (w : WrapperRef) (receiver : Option Pair) (id : MemberId)
    (args : List ScriptValue) : Blind (dispatch fuel context w receiver id args)
  construct (context : Nat) (w : WrapperRef) (args : List ScriptValue) :
    Blind (construct fuel context w args)
  invoke (receiver : HostObject) (s : Signature) (args : List HostValue) :
    Blind (invoke fuel receiver s args)
  runMethod (owner : HostType) (m : Method) (receiver : Option HostObject) (args : List HostValue) :
    Blind (runMethod fuel owner m receiver args)
  forward (member : MemberId) (key : String) (s : Signature) (receiver : HostObject)
    (args : List HostValue) : Blind (forward fuel member key s receiver args)
  runNative (code : Nat) (call : NativeCall) : Blind (runNative fuel code call)

theorem BlindAt.zero : BlindAt 0 where
  eval _ _ := by rw [Run.eval]; exact .exhausted
  evalAll _ _ := by rw [Run.evalAll]; exact .exhausted
  evalLast _ _ _ := by rw [Run.evalLast]; exact .exhausted
  evalUnboxed _ _ _ := by rw [Run.evalUnboxed]; exact .exhausted
  callFunction _ _ _ _ := by rw [Run.callFunction]; exact .exhausted
  callMemberFunction _ _ _ _ _ _ _ _ := by rw [Run.callMemberFunction]; exact .exhausted
  callValue _ _ _ _ := by rw [Run.callValue]; exact .exhausted
  callProperty _ _ _ _ := by rw [Run.callProperty]; exact .exhausted
  dispatch _ _ _ _ _ := by rw [Run.dispatch]; exact .exhausted
  construct _ _ _ := by rw [Run.construct]; exact .exhausted
  invoke _ _ _ := by rw [Run.invoke]; exact .exhausted
  runMethod _ _ _ _ := by rw [Run.runMethod]; exact .exhausted
  forward _ _ _ _ _ := by rw [Run.forward]; exact .exhausted
  runNative _ _ := by rw [Run.runNative]; exact .exhausted

section Succ

variable {fuel : Nat} (ih : BlindAt fuel)

include ih

/-! ### Script code -/

theorem BlindAt.eval_succ (frame : Frame) (e : Expr) : Blind (Run.eval (fuel + 1) frame e) := by
  cases e <;> rw [Run.eval.eq_def] <;> dsimp only
  case const | arg | args | this => exact .pure _
  case depth => exact .withStore (fun _ => rfl) fun _ => .pure _
  case get of name =>
    exact (ih.eval frame of).bind fun o => (Blind.getProperty o name).bind fun _ => .pure _
  case put of name value =>
    exact (ih.eval frame value).bind fun v => (Blind.keeping _ (ih.eval frame of)).bind fun o =>
      (Blind.putProperty o name v).bind fun _ => .pure _
  case call of name args =>
    exact (ih.evalAll frame args).bind fun args => (Blind.keeping _ (ih.eval frame of)).bind fun o =>
      ih.callProperty _ o name args
  case apply function receiver args =>
    exact (ih.evalAll frame args).bind fun args =>
      (Blind.keeping _ (ih.eval frame function)).bind fun f =>
        (Blind.keeping _ (ih.eval frame receiver)).bind fun this => ih.callValue _ f this args
  case invoke of method args =>
    refine (ih.eval frame of).bind fun o => ?_
    cases o.host? with
    | none => exact .fail _
    | some host =>
      exact (Blind.keeping _ (ih.evalUnboxed frame args method.params)).bind fun args =>
        (ih.invoke host method args).bind fun _ => .pure _
  case throw => exact .fail _
  case attempt body => exact .attempt (ih.eval frame body)
  case seq list => exact ih.evalLast frame .undefined list
  case array list => exact (ih.evalAll frame list).bind fun _ => .pure _
  case add a b =>
    refine (ih.eval frame a).bind fun x => (Blind.keeping _ (ih.eval frame b)).bind fun y => ?_
    split <;> exact .pure _
  case lt a b =>
    refine (ih.eval frame a).bind fun x => (Blind.keeping _ (ih.eval frame b)).bind fun y => ?_
    split <;> exact .pure _
  case ite condition yes no =>
    refine (ih.eval frame condition).bind fun c => ?_
    split
    · exact ih.eval frame yes
    · exact ih.eval frame no
  case describe of => exact (ih.eval frame of).bind fun _ => .pure _
  case count name =>
    have hcount : Blind (ofChange fun s => s.advance name) := .ofChange fun _ => rfl
    exact hcount.bind fun _ => .pure _

theorem BlindAt.evalAll_succ (frame : Frame) (es : List Expr) :
    Blind (Run.evalAll (fuel + 1) frame es) := by
  cases es <;> rw [Run.evalAll.eq_def] <;> dsimp only
  case nil => exact .pure _
  case cons e es =>
    exact (ih.eval frame e).bind fun v =>
      (Blind.keeping _ (ih.evalAll frame es)).bind fun _ => .pure _

theorem BlindAt.evalLast_succ (frame : Frame) (last : ScriptValue) (es : List Expr) :
    Blind (Run.evalLast (fuel + 1) frame last es) := by
  cases es <;> rw [Run.evalLast.eq_def] <;> dsimp only
  case nil => exact .pure _
  case cons e es =>
    exact (Blind.keeping _ (ih.eval frame e)).bind fun v => ih.evalLast frame v es

theorem BlindAt.evalUnboxed_succ (frame : Frame) (es : List Expr) (params : List Descriptor) :
    Blind (Run.evalUnboxed (fuel + 1) frame es params) := by
  cases es <;> rw [Run.evalUnboxed.eq_def] <;> dsimp only
  case nil => exact .pure _
  case cons e es =>
    exact (ih.eval frame e).bind fun v => (Blind.ofConversion _).bind fun h =>
      (Blind.keeping _ (ih.evalUnboxed frame es params.tail)).bind fun _ => .pure _

/-! ### Calls of script functions -/

theorem BlindAt.runCode (context : Nat) (code : FunctionCode) (this : ScriptValue)
    (args : List ScriptValue) : Blind (Run.runCode fuel context code this args) := by
  cases code with
  | expression body => exact ih.eval _ body
  | member w facet label id exact =>
    exact ih.callMemberFunction context w facet label id exact this args
  | inherited className label signatures =>
    dsimp only [Run.runCode]
    split
    · exact .fail _
    · split
      · exact (ih.invoke _ _ _).bind fun _ => .pure _
      · exact .fail _

theorem BlindAt.callFunction_succ (context : Nat) (f : FunctionRef) (this : ScriptValue)
    (args : List ScriptValue) : Blind (Run.callFunction (fuel + 1) context f this args) := by
  rw [Run.callFunction_succ]
  refine .withCall _ (.keeping _ (.withStore (fun _ => rfl) fun s => ?_))
  split
  · exact .fail _
  · exact ih.runCode context _ this args

theorem BlindAt.callMemberFunction_succ (context : Nat) (w : WrapperRef) (facet : Facet)
    (label : String) (id : MemberId) (exact : Bool) (this : ScriptValue) (args : List ScriptValue) :
    Blind (Run.callMemberFunction (fuel + 1) context w facet label id exact this args) := by
  rw [Run.callMemberFunction_succ]
  refine (Blind.pickMember w facet label id exact args).bind fun id => ?_
  unfold dispatchOn
  split
  · exact ih.dispatch context _ _ id args
  · exact ih.dispatch context _ _ id args
  · exact .fail _

theorem BlindAt.callValue_succ (context : Nat) (f this : ScriptValue) (args : List ScriptValue) :
    Blind (Run.callValue (fuel + 1) context f this args) := by
  cases f <;> rw [Run.callValue.eq_def] <;> dsimp only
  case function f => exact ih.callFunction context f this args
  all_goals exact .fail _

theorem BlindAt.callProperty_succ (context : Nat) (target : ScriptValue) (name : String)
    (args : List ScriptValue) : Blind (Run.callProperty (fuel + 1) context target name args) := by
  rw [Run.callProperty]
  refine (Blind.getProperty target name).bind fun v => ?_
  split
  · exact ih.callFunction context _ target args
  · exact .fail _
  · exact .fail _

/-! ### Dispatch -/

theorem BlindAt.dispatch_succ (context : Nat) (w : WrapperRef) (receiver : Option Pair)
    (id : MemberId) (args : List ScriptValue) :
    Blind (Run.dispatch (fuel + 1) context w receiver id args) := by
  rw [Run.dispatch]
  refine .withWrapper w (fun _ => rfl) fun c => ?_
  split
  · exact .fail _
  · exact (ih.construct context w args).bind fun _ => .pure _
  · split
    · exact .fail _
    · split
      · split
        · exact .fail _
        · exact ih.callFunction context _ _ args
      · exact (Blind.facetOf w).bind fun f => ih.callFunction context _ _ args

theorem BlindAt.construct_succ (context : Nat) (w : WrapperRef) (args : List ScriptValue) :
    Blind (Run.construct (fuel + 1) context w args) := by
  rw [Run.construct]
  refine .withWrapper w (fun _ => rfl) fun c => (Blind.checkBound c).bind fun _ =>
    (Blind.backing c).bind fun t => ?_
  split
  · exact .fail _
  · refine (Blind.ofExcept _).bind fun _ => ?_
    have hnew : Blind (ofChange fun s => s.newPair t w ⟨t.startCounter, c.plan.prototype⟩) :=
      .ofChange fun _ => rfl
    refine hnew.bind fun p => ?_
    split
    · exact .pure p
    · exact (ih.callFunction context _ _ args).bind fun _ => .pure p

/-! ### Host code -/

theorem BlindAt.invoke_succ (receiver : HostObject) (s : Signature) (args : List HostValue) :
    Blind (Run.invoke (fuel + 1) receiver s args) := by
  rw [Run.invoke]
  refine (Blind.ofExcept _).bind fun _ => ?_
  split
  · exact .fail _
  · exact .keeping _ (ih.runMethod _ _ _ args)

theorem BlindAt.runMethod_succ (owner : HostType) (m : Method) (receiver : Option HostObject)
    (args : List HostValue) : Blind (Run.runMethod (fuel + 1) owner m receiver args) := by
  rw [Run.runMethod_succ]
  have hbody : Blind (runBody fuel owner m receiver args) := by
    unfold runBody
    split
    · exact ih.runNative _ _
    · exact .fail _
    · split
      · exact .fail _
      · exact ih.forward _ _ _ _ args
  refine hbody.bind fun v => ?_
  split <;> exact .pure _

theorem BlindAt.forward_succ (member : MemberId) (key : String) (s : Signature)
    (receiver : HostObject) (args : List HostValue) :
    Blind (Run.forward (fuel + 1) member key s receiver args) := by
  rw [Run.forward]
  refine Blind.currentContext.bind fun context => ?_
  split
  · exact .fail _
  · exact (ih.dispatch context _ _ member _).bind fun _ => .ofConversion _

theorem BlindAt.runNative_succ (code : Nat) (call : NativeCall) :
    Blind (Run.runNative (fuel + 1) code call) := by
  rw [Run.runNative]
  refine .withStore (fun _ => rfl) fun s => ?_
  split
  · exact .pure _
  next c _ =>
    cases c <;> dsimp only
    case const | args | argCount | methodName | describe => exact .pure _
    case arg => exact .ofExcept _
    case int | long | double | string | className | this | identity | identityText =>
      exact (Blind.ofExcept _).bind fun _ => .pure _
    case counter => exact (Blind.counterOf call).bind fun _ => .pure _
    case addToCounter index =>
      refine (Blind.ofExcept _).bind fun summand => (Blind.counterOf call).bind fun n =>
        (Blind.ofExcept _).bind fun receiver => ?_
      refine Blind.bind (.change fun s => ?_) fun _ => .pure _
      cases receiver <;> rfl
    case throw => exact .fail _
    case invoke name descriptor values _ =>
      exact (Blind.ofExcept _).bind fun receiver => (Blind.ofExcept _).bind fun s =>
        ih.invoke receiver s values
    case sameObject =>
      exact (Blind.ofExcept _).bind fun _ => (Blind.ofExcept _).bind fun _ => .pure _

theorem BlindAt.succ : BlindAt (fuel + 1) where
  eval := ih.eval_succ
  evalAll := ih.evalAll_succ
  evalLast := ih.evalLast_succ
  evalUnboxed := ih.evalUnboxed_succ
  callFunction := ih.callFunction_succ
  callMemberFunction := ih.callMemberFunction_succ
  callValue := ih.callValue_succ
  callProperty := ih.callProperty_succ
  dispatch := ih.dispatch_succ
  construct := ih.construct_succ
  invoke := ih.invoke_succ
  runMethod := ih.runMethod_succ
  forward := ih.forward_succ
  runNative := ih.runNative_succ

end Succ

theorem blind (fuel : Nat) : BlindAt fuel := by
  induction fuel with
  | zero => exact .zero
  | succ fuel ih => exact ih.succ

end Run

end ScriptClass
