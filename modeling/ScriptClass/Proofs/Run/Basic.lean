import ScriptClass.Run.Call

/-!
# Runs on a store

What a run answers and leaves, part by part. `run_bind` follows a run through its
parts, and each primitive has one equation.

A call of a script function that its context lets in runs the function's code in
the store `Store.inside`, one call deeper and holding the function, its receiver
and its arguments, and ends with `Run.leave` (`callFunction_of_code`). A call that
ends where it began leaves the store as it was (`leave_inside`).

A member function first picks an id and then dispatches it; a method runs its body
and discards the result if it is `void`. Both halves have names of their own here.
-/

namespace ScriptClass

/-- The store with more values held. -/
def Store.holding (s : Store) (vs : List ScriptValue) : Store :=
  { s with roots := holdingsOfScript vs ++ s.roots }

/-- The store inside a call that has changed the contexts to `cs` and holds values. -/
def Store.inside (s : Store) (cs : Contexts) (vs : List ScriptValue) : Store :=
  { s.holding vs with contexts := cs }

@[simp] theorem Store.inside_functions (s : Store) (cs : Contexts) (vs : List ScriptValue) :
    (s.inside cs vs).functions = s.functions := rfl

namespace Contexts

/-- A call that is entered and dropped leaves the contexts as they were. -/
theorem popCall_of_pushCall {cs cs' : Contexts} {id : Nat} (h : cs.pushCall id = .ok cs') :
    cs'.popCall id = cs := by
  unfold pushCall at h
  cases hc : cs.get? id with
  | none => simp only [hc, reduceCtorEq] at h
  | some c =>
    simp only [hc] at h
    split at h <;> cases h
    simp only [popCall, update]
    congr 1
    refine Array.ext (by simp) fun i h₁ h₂ => ?_
    simp only [Array.getElem_modify]
    split <;> rfl

/-- A context takes calls exactly below its limit. -/
theorem pushCall_of_lt {cs : Contexts} {id : Nat} {c : Context} (h : cs.get? id = some c)
    (hd : c.depth < c.maxDepth) :
    cs.pushCall id = .ok (cs.update id fun c => { c with depth := c.depth + 1 }) := by
  simp only [pushCall, h, if_neg (Nat.not_le.mpr hd)]

end Contexts

namespace Run

variable {α β : Type}

theorem run_bind (x : Run α) (f : α → Run β) (s : Store) :
    (x >>= f).run s =
      match x.run s with
      | (.ok a, t) => (f a).run t
      | (.error e, t) => (.error e, t) := by
  have hrun : (x >>= f).run s = ExceptT.bindCont f (x.run s).1 (x.run s).2 := rfl
  rw [hrun]
  rcases x.run s with ⟨_ | _, _⟩ <;> rfl

theorem run_get (s : Store) : (get : Run Store).run s = (.ok s, s) := rfl

theorem run_ofExcept_ok (a : α) (s : Store) : (ofExcept (.ok a)).run s = (.ok a, s) := rfl

theorem run_ofExcept_error (e : RuntimeError) (s : Store) :
    (ofExcept (.error e) : Run α).run s = (.error (.failed e), s) := rfl

theorem run_wrapper {s : Store} {w : WrapperRef} {c : Wrapper} (h : s.wrapper? w = some c) :
    (wrapper w).run s = (.ok c, s) := by
  simp only [wrapper, run_bind, run_get, h]
  rfl

theorem run_wrapper_none {s : Store} {w : WrapperRef} (h : s.wrapper? w = none) :
    (wrapper w).run s = (.error (.failed (.unloaded w.backing)), s) := by
  simp only [wrapper, run_bind, run_get, h]
  rfl

theorem run_currentContext {s : Store} {context : Nat} (h : s.contexts.active = some context) :
    currentContext.run s = (.ok context, s) := by
  simp only [currentContext, run_bind, run_get, Contexts.current, h, run_ofExcept_ok]

theorem run_currentContext_none {s : Store} (h : s.contexts.active = none) :
    currentContext.run s = (.error (.failed .noActiveContext), s) := by
  simp only [currentContext, run_bind, run_get, Contexts.current, h, run_ofExcept_error]

/-! ## Holding values and entering calls -/

/-- What a run leaves when the values that it held are let go. -/
def letGo (s : Store) (x : Except Halt α × Store) : Except Halt α × Store :=
  (x.1, { x.2 with roots := s.roots })

/-- What a call leaves when it ends. -/
def leave (s : Store) (context : Nat) (x : Except Halt α × Store) : Except Halt α × Store :=
  (x.1, { x.2 with roots := s.roots, contexts := x.2.contexts.popCall context })

theorem run_keeping (vs : List ScriptValue) (x : Run α) (s : Store) :
    (keeping vs x).run s = letGo s (x.run (s.holding vs)) := rfl

theorem letGo_holding (r : Except Halt α) (s : Store) (vs : List ScriptValue) :
    letGo s (r, s.holding vs) = (r, s) := rfl

theorem leave_inside (r : Except Halt α) {s : Store} {context : Nat} {cs : Contexts}
    (h : s.contexts.pushCall context = .ok cs) (vs : List ScriptValue) :
    leave s context (r, s.inside cs vs) = (r, s) := by
  simp only [leave, Store.inside, Store.holding, Contexts.popCall_of_pushCall h]

theorem run_withCall_keeping {s : Store} {context : Nat} {cs : Contexts}
    (h : s.contexts.pushCall context = .ok cs) (vs : List ScriptValue) (x : Run α) :
    (withCall context (keeping vs x)).run s = leave s context (x.run (s.inside cs vs)) := by
  rw [withCall, ExceptT.run_mk]
  rw [h]
  rfl

theorem run_withCall_error {s : Store} {context : Nat} {e : RuntimeError}
    (h : s.contexts.pushCall context = .error e) (x : Run α) :
    (withCall context x).run s = (.error (.failed e), s) := by
  rw [withCall, ExceptT.run_mk]
  rw [h]

/-! ## Calls of script functions -/

/-- The code of a function, applied to a receiver and arguments. -/
def runCode (fuel context : Nat) (code : FunctionCode) (this : ScriptValue)
    (args : List ScriptValue) : Run ScriptValue :=
  match code with
  | .expression body => eval fuel { context, this, args } body
  | .member w facet label id exact =>
    callMemberFunction fuel context w facet label id exact this args
  | .inherited className label signatures =>
    match this.host? with
    | none => fail (.incompatibleReceiver className label)
    | some receiver =>
      match firstApplicable signatures args with
      | some (s, hostArgs) => do return (← invoke fuel receiver s hostArgs).box
      | none => fail (.noMatchingOverload className label args.length)

theorem callFunction_succ (fuel context : Nat) (f : FunctionRef) (this : ScriptValue)
    (args : List ScriptValue) :
    callFunction (fuel + 1) context f this args =
      withCall context (keeping (.function f :: this :: args) do
        match (← get).functions[f.id]? with
        | none => fail (.notCallable "function")
        | some code => runCode fuel context code this args) := by
  rw [callFunction]
  congr 2
  funext s
  show (bind get _ : Run ScriptValue).run s = (bind get _ : Run ScriptValue).run s
  simp only [run_bind, run_get]
  rcases s.functions[f.id]? with _ | _ | _ | _ <;> rfl

/-- A call within the limit of its context runs the code of the function. -/
theorem callFunction_of_code {s : Store} {context : Nat} {cs : Contexts} {f : FunctionRef}
    {code : FunctionCode} (h : s.contexts.pushCall context = .ok cs)
    (hf : s.functions[f.id]? = some code) (fuel : Nat) (this : ScriptValue)
    (args : List ScriptValue) :
    (callFunction (fuel + 1) context f this args).run s =
      leave s context ((runCode fuel context code this args).run
        (s.inside cs (.function f :: this :: args))) := by
  rw [callFunction_succ, run_withCall_keeping h, run_bind, run_get]
  simp only [Store.inside_functions, hf]

/-- A call beyond the limit of its context runs nothing. -/
theorem callFunction_of_refused {s : Store} {context : Nat} {e : RuntimeError}
    (h : s.contexts.pushCall context = .error e) (fuel : Nat) (f : FunctionRef)
    (this : ScriptValue) (args : List ScriptValue) :
    (callFunction (fuel + 1) context f this args).run s = (.error (.failed e), s) := by
  rw [callFunction_succ, run_withCall_error h]

/-! ## Member functions and method bodies -/

/-- The id that a member function dispatches: its own if it is exact or the
constructor's, and otherwise that of the first overload that takes the arguments. -/
def pickMember (w : WrapperRef) (facet : Facet) (label : String) (id : MemberId) (exact : Bool)
    (args : List ScriptValue) : Run MemberId :=
  if exact || id.isConstructor then pure id
  else do
    match (← wrapper w).plan.select? facet label args with
    | some m => pure m.id
    | none => fail (.noMatchingOverload w.backing label args.length)

/-- Dispatches through the object that a member function is applied to. -/
def dispatchOn (fuel context : Nat) (w : WrapperRef) (label : String) (this : ScriptValue)
    (args : List ScriptValue) (id : MemberId) : Run ScriptValue :=
  match this with
  | .object (.pair p) => dispatch fuel context p.wrapper (some p) id args
  | .object (.facet f) => dispatch fuel context f.wrapper none id args
  | _ => fail (.incompatibleReceiver w.backing label)

theorem callMemberFunction_succ (fuel context : Nat) (w : WrapperRef) (facet : Facet)
    (label : String) (id : MemberId) (exact : Bool) (this : ScriptValue)
    (args : List ScriptValue) :
    callMemberFunction (fuel + 1) context w facet label id exact this args =
      pickMember w facet label id exact args >>= dispatchOn fuel context w label this args := by
  rw [callMemberFunction, pickMember]
  split
  · rfl
  · funext s
    show (bind (wrapper w) _ : Run ScriptValue).run s =
      (bind (bind (wrapper w) _) _ : Run ScriptValue).run s
    rw [run_bind, run_bind, run_bind]
    rcases (wrapper w).run s with ⟨_ | c, t⟩
    · rfl
    · dsimp only
      rcases c.plan.select? facet label args with _ | m <;> rfl

/-- Runs the body of a method. -/
def runBody (fuel : Nat) (owner : HostType) (m : Method) (receiver : Option HostObject)
    (args : List HostValue) : Run HostValue :=
  match m.body with
  | .native code => runNative fuel code { receiver, method := m.name, args }
  | .abstract => fail (.abstractMethod owner.name m.signature.display)
  | .forward member key =>
    match receiver with
    | none => fail (.incompatibleReceiver owner.name m.signature.display)
    | some receiver => forward fuel member key m.signature receiver args

theorem runMethod_succ (fuel : Nat) (owner : HostType) (m : Method) (receiver : Option HostObject)
    (args : List HostValue) :
    runMethod (fuel + 1) owner m receiver args =
      runBody fuel owner m receiver args >>= fun result =>
        if m.signature.returns.isVoid then pure .void else pure result := by
  rw [runMethod, runBody]
  rcases m.body with _ | _ | _
  · rfl
  · rfl
  · cases receiver <;> rfl

end Run

end ScriptClass
