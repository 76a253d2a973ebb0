import ScriptClass.Run.Basic

/-!
# Calls

The rules by which host and script code run. A virtual call checks its arguments,
looks the method up and runs its body; a forwarding body finds the script object
of its receiver, boxes the arguments, dispatches by id and unboxes the result. A
script function runs one call deeper in its context.

All rules take fuel, one unit less for each rule that they invoke.
-/

namespace ScriptClass

/-- What an expression sees of the call that it runs in. -/
structure Frame where
  context : Nat
  this : ScriptValue
  args : List ScriptValue

/-- The first of the signatures that takes the arguments, with the arguments
unboxed. -/
def firstApplicable (signatures : List Signature) (args : List ScriptValue) :
    Option (Signature × List HostValue) :=
  signatures.findSome? fun s =>
    if s.params.length = args.length then
      match ScriptValue.unboxArguments args s.params with
      | .ok hostArgs => some (s, hostArgs)
      | .error _ => none
    else none

namespace Run

mutual

/-- Evaluates an expression. Of several operands the arguments come first, then
the object, then the receiver. -/
def eval (fuel : Nat) (frame : Frame) (e : Expr) : Run ScriptValue :=
  match fuel with
  | 0 => throw .exhausted
  | fuel + 1 =>
    match e with
    | .const v => pure v
    | .arg place => pure (frame.args[place]?.getD .undefined)
    | .args => pure (.array frame.args)
    | .this => pure frame.this
    | .depth => do return .int (.ofNat ((← get).contexts.depth frame.context))
    | .get of name => do
      let o ← eval fuel frame of
      return (← getProperty o name).getD .undefined
    | .put of name value => do
      let v ← eval fuel frame value
      let o ← keeping [v] (eval fuel frame of)
      putProperty o name v
      return .undefined
    | .call of name args => do
      let args ← evalAll fuel frame args
      let o ← keeping args (eval fuel frame of)
      callProperty fuel frame.context o name args
    | .apply function receiver args => do
      let args ← evalAll fuel frame args
      let f ← keeping args (eval fuel frame function)
      let this ← keeping (f :: args) (eval fuel frame receiver)
      callValue fuel frame.context f this args
    | .invoke of method args => do
      let o ← eval fuel frame of
      match o.host? with
      | none => fail (.scriptThrown "not a host object")
      | some host =>
        let args ← keeping [o] (evalUnboxed fuel frame args method.params)
        return (← invoke fuel host method args).box
    | .throw message => fail (.scriptThrown message)
    | .attempt body => attempt (eval fuel frame body)
    | .seq list => evalLast fuel frame .undefined list
    | .array list => do return .array (← evalAll fuel frame list)
    | .add a b => do
      let x ← eval fuel frame a
      let y ← keeping [x] (eval fuel frame b)
      match x, y with
      | .int m, .int n => return .int (m + n)
      | x, y => return .string (x.display ++ y.display)
    | .lt a b => do
      let x ← eval fuel frame a
      let y ← keeping [x] (eval fuel frame b)
      match x.number?, y.number? with
      | some m, some n => return .bool (m.numLt n)
      | none, some _ => return .bool true
      | _, none => return .bool false
    | .ite condition yes no => do
      match ← eval fuel frame condition with
      | .bool true => eval fuel frame yes
      | _ => eval fuel frame no
    | .describe of => do return .string (← eval fuel frame of).describe
    | .count name => do return .int (.ofNat (← ofChange fun s => s.advance name))

/-- Evaluates expressions from left to right. -/
def evalAll (fuel : Nat) (frame : Frame) (es : List Expr) : Run (List ScriptValue) :=
  match fuel with
  | 0 => throw .exhausted
  | fuel + 1 =>
    match es with
    | [] => pure []
    | e :: es => do
      let v ← eval fuel frame e
      let vs ← keeping [v] (evalAll fuel frame es)
      return v :: vs

/-- Evaluates expressions from left to right and gives the last value, or the one
given where there are none. A value is let go once the next one is there. -/
def evalLast (fuel : Nat) (frame : Frame) (last : ScriptValue) (es : List Expr) :
    Run ScriptValue :=
  match fuel with
  | 0 => throw .exhausted
  | fuel + 1 =>
    match es with
    | [] => pure last
    | e :: es => do
      let v ← keeping [last] (eval fuel frame e)
      evalLast fuel frame v es

/-- Evaluates arguments and unboxes each to its parameter type, those beyond the
parameters to the root class. -/
def evalUnboxed (fuel : Nat) (frame : Frame) (es : List Expr) (params : List Descriptor) :
    Run (List HostValue) :=
  match fuel with
  | 0 => throw .exhausted
  | fuel + 1 =>
    match es with
    | [] => pure []
    | e :: es => do
      let v ← eval fuel frame e
      let h ← ofConversion (v.unbox (params.headD .object))
      let hs ← keeping [h.box] (evalUnboxed fuel frame es params.tail)
      return h :: hs

/-- Calls a script function, one call deeper in the context. The call holds the
function, its receiver and its arguments. -/
def callFunction (fuel : Nat) (context : Nat) (f : FunctionRef) (this : ScriptValue)
    (args : List ScriptValue) : Run ScriptValue :=
  match fuel with
  | 0 => throw .exhausted
  | fuel + 1 =>
    withCall context <| keeping (.function f :: this :: args) do
      match (← get).functions[f.id]? with
      | none => fail (.notCallable "function")
      | some (.expression body) => eval fuel { context, this, args } body
      | some (.member w facet label id exact) =>
        callMemberFunction fuel context w facet label id exact this args
      | some (.inherited className label signatures) =>
        match this.host? with
        | none => fail (.incompatibleReceiver className label)
        | some receiver =>
          match firstApplicable signatures args with
          | some (s, hostArgs) => return (← invoke fuel receiver s hostArgs).box
          | none => fail (.noMatchingOverload className label args.length)

/-- Runs the function of a member: picks the member, and dispatches to it
through the object that it is applied to. -/
def callMemberFunction (fuel : Nat) (context : Nat) (w : WrapperRef) (facet : Facet)
    (label : String) (id : MemberId) (exact : Bool) (this : ScriptValue)
    (args : List ScriptValue) : Run ScriptValue :=
  match fuel with
  | 0 => throw .exhausted
  | fuel + 1 => do
    let id ←
      if exact || id.isConstructor then pure id
      else
        match (← wrapper w).plan.select? facet label args with
        | some m => pure m.id
        | none => fail (.noMatchingOverload w.backing label args.length)
    match this with
    | .object (.pair p) => dispatch fuel context p.wrapper (some p) id args
    | .object (.facet f) => dispatch fuel context f.wrapper none id args
    | _ => fail (.incompatibleReceiver w.backing label)

/-- Calls a value, which has to be a function. -/
def callValue (fuel : Nat) (context : Nat) (f this : ScriptValue) (args : List ScriptValue) :
    Run ScriptValue :=
  match fuel with
  | 0 => throw .exhausted
  | fuel + 1 =>
    match f with
    | .function f => callFunction fuel context f this args
    | v => fail (.notCallable v.describe)

/-- Calls a property of an object with the object as `this`. -/
def callProperty (fuel : Nat) (context : Nat) (target : ScriptValue) (name : String)
    (args : List ScriptValue) : Run ScriptValue :=
  match fuel with
  | 0 => throw .exhausted
  | fuel + 1 => do
    match ← getProperty target name with
    | some (.function f) => callFunction fuel context f target args
    | some _ => fail (.notCallable name)
    | none => fail (.unknownMember target.describe name)

/-- Runs the handler of an id. Instance members run on the receiver and static
ones on the static facet; the constructor makes a new object. -/
def dispatch (fuel : Nat) (context : Nat) (w : WrapperRef) (receiver : Option Pair)
    (id : MemberId) (args : List ScriptValue) : Run ScriptValue :=
  match fuel with
  | 0 => throw .exhausted
  | fuel + 1 => do
    let c ← wrapper w
    match c.plan.handlers.lookup id with
    | .default => fail (.noSuchMember c.backingName id)
    | .constructor => return .object (.pair (← construct fuel context w args))
    | .member facet index =>
      match (c.plan.members facet)[index]? with
      | none => fail (.noSuchMember c.backingName id)
      | some m =>
        match facet with
        | .instances =>
          match receiver with
          | none => fail (.incompatibleReceiver c.backingName m.key)
          | some p => callFunction fuel context m.function (.object (.pair p)) args
        | .statics =>
          let f ← facetOf w
          callFunction fuel context m.function (.object (.facet f)) args

/-- Makes an object of a generated class and runs the script constructor on it.
The static facet has to be bound, the class loaded and concrete, and the
arguments have to fit. -/
def construct (fuel : Nat) (context : Nat) (w : WrapperRef) (args : List ScriptValue) :
    Run Pair :=
  match fuel with
  | 0 => throw .exhausted
  | fuel + 1 => do
    let c ← wrapper w
    checkBound c
    let t ← backing c
    if c.isAbstract then fail (.abstractInstantiation c.backingName)
    else
      let method := c.backingName ++ "." ++ constructorName
      ofExcept (checkScriptFit method c.plan.constructor args)
      let state : PairState := ⟨t.startCounter, c.plan.prototype⟩
      let p ← ofChange fun s => s.newPair t w state
      match c.plan.constructor with
      | none => return p
      | some m =>
        let _ ← callFunction fuel context m.function (.object (.pair p)) args
        return p

/-- A virtual call. It holds its receiver and its arguments. -/
def invoke (fuel : Nat) (receiver : HostObject) (s : Signature) (args : List HostValue) :
    Run HostValue :=
  match fuel with
  | 0 => throw .exhausted
  | fuel + 1 => do
    ofExcept (s.checkFit args)
    match receiver.type.virtual? s with
    | none => fail (.noSuchMethod receiver.type.name s.display)
    | some (owner, m) =>
      keeping (.native receiver :: HostValue.boxAll args)
        (runMethod fuel owner m (some receiver) args)

/-- Runs the body of a method. A `void` method discards what its body gives. -/
def runMethod (fuel : Nat) (owner : HostType) (m : Method) (receiver : Option HostObject)
    (args : List HostValue) : Run HostValue :=
  match fuel with
  | 0 => throw .exhausted
  | fuel + 1 => do
    let result ←
      match m.body with
      | .native code => runNative fuel code { receiver, method := m.name, args }
      | .abstract => fail (.abstractMethod owner.name m.signature.display)
      | .forward member key =>
        match receiver with
        | none => fail (.incompatibleReceiver owner.name m.signature.display)
        | some receiver => forward fuel member key m.signature receiver args
    if m.signature.returns.isVoid then return .void else return result

/-- Runs a forwarding body: dispatches by id on the receiver's script object in
the thread's context, and unboxes the result. -/
def forward (fuel : Nat) (member : MemberId) (key : String) (s : Signature)
    (receiver : HostObject) (args : List HostValue) : Run HostValue :=
  match fuel with
  | 0 => throw .exhausted
  | fuel + 1 => do
    let context ← currentContext
    match receiver with
    | .plain _ t => fail (.incompatibleReceiver t.name key)
    | .pair p =>
      let result ← dispatch fuel context p.wrapper (some p) member (HostValue.boxAll args)
      ofConversion (result.unbox s.returns)

/-- Runs native code. -/
def runNative (fuel : Nat) (code : Nat) (call : NativeCall) : Run HostValue :=
  match fuel with
  | 0 => throw .exhausted
  | fuel + 1 => do
    match (← get).natives[code]? with
    | none => return .void
    | some code =>
      match code with
      | .const v => return v
      | .arg index => ofExcept (call.arg index)
      | .int index => return .int (← ofExcept (call.intArg index))
      | .long index => return .long (← ofExcept (call.longArg index))
      | .double index => return .double (← ofExcept (call.doubleArg index))
      | .string index => return ((← ofExcept (call.stringArg index)).map .string).getD .null
      | .args => return .array .object call.args
      | .argCount => return .int (.ofNat call.args.length)
      | .methodName => return .string call.method
      | .describe => return .string call.debug
      | .className => return .string (← ofExcept call.this).type.name
      | .this => return .object (← ofExcept call.this)
      | .counter => return .long (← counterOf call)
      | .addToCounter index =>
        let summand ← ofExcept (call.longArg index)
        let sum := (← counterOf call) + summand
        let receiver ← ofExcept call.this
        modify fun s => s.setCounter sum receiver
        return .long sum
      | .throw message => fail (.scriptThrown message)
      | .invoke name descriptor args =>
        let receiver ← ofExcept call.this
        let s ← ofExcept ((Signature.parse name descriptor).mapError .descriptor)
        invoke fuel receiver s args
      | .identity => return .int (← ofExcept call.this).identity
      | .sameObject =>
        let receiver ← ofExcept call.this
        let other ← ofExcept (call.arg 0)
        return .bool ((other.object?.map receiver.same).getD false)
      | .identityText => return .string (← ofExcept call.this).identityText

end

/-- Fuel for a whole run, beyond what any program spends that ends. -/
def ample : Nat := 1000000000000000000

/-- Makes an object of a type. Abstract classes and interfaces refuse; a rule of
the type's own replaces plain instantiation, which takes no arguments and the nearest counter
of the chain. -/
def instantiate (fuel : Nat) (t : HostType) (args : List HostValue) : Run HostObject :=
  if t.isInterface || t.isAbstract then fail (.abstractInstantiation t.name)
  else
    match t.own.instantiation with
    | some (.refuse message) => fail (.scriptThrown message)
    | some .countArguments => ofChange fun s => s.newPlain t (some (.ofNat args.length))
    | some (.generated w) => do
      let context ← currentContext
      return .pair (← construct fuel context w (HostValue.boxAll args))
    | none =>
      if args.isEmpty then ofChange fun s => s.newPlain t t.startCounter
      else fail (.argumentCount (t.name ++ ".<init>") 0 args.length)

/-- A virtual call by name and method descriptor. -/
def callNamed (fuel : Nat) (receiver : HostObject) (name descriptor : String)
    (args : List HostValue) : Run HostValue := do
  let s ← ofExcept ((Signature.parse name descriptor).mapError .descriptor)
  invoke fuel receiver s args

/-- A call of a static method that the type itself declares. -/
def callStatic (fuel : Nat) (t : HostType) (name descriptor : String)
    (args : List HostValue) : Run HostValue := do
  let s ← ofExcept ((Signature.parse name descriptor).mapError .descriptor)
  match t.declaredStatic? s with
  | none => fail (.noSuchMethod t.name s.display)
  | some m =>
    ofExcept (s.checkFit args)
    runMethod fuel t m none args

/-- A call by member id, of an object that has ids. -/
def executeId (fuel : Nat) (o : ScriptObject) (id : MemberId) (args : List ScriptValue) :
    Run (Option ScriptValue) := do
  let context ← currentContext
  match o with
  | .plain _ => return none
  | .pair p => return some (← dispatch fuel context p.wrapper (some p) id args)
  | .facet f => return some (← dispatch fuel context f.wrapper none id args)

end Run

end ScriptClass
