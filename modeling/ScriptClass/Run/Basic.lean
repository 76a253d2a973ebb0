import ScriptClass.Store.Property
import ScriptClass.Store.Reach

/-!
# Runs

A run changes the store and ends with an answer, with an error of the program,
or because its fuel is spent. What was changed before an error stays changed.
Spent fuel is no error of the program: no script code can catch it, and a run
that ends otherwise ends in the same way with more fuel.
-/

namespace ScriptClass

/-- Why a run ends without an answer. -/
inductive Halt where
  | failed (e : RuntimeError)
  /-- The fuel is spent. -/
  | exhausted
  deriving DecidableEq, Repr

/-- Runs over the store. -/
abbrev Run := ExceptT Halt (StateM Store)

namespace Run

def fail {α : Type} (e : RuntimeError) : Run α := throw (.failed e)

/-- The answer of a part that leaves the store alone. -/
def ofExcept {α : Type} : Except RuntimeError α → Run α
  | .ok a => pure a
  | .error e => fail e

/-- The answer of a conversion. -/
def ofConversion {α : Type} (x : Except ConversionError α) : Run α :=
  ofExcept (x.mapError .conversion)

/-- A change of the store that gives an answer. -/
def ofChange {α : Type} (f : Store → α × Store) : Run α :=
  ExceptT.mk fun s => let (a, s) := f s; (.ok a, s)

/-- A change of the store that may be refused. -/
def ofUpdate (f : Store → Except RuntimeError Store) : Run Unit :=
  ExceptT.mk fun s =>
    match f s with
    | .ok s => (.ok (), s)
    | .error e => (.error (.failed e), s)

/-- Runs a part within one more script call of a context. The call ends however
the part ends. -/
def withCall {α : Type} (context : Nat) (part : Run α) : Run α :=
  ExceptT.mk fun s =>
    match s.contexts.pushCall context with
    | .error e => (.error (.failed e), s)
    | .ok contexts =>
      let (r, s) := part.run { s with contexts }
      (r, { s with contexts := s.contexts.popCall context })

/-- Runs a part while values are held. They are let go however the part ends. -/
def keeping {α : Type} (values : List ScriptValue) (part : Run α) : Run α :=
  ExceptT.mk fun s =>
    let (r, s') := part.run { s with roots := holdingsOfScript values ++ s.roots }
    (r, { s' with roots := s.roots })

/-- The text of the error of a part that fails. -/
def attempt (part : Run ScriptValue) : Run ScriptValue :=
  ExceptT.mk fun s =>
    match part.run s with
    | (.error (.failed e), s) => (.ok (.string e.message), s)
    | r => r

/-- The context of the current thread. -/
def currentContext : Run Nat := do ofExcept (← get).contexts.current

def wrapper (w : WrapperRef) : Run Wrapper := do
  match (← get).wrapper? w with
  | some c => return c
  | none => fail (.unloaded w.backing)

/-- Reads a property; values other than objects have none. -/
def getProperty (v : ScriptValue) (name : String) : Run (Option ScriptValue) :=
  match v with
  | .object o => ofChange fun s => s.getProperty o name
  | _ => pure none

/-- Writes a property of an object. -/
def putProperty (target : ScriptValue) (name : String) (v : ScriptValue) : Run Unit :=
  match target with
  | .object o => ofUpdate fun s => s.putProperty o name v
  | target => fail (.unknownMember target.describe name)

/-- The counter of a native call's receiver. -/
def counterOf (call : NativeCall) : Run Int64 := do
  let receiver ← ofExcept call.this
  let s ← get
  match s.counter? receiver with
  | some n => return n
  | none => fail (.incompatibleReceiver s.stateName call.method)

/-- The host side of a wrapper class, while it is loaded. -/
def backing (c : Wrapper) : Run HostType :=
  match c.backing with
  | some t => pure t
  | none => fail (.unloaded c.backingName)

def checkBound (c : Wrapper) : Run Unit :=
  if c.isBound then pure () else fail (.constructionBeforeBinding c.backingName)

/-- The static facet of a wrapper class: the one handed out last, or a new one
if nothing holds that any more. -/
def facetOf (w : WrapperRef) : Run StaticFacet := do
  let c ← wrapper w
  checkBound c
  let s ← get
  match c.facet.filter fun f => s.isHeld (.facet f) with
  | some f => return f
  | none =>
    let t ← backing c
    let f ← ofChange fun s => s.newFacet t w
    modify fun s => s.updateWrapper w fun c => { c with facet := some f }
    return f

end Run

/-- Refuses arguments that do not fit a signature in number or type. -/
def Signature.checkFit (s : Signature) (args : List HostValue) :
    Except RuntimeError Unit :=
  if args.length ≠ s.arity then .error (.argumentCount s.display s.arity args.length)
  else
    match (args.zip s.params).zipIdx.find? fun ((v, t), _) => !v.passesAs t with
    | some ((v, t), index) => .error (.argumentType s.display index t.display v.typeName)
    | none => .ok ()

/-- Refuses script arguments that do not fit a script constructor, or any
arguments where there is none. -/
def checkScriptFit (method : String) (constructor : Option Member)
    (args : List ScriptValue) : Except RuntimeError Unit :=
  match constructor with
  | none => if args.isEmpty then .ok () else .error (.argumentCount method 0 args.length)
  | some m =>
    match m.signature with
    | none => .ok ()
    | some s =>
      if args.length ≠ s.arity then .error (.argumentCount method s.arity args.length)
      else
        match (args.zip s.params).zipIdx.find? fun ((v, t), _) => !v.fits t with
        | some ((v, t), index) => .error (.argumentType method index t.display v.typeName)
        | none => .ok ()

end ScriptClass
