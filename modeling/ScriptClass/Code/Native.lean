import ScriptClass.Value.Basic
import ScriptClass.Error

/-!
# Native code

The code of host methods that are not overridden by script, and what it sees of
a call: the receiver, which static methods lack, the method's name and the
arguments. Readers of an argument fail when it is missing or of another type.
-/

namespace ScriptClass

/-- The code of a native method. -/
inductive NativeCode where
  | const (v : HostValue)
  | arg (index : Nat)
  /-- An argument as `int`, a `long` of any integer, a `double` of any floating
  number, or a string. -/
  | int (index : Nat)
  | long (index : Nat)
  | double (index : Nat)
  | string (index : Nat)
  /-- The arguments as an array of the root class. -/
  | args
  | argCount
  | methodName
  /-- The call in diagnostics. -/
  | describe
  /-- The class of the receiver. -/
  | className
  | this
  /-- The receiver's counter. -/
  | counter
  /-- Adds an integer argument, read first, to the receiver's counter. -/
  | addToCounter (index : Nat)
  | throw (message : String)
  /-- A virtual call on the receiver. -/
  | invoke (name descriptor : String) (args : List HostValue)
  /-- The receiver's identity as a number. -/
  | identity
  /-- Whether the first argument is the receiver. -/
  | sameObject
  /-- The receiver's class and identity as text. -/
  | identityText

/-- A call of native code. -/
structure NativeCall where
  receiver : Option HostObject
  method : String
  args : List HostValue

namespace NativeCall

/-- The receiver. -/
def this (c : NativeCall) : Except RuntimeError HostObject :=
  match c.receiver with
  | some o => .ok o
  | none => .error (.incompatibleReceiver "<instance>" c.method)

def arg (c : NativeCall) (index : Nat) : Except RuntimeError HostValue :=
  match c.args[index]? with
  | some v => .ok v
  | none => .error (.argumentCount c.method (index + 1) c.args.length)

/-- An argument read as a type named `expected`. -/
def argAs {α : Type} (c : NativeCall) (expected : String) (read : HostValue → Option α)
    (index : Nat) : Except RuntimeError α := do
  let v ← c.arg index
  match read v with
  | some a => return a
  | none => throw (.argumentType c.method index expected v.typeName)

def intArg (c : NativeCall) : Nat → Except RuntimeError Int32 :=
  c.argAs Primitive.int.name HostValue.int32?

def longArg (c : NativeCall) : Nat → Except RuntimeError Int64 :=
  c.argAs Primitive.long.name HostValue.integer?

def doubleArg (c : NativeCall) : Nat → Except RuntimeError Number.Double :=
  c.argAs Primitive.double.name HostValue.double?

/-- A string argument; null is no string but no error. -/
def stringArg (c : NativeCall) : Nat → Except RuntimeError (Option String) :=
  c.argAs stringName fun
    | .null => some none
    | v => v.string?.map some

def debug (c : NativeCall) : String :=
  Text.recordText "CallContext"
    [("method", Text.quoted c.method), ("has_this", toString c.receiver.isSome),
     ("arg_count", toString c.args.length)]

end NativeCall

end ScriptClass
