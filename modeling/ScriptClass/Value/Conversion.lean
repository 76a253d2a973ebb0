import ScriptClass.Value.Basic
import ScriptClass.Number.Reading
import ScriptClass.Text.CodePoints

/-!
# Conversion between script and host values

`HostValue.box` boxes a host value for script code and
`ScriptValue.unbox` unboxes a script value to a host type.

* `void` takes anything and discards it. `bool` takes booleans.
* The integral types take numbers and numeric texts; a float must be finite, is
  truncated, and the integer must fit.
* `float` and `double` take numbers and numeric texts.
* `char` takes texts of one character and code points.
* The string class takes texts, and formats booleans and numbers.
* The root class takes any value in its natural host form.
* Other references take host objects of a subtype, or script objects that stand
  for one. Arrays are taken item by item.

Null and undefined become null for every reference type and no primitive.
-/

namespace ScriptClass

open Number (Double Single)

/-- Why a value cannot cross between script and host. -/
inductive ConversionError where
  | typeMismatch (expected actual : String)
  | outOfRange (value : String) (target : Primitive)
  | notFinite (value : Double) (target : Primitive)
  | nullToPrimitive (target : Primitive)
  | notANumber (value : String)
  | invalidChar (value : String)
  | notAssignable (expected actual : String)
  deriving DecidableEq, Repr

def ConversionError.message : ConversionError → String
  | .typeMismatch expected actual => s!"cannot convert {actual} to {expected}"
  | .outOfRange value target => s!"value {value} does not fit in {target.name}"
  | .notFinite value target =>
    s!"non-finite value {value.text} cannot be converted to {target.name}"
  | .nullToPrimitive target => s!"null cannot be converted to primitive {target.name}"
  | .notANumber value => s!"string {Text.quoted value} is not a number"
  | .invalidChar value => s!"{Text.quoted value} cannot be converted to char"
  | .notAssignable expected actual =>
    s!"object of type {actual} is not assignable to {expected}"

namespace HostValue

mutual

/-- Boxes a host value. A generated object becomes its own script object; other
host objects pass as they are. -/
def box : HostValue → ScriptValue
  | .void => .undefined
  | .null => .null
  | .bool v => .bool v
  | .byte v => .int v.toInt64
  | .short v => .int v.toInt64
  | .int v => .int v.toInt64
  | .long v => .int v
  | .float v => .float v.toDouble
  | .double v => .float v
  | .char v => .string (String.singleton v)
  | .string v => .string v
  | .array _ items => .array (boxAll items)
  | .object (.pair p) => .object (.pair p)
  | .object (.plain id type) => .native (.plain id type)

def boxAll : List HostValue → List ScriptValue
  | [] => []
  | v :: vs => v.box :: boxAll vs

end

end HostValue

/-- A number as script holds it. -/
inductive ScriptNumber where
  | int (v : Int64)
  | float (v : Double)
  deriving DecidableEq, Repr

/-- Whether an integer lies in the range of `bits` bits, sign included. -/
def fitsBits (bits : Nat) (v : Int64) : Bool :=
  -(Number.twoTo (bits - 1) : Int) ≤ v.toInt && v.toInt < Number.twoTo (bits - 1)

namespace ScriptValue

def mismatch {α : Type} (expected : String) (v : ScriptValue) : Except ConversionError α :=
  .error (.typeMismatch expected v.describe)

/-- The number that a number or a numeric text denotes. An integer text that
fits 64 bits is an integer, any other a float. -/
def numeric (kind : Primitive) : ScriptValue → Except ConversionError ScriptNumber
  | .int v => .ok (.int v)
  | .float v => .ok (.float v)
  | .string s =>
    let trimmed := Text.trim s.toList
    match Number.readInt64? trimmed, Number.readDouble? trimmed with
    | some v, _ => .ok (.int v)
    | none, some v => .ok (.float v)
    | none, none => .error (.notANumber s)
  | v => mismatch kind.name v

/-- The integer left of a number when its fraction is dropped. -/
def integral (kind : Primitive) : ScriptNumber → Except ConversionError Int64
  | .int v => .ok v
  | .float x =>
    match x.datum.truncate? with
    | none => .error (.notFinite x kind)
    | some v =>
      if Int64.minValue.toInt ≤ v ∧ v ≤ Int64.maxValue.toInt then .ok (.ofInt v)
      else .error (.outOfRange x.scriptText kind)

/-- The integer that a value denotes, within the range of `bits` bits. -/
def toInteger (kind : Primitive) (bits : Nat) (v : ScriptValue) :
    Except ConversionError Int64 := do
  let n ← integral kind (← v.numeric kind)
  if fitsBits bits n then .ok n else .error (.outOfRange (toString n.toInt) kind)

def unboxChar : ScriptValue → Except ConversionError HostValue
  | .string s =>
    match s.toList with
    | [c] => .ok (.char c)
    | _ => .error (.invalidChar s)
  | .int v =>
    if h : 0 ≤ v.toInt ∧ v.toInt.toNat.isValidChar then
      .ok (.char (Char.ofNatAux v.toInt.toNat h.2))
    else .error (.invalidChar (toString v.toInt))
  | v => mismatch Primitive.char.name v

/-- A value that is neither null nor undefined, as a primitive. -/
def unboxPresent (v : ScriptValue) : Primitive → Except ConversionError HostValue
  | .void => .ok .void
  | .bool =>
    match v.bool? with
    | some b => .ok (.bool b)
    | none => mismatch Primitive.bool.name v
  | .byte => (v.toInteger .byte 8).map fun n => .byte n.toInt8
  | .short => (v.toInteger .short 16).map fun n => .short n.toInt16
  | .int => (v.toInteger .int 32).map fun n => .int n.toInt32
  | .long => (v.toInteger .long 64).map fun n => .long n
  | .float => (v.numeric .float).map fun
    | .int n => .float (.ofInt n.toInt)
    | .float x => .float x.toSingle
  | .double => (v.numeric .double).map fun
    | .int n => .double (.ofInt n.toInt)
    | .float x => .double x
  | .char => v.unboxChar

def unboxPrimitive (v : ScriptValue) (kind : Primitive) : Except ConversionError HostValue :=
  if kind = .void then .ok .void
  else if v.isNullish then .error (.nullToPrimitive kind)
  else v.unboxPresent kind

/-- A value that is neither null, undefined nor an array, as an object of the
root class: each kind in its natural host form, an integer as the narrower of
`int` and `long` that holds it. -/
def unboxObject : ScriptValue → Except ConversionError HostValue
  | .bool v => .ok (.bool v)
  | .int v => .ok (if fitsBits 32 v then .int v.toInt32 else .long v)
  | .float v => .ok (.double v)
  | .string v => .ok (.string v)
  | v =>
    match v.host? with
    | some o => .ok (.object o)
    | none => mismatch objectName v

/-- A value that is neither null nor undefined as a host string. -/
def unboxString : ScriptValue → Except ConversionError HostValue
  | .string v => .ok (.string v)
  | .bool v => .ok (.string (ScriptValue.bool v).display)
  | .int v => .ok (.string (ScriptValue.int v).display)
  | .float v => .ok (.string (ScriptValue.float v).display)
  | v => mismatch stringName v

/-- A value that is neither null nor undefined as an object of a class other
than the root class and the string class. -/
def unboxInstance (name : String) (v : ScriptValue) : Except ConversionError HostValue :=
  match v.host? with
  | some o =>
    if o.isInstanceOf name then .ok (.object o)
    else .error (.notAssignable name o.type.name)
  | none => mismatch name v

mutual

/-- Unboxes a script value to a host type. -/
def unbox : ScriptValue → Descriptor → Except ConversionError HostValue
  | v, .primitive kind => v.unboxPrimitive kind
  | .undefined, _ => .ok .null
  | .null, _ => .ok .null
  | .array items, .reference name =>
    if name = stringName then mismatch name (.array items)
    else if name = objectName then
      (unboxAll items .object).map fun vs => .array .object vs
    else unboxInstance name (.array items)
  | v, .reference name =>
    if name = stringName then v.unboxString
    else if name = objectName then v.unboxObject
    else v.unboxInstance name
  | .array items, .array element => (unboxAll items element).map fun vs => .array element vs
  | v, .array element => mismatch (Descriptor.array element).display v

def unboxAll : List ScriptValue → Descriptor → Except ConversionError (List HostValue)
  | [], _ => .ok []
  | v :: vs, t =>
    match v.unbox t with
    | .error e => .error e
    | .ok h =>
      match unboxAll vs t with
      | .error e => .error e
      | .ok hs => .ok (h :: hs)

end

/-- Whether the value can be unboxed to the type. -/
def fits (v : ScriptValue) (t : Descriptor) : Bool := (v.unbox t).isOk

/-- Unboxes arguments to the parameter types of their places. -/
def unboxArguments : List ScriptValue → List Descriptor →
    Except ConversionError (List HostValue)
  | v :: vs, t :: ts => do
    let h ← v.unbox t
    let hs ← unboxArguments vs ts
    return h :: hs
  | _, _ => .ok []

/-- An integer of the given kind and width out of a value that is not null. -/
def extractInteger (kind : Primitive) (bits : Nat) (v : ScriptValue) :
    Except ConversionError Int64 :=
  if v.isNullish then .error (.nullToPrimitive kind) else v.toInteger kind bits

def extractDouble (v : ScriptValue) : Except ConversionError Double := do
  match ← v.unbox (.primitive .double) with
  | .double x => return x
  | _ => mismatch Primitive.double.name v

def extractBool (v : ScriptValue) : Except ConversionError Bool :=
  match v.bool? with
  | some b => .ok b
  | none => mismatch Primitive.bool.name v

def extractString (v : ScriptValue) : Except ConversionError String :=
  match v.string? with
  | some s => .ok s
  | none => mismatch stringName v

end ScriptValue

end ScriptClass
