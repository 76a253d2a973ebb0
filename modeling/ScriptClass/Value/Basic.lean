import ScriptClass.HostType.Lookup
import ScriptClass.Number.Shortest

/-!
# Values of the host and of script

A host value keeps its exact width, so it always shows which descriptor it
satisfies. A script value is dynamically typed: it has one kind of integer, and
objects besides host objects.

An object of a generated class is a pair: host code sees it as a host object
and script code as a script object, and each view leads to the other. Handles
carry what never changes about an object, its number and its class; what
changes is in the store under that number.
-/

namespace ScriptClass

open Number (Double Single)

/-- An object of a generated class. -/
structure Pair where
  id : Nat
  /-- The generated host class. -/
  type : HostType
  wrapper : WrapperRef

/-- The script view of a generated class: its constructor and static members. -/
structure StaticFacet where
  id : Nat
  /-- The generated host class. -/
  backing : HostType
  wrapper : WrapperRef

/-- An object on the host side. -/
inductive HostObject where
  /-- An object of a class that was not generated. -/
  | plain (id : Nat) (type : HostType)
  | pair (p : Pair)

namespace HostObject

/-- The class of the object. -/
def type : HostObject → HostType
  | .plain _ type => type
  | .pair p => p.type

/-- Whether two handles name the same object. -/
def same : HostObject → HostObject → Bool
  | .plain a _, .plain b _ => a == b
  | .pair a, .pair b => a.id == b.id
  | _, _ => false

def isInstanceOf (o : HostObject) (name : String) : Bool := o.type.isSubtypeOf name

def pair? : HostObject → Option Pair
  | .pair p => some p
  | .plain .. => none

/-- The least identity. It is no number that a program would write by chance. -/
def firstIdentity : Nat := 0x2b5a9e10

/-- A number that is equal only for the same object. -/
def identity : HostObject → Int32
  | .plain id _ => Int32.ofNat (firstIdentity + 32 * id)
  | .pair p => Int32.ofNat (firstIdentity + 32 * p.id + 16)

/-- The class name, `@` and the identity in hexadecimal. -/
def identityText (o : HostObject) : String :=
  o.type.name ++ "@" ++ Text.hexText 1 o.identity.toUInt32.toNat

def debug (o : HostObject) : String := "ObjectRef(" ++ o.type.name ++ ")"

end HostObject

/-- A value as the statically typed host sees it. -/
inductive HostValue where
  /-- What a method without a result returns. -/
  | void
  | null
  | bool (v : Bool)
  | byte (v : Int8)
  | char (v : Char)
  | short (v : Int16)
  | int (v : Int32)
  | long (v : Int64)
  | float (v : Single)
  | double (v : Double)
  | string (v : String)
  | array (element : Descriptor) (items : List HostValue)
  | object (o : HostObject)

/-- An object as script code sees it. -/
inductive ScriptObject where
  /-- An object literal. -/
  | plain (id : Nat)
  | pair (p : Pair)
  | facet (f : StaticFacet)

namespace ScriptObject

/-- The class name in messages. -/
def className : ScriptObject → String
  | .plain _ => "Object"
  | .pair p => p.wrapper.name
  | .facet f => f.backing.name

/-- Whether two handles name the same object. -/
def same : ScriptObject → ScriptObject → Bool
  | .plain a, .plain b => a == b
  | .pair a, .pair b => a.id == b.id
  | .facet a, .facet b => a.id == b.id
  | _, _ => false

/-- The host object that the script object stands for. -/
def host? : ScriptObject → Option HostObject
  | .pair p => some (.pair p)
  | _ => none

end ScriptObject

/-- A script function; its number tells functions apart. -/
structure FunctionRef where
  id : Nat
  name : Option String
  /-- The number of parameters, where the function declares it. -/
  arity : Option Nat
  deriving DecidableEq, Repr

/-- A dynamically typed script value. -/
inductive ScriptValue where
  | undefined
  | null
  | bool (v : Bool)
  | int (v : Int64)
  | float (v : Double)
  | string (v : String)
  | array (items : List ScriptValue)
  | object (o : ScriptObject)
  | function (f : FunctionRef)
  /-- A host object handed to script as it is. -/
  | native (o : HostObject)

namespace HostValue

def primitive? : HostValue → Option Primitive
  | .void => some .void
  | .bool _ => some .bool
  | .byte _ => some .byte
  | .char _ => some .char
  | .short _ => some .short
  | .int _ => some .int
  | .long _ => some .long
  | .float _ => some .float
  | .double _ => some .double
  | _ => none

/-- The name of the value's own type in messages. -/
def typeName : HostValue → String
  | .null => "null"
  | .object o => o.type.name
  | .string _ => stringName
  | .array element _ => element.display ++ "[]"
  | v => (v.primitive?.map Primitive.name).getD ""

def isVoid : HostValue → Bool
  | .void => true
  | _ => false

def isNull : HostValue → Bool
  | .null => true
  | _ => false

def bool? : HostValue → Option Bool
  | .bool v => some v
  | _ => none

def int32? : HostValue → Option Int32
  | .int v => some v
  | _ => none

/-- An integer of any width. -/
def integer? : HostValue → Option Int64
  | .byte v => some v.toInt64
  | .short v => some v.toInt64
  | .int v => some v.toInt64
  | .long v => some v
  | _ => none

/-- A floating number of either width. -/
def double? : HostValue → Option Double
  | .float v => some v.toDouble
  | .double v => some v
  | _ => none

def string? : HostValue → Option String
  | .string v => some v
  | _ => none

def object? : HostValue → Option HostObject
  | .object o => some o
  | _ => none

mutual

/-- Whether the value may be passed where the type is expected. Primitives match
exactly, references accept null, and the root class accepts every value but
`void`. An array conforms by its element type or by all of its items. -/
def passesAs : HostValue → Descriptor → Bool
  | v, .primitive kind => v.primitive? == some kind
  | .void, .reference _ => false
  | .null, .reference _ => true
  | .string _, .reference name => name == objectName || name == stringName
  | .object o, .reference name => name == objectName || o.isInstanceOf name
  | _, .reference name => name == objectName
  | .null, .array _ => true
  | .array own items, .array element => own == element || allPassAs items element
  | _, .array _ => false

def allPassAs : List HostValue → Descriptor → Bool
  | [], _ => true
  | v :: vs, t => v.passesAs t && allPassAs vs t

end

mutual

/-- Equality of host values: numbers of one width by value, objects by
identity. -/
def equal : HostValue → HostValue → Bool
  | .void, .void => true
  | .null, .null => true
  | .bool a, .bool b => a == b
  | .byte a, .byte b => a == b
  | .char a, .char b => a == b
  | .short a, .short b => a == b
  | .int a, .int b => a == b
  | .long a, .long b => a == b
  | .float a, .float b => a.numEq b
  | .double a, .double b => a.numEq b
  | .string a, .string b => a == b
  | .array s as, .array t bs => s == t && allEqual as bs
  | .object a, .object b => a.same b
  | _, _ => false

def allEqual : List HostValue → List HostValue → Bool
  | [], [] => true
  | a :: as, b :: bs => a.equal b && allEqual as bs
  | _, _ => false

end

mutual

def debug : HostValue → String
  | .void => "Void"
  | .null => "Null"
  | .bool v => "Bool(" ++ toString v ++ ")"
  | .byte v => "Byte(" ++ toString v.toInt ++ ")"
  | .char v => "Char(" ++ Text.quotedChar v ++ ")"
  | .short v => "Short(" ++ toString v.toInt ++ ")"
  | .int v => "Int(" ++ toString v.toInt ++ ")"
  | .long v => "Long(" ++ toString v.toInt ++ ")"
  | .float v => "Float(" ++ v.text ++ ")"
  | .double v => "Double(" ++ v.text ++ ")"
  | .string v => "String(" ++ Text.quoted v ++ ")"
  | .array _ items => Text.listText (debugAll items)
  | .object o => "Object(" ++ o.type.name ++ ")"

def debugAll : List HostValue → List String
  | [] => []
  | v :: vs => v.debug :: debugAll vs

end

/-- An array with its element type in diagnostics. -/
def debugArray (element : Descriptor) (items : List HostValue) : String :=
  Text.recordText "NativeArray"
    [("element_type", element.debug), ("items", Text.listText (debugAll items))]

end HostValue

namespace ScriptValue

/-- The name of the value's kind. -/
def typeName : ScriptValue → String
  | .undefined => "undefined"
  | .null => "null"
  | .bool _ => "boolean"
  | .int _ => "number"
  | .float _ => "number"
  | .string _ => "string"
  | .array _ => "array"
  | .object _ => "object"
  | .function _ => "function"
  | .native _ => "native"

/-- The kind in messages; objects give their class. -/
def describe : ScriptValue → String
  | .object o => o.className
  | .native o => o.type.name
  | v => v.typeName

/-- Null or undefined. -/
def isNullish : ScriptValue → Bool
  | .undefined => true
  | .null => true
  | _ => false

def bool? : ScriptValue → Option Bool
  | .bool v => some v
  | _ => none

def int? : ScriptValue → Option Int64
  | .int v => some v
  | _ => none

/-- A number of either kind. -/
def number? : ScriptValue → Option Double
  | .int v => some (.ofInt v.toInt)
  | .float v => some v
  | _ => none

def string? : ScriptValue → Option String
  | .string v => some v
  | _ => none

def function? : ScriptValue → Option FunctionRef
  | .function f => some f
  | _ => none

def object? : ScriptValue → Option ScriptObject
  | .object o => some o
  | _ => none

/-- The host object behind the value. -/
def host? : ScriptValue → Option HostObject
  | .native o => some o
  | .object o => o.host?
  | _ => none

mutual

/-- Equality of script values. An integer equals a float when its nearest double
does; objects and functions are equal by identity. -/
def equal : ScriptValue → ScriptValue → Bool
  | .undefined, .undefined => true
  | .null, .null => true
  | .bool a, .bool b => a == b
  | .int a, .int b => a == b
  | .float a, .float b => a.numEq b
  | .int a, .float b => (Double.ofInt a.toInt).numEq b
  | .float a, .int b => (Double.ofInt b.toInt).numEq a
  | .string a, .string b => a == b
  | .array as, .array bs => allEqual as bs
  | .object a, .object b => a.same b
  | .function a, .function b => a.id == b.id
  | .native a, .native b => a.same b
  | _, _ => false

def allEqual : List ScriptValue → List ScriptValue → Bool
  | [], [] => true
  | a :: as, b :: bs => a.equal b && allEqual as bs
  | _, _ => false

end

mutual

/-- The text of a value in script. Null and undefined leave a gap between the
commas of an array. -/
def display : ScriptValue → String
  | .undefined => "undefined"
  | .null => "null"
  | .bool v => toString v
  | .int v => toString v.toInt
  | .float v => v.scriptText
  | .string v => v
  | .array items => ",".intercalate (displayItems items)
  | .object o => "[object " ++ o.className ++ "]"
  | .function f => "function " ++ f.name.getD "" ++ "()"
  | .native o => o.type.name

def displayItems : List ScriptValue → List String
  | [] => []
  | v :: vs => (if v.isNullish then "" else v.display) :: displayItems vs

end

end ScriptValue

def FunctionRef.debug (f : FunctionRef) : String :=
  "ScriptFn(" ++ f.name.getD "<anonymous>" ++ ")"

namespace ScriptValue

mutual

def debug : ScriptValue → String
  | .undefined => "Undefined"
  | .null => "Null"
  | .bool v => "Bool(" ++ toString v ++ ")"
  | .int v => "Int(" ++ toString v.toInt ++ ")"
  | .float v => "Float(" ++ v.text ++ ")"
  | .string v => "String(" ++ Text.quoted v ++ ")"
  | .array items => Text.listText (debugAll items)
  | .object o => "Object(" ++ o.className ++ ")"
  | .function f => f.debug
  | .native o => "Native(" ++ o.type.name ++ ")"

def debugAll : List ScriptValue → List String
  | [] => []
  | v :: vs => v.debug :: debugAll vs

end

end ScriptValue

end ScriptClass
