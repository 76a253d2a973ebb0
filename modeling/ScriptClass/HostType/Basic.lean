import ScriptClass.Signature
import ScriptClass.Modifiers
import ScriptClass.Member.Id

/-!
# Host types

A host class or interface is an immutable tree: its own declaration, its
superclass and its interfaces. Two types are the same when their declarations
carry the same number, which is given out once per declaration.

What a method or an instantiation runs is named, not contained: native code by
its number in the store, a generated override by the key and id of a script
member, and the constructor of a generated class by its wrapper class.
-/

namespace ScriptClass

/-- Names a wrapper class of the store: the script side of a generated class. -/
structure WrapperRef where
  id : Nat
  /-- The wrapper's own name. -/
  name : String
  /-- The name of the host class that it is paired with. -/
  backing : String
  deriving DecidableEq, Repr

/-- How a method is implemented. -/
inductive MethodCode where
  /-- By native code. -/
  | native (code : Nat)
  /-- Not at all. -/
  | abstract
  /-- By the script member of the receiver's wrapper with this id, which was
  written under this key. -/
  | forward (member : MemberId) (key : String)
  deriving DecidableEq, Repr

namespace MethodCode

def isAbstract : MethodCode → Bool
  | .abstract => true
  | _ => false

def isForward : MethodCode → Bool
  | .forward .. => true
  | _ => false

/-- A forwarding body in listings: the key and the id. -/
def forwardText (member : MemberId) (key : String) : String := key ++ " -> " ++ member.display

def debug : MethodCode → String
  | .native _ => "Native"
  | .abstract => "Abstract"
  | .forward member key => "Forward(" ++ forwardText member key ++ ")"

end MethodCode

/-- A method that a type declares. -/
structure Method where
  signature : Signature
  modifiers : Modifiers
  body : MethodCode
  deriving DecidableEq, Repr

namespace Method

def name (m : Method) : String := m.signature.name

def isAbstract (m : Method) : Bool := m.body.isAbstract

def isStatic (m : Method) : Bool := m.modifiers.isStatic

/-- A public method without an implementation. -/
def abstract (s : Signature) : Method :=
  ⟨s, { isPublic := true, isAbstract := true }, .abstract⟩

/-- A public method run by native code. -/
def native (s : Signature) (code : Nat) : Method := ⟨s, .onlyPublic, .native code⟩

/-- A public static method run by native code. -/
def staticNative (s : Signature) (code : Nat) : Method :=
  ⟨s, { isPublic := true, isStatic := true }, .native code⟩

def withModifiers (m : Method) (modifiers : Modifiers) : Method := { m with modifiers }

def asFinal (m : Method) : Method := { m with modifiers := { m.modifiers with isFinal := true } }

def asProtected (m : Method) : Method :=
  { m with modifiers := { m.modifiers.withoutVisibility with isProtected := true } }

def asPrivate (m : Method) : Method :=
  { m with modifiers := { m.modifiers.withoutVisibility with isPrivate := true } }

end Method

/-- A field that a type declares. -/
structure Field where
  name : String
  type : Descriptor
  modifiers : Modifiers
  deriving DecidableEq, Repr

/-- What replaces plain instantiation of a type. -/
inductive InstantiationRule where
  /-- Every instantiation fails with the message. -/
  | refuse (message : String)
  /-- A plain object whose counter holds the number of arguments. -/
  | countArguments
  /-- A pair of the wrapper class. -/
  | generated (wrapper : WrapperRef)
  deriving DecidableEq, Repr

/-- What a type declares itself. -/
structure Declaration where
  /-- Tells declarations apart. -/
  id : Nat
  /-- The qualified name, such as `game/Entity`. -/
  name : String
  modifiers : Modifiers
  fields : List Field := []
  methods : List Method := []
  /-- The counter that new objects start with. -/
  counter : Option Int64 := none
  instantiation : Option InstantiationRule := none
  deriving DecidableEq, Repr

/-- A host class or interface. -/
inductive HostType where
  | mk (own : Declaration) (superclass : Option HostType) (interfaces : List HostType)

namespace HostType

def own : HostType → Declaration
  | .mk own _ _ => own

def superclass? : HostType → Option HostType
  | .mk _ superclass _ => superclass

def interfaces : HostType → List HostType
  | .mk _ _ interfaces => interfaces

def id (t : HostType) : Nat := t.own.id

/-- The qualified name. -/
def name (t : HostType) : String := t.own.name

/-- The name after the last slash. -/
def simpleName (t : HostType) : String :=
  String.ofList (t.name.toList.reverse.takeWhile (· != '/')).reverse

/-- The hash of the qualified name. -/
def hash (t : HostType) : TypeHash := .ofName t.name

def modifiers (t : HostType) : Modifiers := t.own.modifiers

def fields (t : HostType) : List Field := t.own.fields

def methods (t : HostType) : List Method := t.own.methods

def isInterface (t : HostType) : Bool := t.modifiers.isInterface

def isAbstract (t : HostType) : Bool := t.modifiers.isAbstract

def isFinal (t : HostType) : Bool := t.modifiers.isFinal

def isPublic (t : HostType) : Bool := t.modifiers.isPublic

def isSynthetic (t : HostType) : Bool := t.modifiers.isSynthetic

/-- Whether two handles name the same declaration. -/
def same (a b : HostType) : Bool := a.id == b.id

/-- The type and its superclasses, the most derived first. -/
def chain : HostType → List HostType
  | .mk own none interfaces => [.mk own none interfaces]
  | .mk own (some superclass) interfaces =>
    .mk own (some superclass) interfaces :: superclass.chain

/-- The counter of new objects: the nearest one declared in the chain. -/
def startCounter (t : HostType) : Option Int64 := t.chain.findSome? (·.own.counter)

def debug (t : HostType) : String :=
  Text.openRecordText "TypeEntry"
    [("qualified_name", Text.quoted t.name),
     ("modifiers", t.modifiers.debug),
     ("superclass", Text.optionText (t.superclass?.map fun s => Text.quoted s.name)),
     ("interfaces", Text.listText (t.interfaces.map fun i => Text.quoted i.name)),
     ("methods", toString t.methods.length)]

def debugRef (t : HostType) : String := "TypeRef(" ++ t.name ++ ")"

end HostType

end ScriptClass
