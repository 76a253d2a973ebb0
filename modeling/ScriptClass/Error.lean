import ScriptClass.Value.Conversion
import ScriptClass.Member.Key

/-!
# Errors

What can go wrong when host types are registered, classes are generated, and
methods are called, with the wording of each cause.
-/

namespace ScriptClass

/-- Failures of calls and constructions. -/
inductive RuntimeError where
  | noActiveContext
  | conversion (cause : ConversionError)
  | descriptor (cause : DescriptorError)
  | abstractMethod (typeName method : String)
  | noSuchMethod (typeName method : String)
  | noSuchMember (className : String) (id : MemberId)
  | unknownMember (className name : String)
  | argumentCount (method : String) (expected actual : Nat)
  | argumentType (method : String) (index : Nat) (expected actual : String)
  | abstractInstantiation (typeName : String)
  | constructionBeforeBinding (className : String)
  | duplicateBinding (className : String)
  | readOnlyProperty (name : String)
  | incompatibleReceiver (className member : String)
  | noMatchingOverload (className name : String) (count : Nat)
  | notCallable (name : String)
  | stackOverflow (limit : Nat)
  | scriptThrown (message : String)
  | unloaded (className : String)
  deriving DecidableEq, Repr

def RuntimeError.message : RuntimeError → String
  | .noActiveContext => "no active script context on this thread"
  | .conversion cause => s!"marshaling failed: {cause.message}"
  | .descriptor cause => cause.message
  | .abstractMethod typeName method =>
    s!"abstract method {typeName}.{method} has no implementation"
  | .noSuchMethod typeName method => s!"{typeName} has no method {method}"
  | .noSuchMember className id => s!"{className} has no member with id {id.value.toInt}"
  | .unknownMember className name => s!"{className} has no member named '{name}'"
  | .argumentCount method expected actual =>
    s!"{method} expects {expected} argument(s), got {actual}"
  | .argumentType method index expected actual =>
    s!"argument {index} of {method}: expected {expected}, got {actual}"
  | .abstractInstantiation typeName => s!"cannot instantiate abstract type {typeName}"
  | .constructionBeforeBinding className =>
    s!"construction of {className} instance before its static facet was bound"
  | .duplicateBinding className => s!"duplicate binding of the static facet of {className}"
  | .readOnlyProperty name => s!"property '{name}' is read-only"
  | .incompatibleReceiver className member =>
    s!"{member} called on incompatible receiver; expected {className}"
  | .noMatchingOverload className name count =>
    s!"no overload of {className}.{name} accepts {count} argument(s)"
  | .notCallable name => s!"'{name}' is not a function"
  | .stackOverflow limit => s!"script call depth exceeded {limit}"
  | .scriptThrown message => s!"script error: {message}"
  | .unloaded className => s!"generated type {className} has been unloaded"

/-- What makes a type unfit for the registry. -/
inductive TypeFault where
  | emptyName
  | interfaceWithSuperclass
  | superclassIsInterface (superclass : String)
  | notAnInterface (name : String)
  /-- The two sides of a generated class cannot be tied. -/
  | unbindable (cause : RuntimeError)
  deriving DecidableEq, Repr

def TypeFault.message : TypeFault → String
  | .emptyName => "empty name"
  | .interfaceWithSuperclass => "interfaces cannot have a superclass"
  | .superclassIsInterface superclass => s!"superclass {superclass} is an interface"
  | .notAnInterface name => s!"{name} is not an interface"
  | .unbindable cause => cause.message

/-- Failures of the registry. -/
inductive RegistrationError where
  | duplicateType (name : String)
  | typeNotFound (name : String)
  | invalidType (name : String) (fault : TypeFault)
  deriving DecidableEq, Repr

def RegistrationError.message : RegistrationError → String
  | .duplicateType name => s!"duplicate type: {name}"
  | .typeNotFound name => s!"type not found: {name}"
  | .invalidType name fault => s!"invalid type {name}: {fault.message}"

/-- Why a type cannot be the base, or one of the interfaces, of a generated
class. -/
inductive BaseFault where
  | isInterface
  | notInterface
  | isFinal
  | notPublic
  | isGenerated
  deriving DecidableEq, Repr

def BaseFault.message : BaseFault → String
  | .isInterface => "it is an interface"
  | .notInterface => "it is not an interface"
  | .isFinal => "it is final"
  | .notPublic => "it is not public"
  | .isGenerated => "it is a generated type"

/-- Failures of a generation request. -/
inductive GenerationError where
  | invalidBaseType (name : String) (fault : BaseFault)
  | invalidInterface (name : String) (fault : BaseFault)
  | duplicateMember (facet : Facet) (name : String)
  | ambiguousBinding (facet : Facet) (name signature : String)
  | malformedSignature (key : String) (fault : KeyFault)
  | reservedMember (facet : Facet) (name : String)
  | nameCollision (name : String)
  | registration (cause : RegistrationError)
  deriving DecidableEq, Repr

def GenerationError.message : GenerationError → String
  | .invalidBaseType name fault => s!"base type {name} cannot be extended: {fault.message}"
  | .invalidInterface name fault => s!"{name} cannot be implemented: {fault.message}"
  | .duplicateMember facet name => s!"duplicate {facet.display} member '{name}'"
  | .ambiguousBinding facet name signature =>
    s!"ambiguous {facet.display} member '{name}': more than one callable for {signature}"
  | .malformedSignature key fault =>
    s!"malformed signature in member key '{key}': {fault.message}"
  | .reservedMember facet name => s!"'{name}' is reserved and cannot be a {facet.display} member"
  | .nameCollision name => s!"a type named {name} is already loaded"
  | .registration cause => cause.message

/-- How far a generation request came. -/
inductive GenerationStage where
  | collecting | resolving | synthesizing | loaded
  deriving DecidableEq, Repr

def GenerationStage.display : GenerationStage → String
  | .collecting => "collecting"
  | .resolving => "resolving"
  | .synthesizing => "synthesizing"
  | .loaded => "loaded"

/-- The failure of a whole request: in a stage of generation, or while its
static facet was bound. -/
inductive RequestError where
  | generation (stage : GenerationStage) (cause : GenerationError)
  | runtime (cause : RuntimeError)
  deriving DecidableEq, Repr

def RequestError.message : RequestError → String
  | .generation stage cause => s!"generation failed while {stage.display}: {cause.message}"
  | .runtime cause => cause.message

end ScriptClass
