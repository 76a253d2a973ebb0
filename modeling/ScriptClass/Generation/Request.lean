import ScriptClass.Generation.Load

/-!
# Generating a class

A request names a base type, interfaces and the two halves of a script
implementation. It is checked, its members are collected, overrides are bound
and both sides are planned and loaded; the answer is the static facet of the new
class. A request that is refused leaves nothing loaded.
-/

namespace ScriptClass

/-- A request for a generated class. -/
structure ClassRequest where
  /-- The base type; the root class where absent. -/
  base : Option HostType := none
  interfaces : List HostType := []
  instances : Option Entries := none
  statics : Option Entries := none
  /-- The simple name; a number in its stead where absent. -/
  name : Option String := none

/-- What keeps a type from being extended. -/
def HostType.baseFault? (t : HostType) : Option BaseFault :=
  if t.isInterface then some .isInterface
  else if t.isFinal then some .isFinal
  else if !t.isPublic then some .notPublic
  else if t.isSynthetic then some .isGenerated
  else none

/-- What keeps a type from being implemented. -/
def HostType.interfaceFault? (t : HostType) : Option BaseFault :=
  if !t.isInterface then some .notInterface
  else if t.isFinal then some .isFinal
  else if !t.isPublic then some .notPublic
  else none

def checkBase (t : HostType) : Except GenerationError Unit :=
  match t.baseFault? with
  | some fault => .error (.invalidBaseType t.name fault)
  | none => .ok ()

def checkInterface (t : HostType) : Except GenerationError Unit :=
  match t.interfaceFault? with
  | some fault => .error (.invalidInterface t.name fault)
  | none => .ok ()

/-- The checks of a request before anything is made, and its members. -/
def ClassRequest.collect (r : ClassRequest) (registry : Registry) (base : HostType)
    (name : String) : Except GenerationError Members := do
  checkBase base
  r.interfaces.forM checkInterface
  if registry.contains name then throw (.nameCollision name)
  Members.collect r.instances r.statics

/-- The two plans of a class. -/
structure ClassPair where
  host : ClassPlan
  script : WrapperPlan

/-- Plans both sides of a class from its members. -/
def ClassPair.ofMembers (name : String) (base : HostType) (interfaces : List HostType)
    (ms : Members) : ClassPair where
  host := .ofOverrides name base interfaces (.ofMembers base interfaces ms.instances)
  script := .ofMembers (name ++ wrapperSuffix) ms

/-- Plans both sides of a class from the halves of its implementation. -/
def ClassPair.ofEntries (name : String) (base : HostType) (interfaces : List HostType)
    (instances statics : Option Entries) : Except GenerationError ClassPair :=
  (Members.collect instances statics).map (.ofMembers name base interfaces)

namespace Store

/-- Generates a class and gives its static facet. Every request takes a number,
also one that is refused. -/
def generate (s : Store) (config : Config) (r : ClassRequest) :
    Except RequestError StaticFacet × Store :=
  let number := s.generations + 1
  let s := { s with generations := number }
  let base := r.base.getD s.registry.object
  let name := config.nameFor r.name number
  match r.collect s.registry base name with
  | .error e => (.error (.generation .collecting e), s)
  | .ok ms =>
    let pair := ClassPair.ofMembers name base r.interfaces ms
    match s.load config number.toNat pair.host pair.script with
    | (.error e, s) => (.error (.generation .synthesizing e), s)
    | (.ok loaded, s) =>
      let (f, s) := s.newFacet loaded.backing loaded.wrapper
      match s.bindFacet loaded.wrapper f with
      | .error e => (.error (.runtime e), s)
      | .ok s => (.ok f, s)

end Store

/-- A static facet in diagnostics. -/
def StaticFacet.debug (f : StaticFacet) : String :=
  Text.recordText "StaticFacet"
    [("name", Text.quoted f.backing.name), ("abstract", toString f.backing.isAbstract)]

/-- An object of a generated class in diagnostics. -/
def Pair.debug (p : Pair) (s : Store) : String :=
  Text.openRecordText "ObjectPair"
    [("class", Text.quoted p.type.name),
     ("has_state", toString (s.counter? (.pair p)).isSome)]

end ScriptClass
