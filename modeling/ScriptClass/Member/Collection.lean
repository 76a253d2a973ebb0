import ScriptClass.Error

/-!
# Collecting members

An implementation is a list of entries, a key and a value each, exactly as
written. Collecting one facet splits it into data properties and callables and
numbers the callables in order. Nothing is shadowed silently:

* the same key twice is a duplicate, and so is a name used both for data and
  for a callable;
* two callables of one name are ambiguous when both are untyped or when their
  parameters hash alike, for a return type tells no two apart;
* `constructor` is reserved: in the instance facet it is a callable, and the
  static facet has none.
-/

namespace ScriptClass

/-- The reserved name of the script constructor. -/
def constructorName : String := "constructor"

/-- Entries of an implementation, as written. -/
abbrev Entries := List (String × ScriptValue)

/-- A callable with its key, as written and as read, and its id. -/
structure Member where
  key : String
  parsed : MemberKey
  id : MemberId
  function : FunctionRef
  deriving DecidableEq, Repr

namespace Member

def name (m : Member) : String := m.parsed.name

def signature (m : Member) : Option Signature := m.parsed.signature

def isTyped (m : Member) : Bool := m.parsed.isTyped

/-- The declared number of parameters. -/
def arity (m : Member) : Option Nat := m.signature.map Signature.arity

/-- Whether script arguments fit the parameters; untyped members accept any. -/
def accepts (m : Member) (args : List ScriptValue) : Bool :=
  match m.signature with
  | none => true
  | some s => s.params.length == args.length && (s.params.zip args).all fun (t, v) => v.fits t

end Member

/-- What was collected from one facet. -/
structure CollectedFacet where
  facet : Facet
  /-- Data, in the order written. -/
  properties : Entries
  /-- Callables other than the constructor, in the order of their ids. -/
  methods : List Member
  constructor : Option Member

namespace CollectedFacet

/-- A facet without members. -/
def empty (facet : Facet) : CollectedFacet := ⟨facet, [], [], none⟩

def isEmpty (ms : CollectedFacet) : Bool :=
  ms.methods.isEmpty && ms.properties.isEmpty && ms.constructor.isNone

/-- Every callable, the constructor included. -/
def callables (ms : CollectedFacet) : List Member := ms.methods ++ ms.constructor.toList

/-- The callable with an id. It is sought at the place that the id stands for. -/
def method? (ms : CollectedFacet) (id : MemberId) : Option Member :=
  if id.isConstructor then ms.constructor
  else (id.index? ms.facet).bind fun index => ms.methods[index]?.filter (·.id == id)

/-- The id of the callable written under a key. -/
def keyId? (ms : CollectedFacet) (key : String) : Option MemberId :=
  (ms.callables.find? (·.key == key)).map Member.id

/-- The callables of a name, in the order written. -/
def named (ms : CollectedFacet) (name : String) : List Member :=
  ms.methods.filter (·.name == name)

/-- The ids of the callables of a name. -/
def overloads (ms : CollectedFacet) (name : String) : List MemberId :=
  (ms.named name).map Member.id

/-- The lowest and the highest id handed out. -/
def idBounds? (ms : CollectedFacet) : Option (MemberId × MemberId) :=
  match ms.methods.head?, ms.methods.getLast? with
  | some first, some last =>
    if first.id.value.toInt ≤ last.id.value.toInt then some (first.id, last.id)
    else some (last.id, first.id)
  | _, _ => none

def hasKey (ms : CollectedFacet) (key : String) : Bool := ms.callables.any (·.key == key)

def hasProperty (ms : CollectedFacet) (name : String) : Bool := ms.properties.any (·.1 == name)

/-- Whether a typed or untyped key would be taken for a callable already there. -/
def clashes (ms : CollectedFacet) (k : MemberKey) : Bool :=
  (ms.named k.name).any fun m =>
    match m.signature, k.signature with
    | none, none => true
    | some a, some b => a.slot == b.slot
    | _, _ => false

/-- Adds a callable under the constructor's name. -/
def addConstructor (ms : CollectedFacet) (key : String) (parsed : MemberKey) (f : FunctionRef) :
    Except GenerationError CollectedFacet :=
  if ms.facet = .statics then .error (.reservedMember .statics key)
  else if ms.constructor.isSome then .error (.duplicateMember ms.facet constructorName)
  else .ok { ms with constructor := some ⟨key, parsed, .constructor, f⟩ }

/-- Adds a callable under its next id. -/
def addMethod (ms : CollectedFacet) (key : String) (parsed : MemberKey) (f : FunctionRef) :
    Except GenerationError CollectedFacet :=
  if ms.hasProperty parsed.name then .error (.duplicateMember ms.facet parsed.name)
  else if ms.clashes parsed then
    .error (.ambiguousBinding ms.facet parsed.name parsed.display)
  else .ok { ms with
    methods := ms.methods ++ [⟨key, parsed, .ofIndex ms.facet ms.methods.length, f⟩] }

/-- Adds a data property. -/
def addProperty (ms : CollectedFacet) (key : String) (value : ScriptValue) :
    Except GenerationError CollectedFacet :=
  if key == constructorName || "constructor(".toList.isPrefixOf key.toList then
    .error (.reservedMember ms.facet key)
  else if !(ms.named key).isEmpty then .error (.duplicateMember ms.facet key)
  else .ok { ms with properties := ms.properties ++ [(key, value)] }

/-- Adds one entry. -/
def add (ms : CollectedFacet) (entry : String × ScriptValue) :
    Except GenerationError CollectedFacet :=
  let (key, value) := entry
  if ms.hasKey key || ms.hasProperty key then .error (.duplicateMember ms.facet key)
  else
    match value with
    | .function f =>
      match MemberKey.parse key with
      | .error fault => .error (.malformedSignature key fault)
      | .ok parsed =>
        if parsed.name = constructorName then ms.addConstructor key parsed f
        else ms.addMethod key parsed f
    | value => ms.addProperty key value

/-- Collects one facet; an absent one has no members. -/
def collect (facet : Facet) (entries : Option Entries) : Except GenerationError CollectedFacet :=
  (entries.getD []).foldlM add (empty facet)

end CollectedFacet

/-- What was collected from both facets. -/
structure Members where
  instances : CollectedFacet
  statics : CollectedFacet

/-- Collects both facets, the instance facet first. -/
def Members.collect (instances statics : Option Entries) : Except GenerationError Members := do
  let instances ← CollectedFacet.collect .instances instances
  let statics ← CollectedFacet.collect .statics statics
  return ⟨instances, statics⟩

end ScriptClass
