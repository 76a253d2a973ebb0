import ScriptClass.Member.Collection
import ScriptClass.Dispatch.Table
import ScriptClass.Dispatch.NameIndex

/-!
# The script side of a generated class

A wrapper plan holds all that dispatch needs: a table from ids to handlers, a
name index for each facet, the callables, the data that each new object starts
with and the read-only data of the class.
-/

namespace ScriptClass

/-- The script side of a generated class, before it is loaded. -/
structure WrapperPlan where
  name : String
  instances : List Member
  statics : List Member
  constructor : Option Member
  handlers : HandlerTable
  instanceNames : NameIndex
  staticNames : NameIndex
  /-- Data that each new object starts with. -/
  prototype : Entries
  /-- Read-only data of the class. -/
  staticProperties : Entries

namespace WrapperPlan

/-- The names that a facet is indexed by. Keys come before names, so that a name
never hides the key of the same text; the constructor's names come last. -/
def nameEntries (methods : List Member) (constructor : Option Member) :
    List (String × MemberId) :=
  methods.map (fun m => (m.key, m.id)) ++ methods.map (fun m => (m.name, m.id)) ++
    constructor.toList.map (fun m => (m.key, m.id)) ++ [(constructorName, .constructor)]

/-- The plan of a wrapper of this name. -/
def ofMembers (name : String) (ms : Members) : WrapperPlan where
  name
  instances := ms.instances.methods
  statics := ms.statics.methods
  constructor := ms.instances.constructor
  handlers := .ofCounts ms.statics.methods.length ms.instances.methods.length
  instanceNames := .build (nameEntries ms.instances.methods ms.instances.constructor)
  staticNames := .build (nameEntries ms.statics.methods none)
  prototype := ms.instances.properties
  staticProperties := ms.statics.properties

/-- The callables of a facet. -/
def members (p : WrapperPlan) : Facet → List Member
  | .instances => p.instances
  | .statics => p.statics

/-- The callable that a handler stands for. -/
def memberOf? (p : WrapperPlan) : Handler → Option Member
  | .default => none
  | .constructor => p.constructor
  | .member facet index => (p.members facet)[index]?

/-- The callable of an id. -/
def member? (p : WrapperPlan) (id : MemberId) : Option Member :=
  p.memberOf? (p.handlers.lookup id)

/-- The id of a member name or key within a facet. -/
def findId (p : WrapperPlan) (facet : Facet) (name : String) : MemberId :=
  match facet with
  | .instances => p.instanceNames.find name
  | .statics => p.staticNames.find name

/-- The callables of a name, in the order written. -/
def overloads (p : WrapperPlan) (facet : Facet) (name : String) : List Member :=
  (p.members facet).filter (·.name == name)

/-- The first callable of a name that accepts the arguments. -/
def select? (p : WrapperPlan) (facet : Facet) (name : String) (args : List ScriptValue) :
    Option Member :=
  (p.overloads facet name).find? (·.accepts args)

/-- The key behind an id. The constructor has one even where none was written. -/
def keyOf? (p : WrapperPlan) (id : MemberId) : Option String :=
  if id.isConstructor then some ((p.constructor.map Member.key).getD constructorName)
  else (p.member? id).map Member.key

/-- Read-only data of the class. -/
def classData? (p : WrapperPlan) (name : String) : Option ScriptValue :=
  (p.staticProperties.find? (·.1 == name)).map (·.2)

/-- What the listing says about a handler. -/
def handlerText (p : WrapperPlan) (handler : Handler) : String :=
  match handler, p.memberOf? handler with
  | .default, _ => "default"
  | .constructor, some m => "constructor " ++ m.key
  | .constructor, none => "constructor (default)"
  | .member facet _, some m => facet.display ++ " " ++ m.key
  | .member facet _, none => facet.display

/-- The listing, one line a handler. -/
def listing (p : WrapperPlan) : String :=
  let ids := p.handlers
  let range := s!"    dispatch [{ids.firstId.value.toInt}, {ids.lastId.value.toInt}]:\n"
  let lines := p.handlers.toList.map fun (id, handler) =>
    s!"        {id.value.toInt} -> {p.handlerText handler}\n"
  let data (label : String) (entries : Entries) :=
    if entries.isEmpty then ""
    else s!"    {label}: " ++ ", ".intercalate (entries.map (·.1)) ++ "\n"
  "wrapper " ++ p.name ++ " \x7b\n" ++ range ++ String.join lines ++
    data "static properties (read-only)" p.staticProperties ++ data "prototype" p.prototype ++
    "\x7d\n"

end WrapperPlan

end ScriptClass
