import ScriptClass.Store.Basic

/-!
# Properties of script objects

What script code reads, writes and lists by name. An object of a generated class
answers with its own data, then with its script members, then with the host
methods that it inherits; a static facet answers with the read-only data and the
static members of its class. A member is read as a function, made anew at each
read, that finds its object again through `this`.
-/

namespace ScriptClass

namespace Store

/-- The function for a member name or key of a wrapper class. A key runs just
that member; a bare name picks an overload when it is called. -/
def memberFunction (s : Store) (w : WrapperRef) (facet : Facet) (name : String) :
    Option FunctionRef × Store :=
  match s.wrapper? w with
  | none => (none, s)
  | some c =>
    let id := c.plan.findId facet name
    if id.isDefault then (none, s)
    else
      let exact :=
        match c.plan.member? id with
        | some m => m.key == name && m.name != name
        | none => false
      let (f, s) := s.newFunction (.member w facet name id exact) (some name) none
      (some f, s)

/-- The function for the host methods of a name that objects of a class
inherit. -/
def hostFunction (s : Store) (t : HostType) (name : String) : Option FunctionRef × Store :=
  match t.callableSignatures name with
  | [] => (none, s)
  | signatures =>
    let (f, s) := s.newFunction (.inherited t.name name signatures) (some name) none
    (some f, s)

/-- Reads a property of a script object. -/
def getProperty (s : Store) (o : ScriptObject) (name : String) : Option ScriptValue × Store :=
  match o with
  | .plain id => ((s.literal id).get? name, s)
  | .pair p =>
    match (s.properties p).get? name with
    | some v => (some v, s)
    | none =>
      match s.memberFunction p.wrapper .instances name with
      | (some f, s) => (some (.function f), s)
      | (none, s) =>
        let (f, s) := s.hostFunction p.type name
        (f.map .function, s)
  | .facet f =>
    match (s.wrapper? f.wrapper).bind (·.plan.classData? name) with
    | some v => (some v, s)
    | none =>
      let (g, s) := s.memberFunction f.wrapper .statics name
      (g.map .function, s)

/-- Writes a property of a script object. Members of generated classes, and all
that a static facet has, are read-only. -/
def putProperty (s : Store) (o : ScriptObject) (name : String) (v : ScriptValue) :
    Except RuntimeError Store :=
  match o with
  | .plain id => .ok { s with literals := s.literals.modify id (Entries.put name v) }
  | .pair p =>
    let member := ((s.wrapper? p.wrapper).map fun c => c.plan.findId .instances name).getD .default
    if member.isDefault then
      .ok { s with pairs := s.pairs.modify p.id fun state =>
        { state with properties := Entries.put name v state.properties } }
    else .error (.readOnlyProperty name)
  | .facet _ => .error (.readOnlyProperty name)

/-- The keys of a script object in order. -/
def keysOf (s : Store) : ScriptObject → List String
  | .plain id => (s.literal id).keys
  | .pair p =>
    (s.properties p).map (·.1) ++
      ((s.wrapper? p.wrapper).map fun c => c.plan.instances.map Member.key).getD []
  | .facet f =>
    match s.wrapper? f.wrapper with
    | some c => c.plan.staticProperties.map (·.1) ++ c.plan.statics.map Member.key
    | none => []

/-! ## Ids of members

Objects of generated classes and static facets also answer by id. -/

/-- The id of a member name or key: on an object the instance members come
first, then the static ones. -/
def idOf? (s : Store) (o : ScriptObject) (name : String) : Option MemberId :=
  match o with
  | .plain _ => none
  | .pair p => (s.wrapper? p.wrapper).map fun c =>
    let id := c.plan.findId .instances name
    if id.isDefault then c.plan.findId .statics name else id
  | .facet f => (s.wrapper? f.wrapper).map fun c => c.plan.findId .statics name

/-- The key of a member id. A static facet does not name instance members. -/
def keyOf? (s : Store) (o : ScriptObject) (id : MemberId) : Option String :=
  match o with
  | .plain _ => none
  | .pair p => (s.wrapper? p.wrapper).bind fun c => c.plan.keyOf? id
  | .facet f =>
    if id.isInstance then none else (s.wrapper? f.wrapper).bind fun c => c.plan.keyOf? id

/-- The declared number of parameters of a member id. -/
def arityOf? (s : Store) (o : ScriptObject) (id : MemberId) : Option Nat :=
  match o with
  | .plain _ => none
  | .pair p => ((s.wrapper? p.wrapper).bind fun c => c.plan.member? id).bind Member.arity
  | .facet f =>
    (s.wrapper? f.wrapper).bind fun c =>
      if id.isConstructor then c.plan.constructor.bind Member.arity
      else (c.plan.member? id).bind Member.arity

end Store

end ScriptClass
