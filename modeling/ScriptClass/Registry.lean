import ScriptClass.Error

/-!
# The registry of host types

Every loaded host type by its qualified name. Host types are registered strongly
and stay loaded. Generated types are registered weakly: once nothing else holds
such a type it is unloaded, which clears its entry; the name is free again, and
the entry itself goes with the next purge.
-/

namespace ScriptClass

/-- An entry of the registry. -/
inductive RegistryEntry where
  | host (t : HostType)
  /-- A generated type; nothing once it is unloaded. -/
  | generated (t : Option HostType)

def RegistryEntry.type? : RegistryEntry → Option HostType
  | .host t => some t
  | .generated t => t

def RegistryEntry.isLive (r : RegistryEntry) : Bool := r.type?.isSome

/-- Every loaded host type by name. -/
structure Registry where
  /-- The root class. -/
  object : HostType
  /-- The string class. -/
  string : HostType
  entries : List (String × RegistryEntry)
  /-- Names by their hashes. -/
  byHash : List (TypeHash × String)

namespace Registry

/-- The entry of a name, live or not. -/
def entry? (r : Registry) (name : String) : Option RegistryEntry := r.entries.lookup name

/-- Removes the entry of a name and its hash. -/
def erase (r : Registry) (name : String) : Registry :=
  { r with
    entries := r.entries.filter (·.1 != name)
    byHash := r.byHash.filter (·.1 != TypeHash.ofName name) }

/-- Sets the entry of a type's name and its hash. -/
def insert (r : Registry) (t : HostType) (e : RegistryEntry) : Registry :=
  { r with
    entries := (t.name, e) :: r.entries.filter (·.1 != t.name)
    byHash := (t.hash, t.name) :: r.byHash.filter (·.1 != t.hash) }

/-- The registry of the two built-in classes. -/
def ofBuiltins (object string : HostType) : Registry :=
  (Registry.insert { object, string, entries := [], byHash := [] } object (.host object)).insert
    string (.host string)

/-- The loaded type of a name. -/
def lookup (r : Registry) (name : String) : Option HostType :=
  (r.entry? name).bind RegistryEntry.type?

def resolve (r : Registry) (name : String) : Except RegistrationError HostType :=
  match r.lookup name with
  | some t => .ok t
  | none => .error (.typeNotFound name)

/-- The loaded type whose name has a hash. -/
def lookupByHash (r : Registry) (h : TypeHash) : Option HostType :=
  (r.byHash.lookup h).bind r.lookup

def contains (r : Registry) (name : String) : Bool := (r.lookup name).isSome

/-- The loaded type that a descriptor refers to. -/
def lookupDescriptor (r : Registry) (t : Descriptor) : Option HostType :=
  t.referenceName?.bind r.lookup

/-- Whether values of the type `source` may be used where `target` is expected. -/
def isAssignable (r : Registry) (source target : String) : Bool :=
  source == target || target == objectName ||
    match r.lookup source with
    | some t => t.isSubtypeOf target
    | none => false

/-- The names of the loaded types, sorted. -/
def names (r : Registry) : List String :=
  ((r.entries.filter (·.2.isLive)).map (·.1)).mergeSort fun a b => !(decide (b < a))

/-- The number of loaded types. -/
def size (r : Registry) : Nat := (r.entries.filter (·.2.isLive)).length

def debug (r : Registry) : String :=
  Text.recordText "HostRegistry" [("types", Text.listText (r.names.map Text.quoted))]

/-- What makes a type unfit for any registry. -/
def fault? (t : HostType) : Option TypeFault :=
  if t.name.isEmpty then some .emptyName
  else
    match t.superclass? with
    | some s =>
      if t.isInterface then some .interfaceWithSuperclass
      else if s.isInterface then some (.superclassIsInterface s.name)
      else interfaceFault
    | none => interfaceFault
where
  interfaceFault : Option TypeFault :=
    (t.interfaces.find? fun i => !i.isInterface).map fun i => .notAnInterface i.name

/-- Refuses malformed types. -/
def validate (t : HostType) : Except RegistrationError Unit :=
  match fault? t with
  | some fault => .error (.invalidType t.name fault)
  | none => .ok ()

/-- Refuses a name that a loaded type has. -/
def refuseTaken (r : Registry) (name : String) : Except RegistrationError Unit :=
  if r.contains name then .error (.duplicateType name) else .ok ()

/-- Registers a host type, which stays loaded. -/
def register (r : Registry) (t : HostType) : Except RegistrationError Registry := do
  validate t
  r.refuseTaken t.name
  return r.insert t (.host t)

/-- The names whose types are unloaded. -/
def deadNames (r : Registry) : List String :=
  (r.entries.filter fun e => !e.2.isLive).map (·.1)

/-- Drops the entries of unloaded types. -/
def purge (r : Registry) : Registry := r.deadNames.foldl erase r

/-- Registers a generated type without keeping it loaded. Dropping the entries
of unloaded types first, the table grows with the number of live types only;
this happens even where the name is then found to be taken. -/
def registerWeakly (r : Registry) (t : HostType) :
    Except RegistrationError Unit × Registry :=
  match validate t with
  | .error e => (.error e, r)
  | .ok () =>
    let r := r.purge
    match r.refuseTaken t.name with
    | .error e => (.error e, r)
    | .ok () => (.ok (), r.insert t (.generated (some t)))

/-- Removes a name; says whether a loaded type had it. -/
def unregister (r : Registry) (name : String) : Bool × Registry :=
  match r.entry? name with
  | some e => (e.isLive, r.erase name)
  | none => (false, r)

/-- Clears the entries of generated types that nothing holds any more. -/
def unload (r : Registry) (isHeld : HostType → Bool) : Registry :=
  { r with entries := r.entries.map fun (name, e) =>
      match e with
      | .host t => (name, .host t)
      | .generated t => (name, .generated (t.filter isHeld)) }

end Registry

end ScriptClass
