import ScriptClass.Store.Holding
import ScriptClass.Registry
import ScriptClass.Context

/-!
# The store

All that changes while programs run, and the code that handles name by number:
object literals, counters of host objects, the two-sided objects of generated
classes, wrapper classes, the registry and the contexts.

Numbers are given out once and in order, so a handle names the same thing for
ever. What a handle merely refers to, without holding it, is an optional field
that is cleared when nothing holds its target any more.
-/

namespace ScriptClass

/-- What is known of a generated class since it was loaded. -/
structure LoadRecord where
  id : Nat
  /-- The name of the host class. -/
  name : String
  /-- The digest of the listing, where one was made. -/
  listingHash : Option UInt64
  /-- Where the listing was written, if it was. -/
  path : Option String
  deriving DecidableEq, Repr

/-- The name of the listing's file. -/
def LoadRecord.file? (u : LoadRecord) : Option String :=
  u.path.map fun path => String.ofList (path.toList.reverse.takeWhile (· != '/')).reverse

def LoadRecord.debug (u : LoadRecord) : String :=
  Text.recordText "LoadUnit"
    [("id", toString u.id), ("name", Text.quoted u.name),
     ("diagnostics_path", Text.optionText (u.path.map Text.quoted))]

/-- A wrapper class: the script side of a generated class, loaded. -/
structure Wrapper where
  plan : WrapperPlan
  /-- The name of the host side. -/
  backingName : String
  isAbstract : Bool
  /-- Whether a host side was bound; it happens once. -/
  hasBacking : Bool := false
  /-- The host side, which the wrapper does not hold. -/
  backing : Option HostType := none
  unit : Option LoadRecord := none
  /-- Whether a static facet was bound; it happens once. -/
  isBound : Bool := false
  /-- The static facet handed out last, which the wrapper does not hold. -/
  facet : Option StaticFacet := none

def Wrapper.debug (w : Wrapper) : String :=
  Text.recordText "WrapperClass"
    [("name", Text.quoted w.plan.name), ("backing", Text.quoted w.backingName),
     ("bound", toString w.isBound)]

/-- What changes about an object of a generated class. -/
structure PairState where
  /-- The native state. -/
  counter : Option Int64
  properties : Entries

/-- All that changes while programs run. -/
structure Store where
  /-- The number of declarations so far. -/
  declarations : Nat
  natives : Array NativeCode
  functions : Array FunctionCode := #[]
  /-- Object literals. -/
  literals : Array Entries := #[]
  /-- The native states of plain host objects. -/
  plain : Array (Option Int64) := #[]
  pairs : Array PairState := #[]
  /-- The number of static facets so far. -/
  facets : Nat := 0
  wrappers : Array Wrapper := #[]
  registry : Registry
  contexts : Contexts := {}
  /-- The name, in messages, of the native state that objects carry. -/
  stateName : String := "Counter"
  /-- Named counters of script code. -/
  counters : List (String × Nat) := []
  /-- What is held from outside while code runs: by the handles that a user keeps,
  and by calls that have not ended. -/
  roots : List Holding := []
  /-- The number of generation requests so far. -/
  generations : UInt64 := 0
  /-- Whether listings can be written. -/
  writable : Bool := true
  /-- Listings by path. -/
  files : List (String × String) := []

/-- The root class, whose objects know only their identity. -/
def rootClass : HostType :=
  .mk
    { id := 0, name := objectName, modifiers := .onlyPublic
      methods :=
        [.native ⟨"hashCode", [], .primitive .int⟩ 0,
         .native ⟨"equals", [.object], .primitive .bool⟩ 1,
         .native ⟨"toString", [], .string⟩ 2] }
    none []

/-- The string class. -/
def stringClass : HostType :=
  .mk
    { id := 1, name := stringName, modifiers := { isPublic := true, isFinal := true } }
    (some rootClass) []

namespace Store

/-- The store of a fresh program, with the built-in classes. -/
def initial : Store where
  declarations := 2
  natives := #[.identity, .sameObject, .identityText]
  registry := .ofBuiltins rootClass stringClass

/-! ## Allocation -/

def newNative (s : Store) (code : NativeCode) : Nat × Store :=
  (s.natives.size, { s with natives := s.natives.push code })

/-- A function with code of its own. -/
def newFunction (s : Store) (code : FunctionCode) (name : Option String) (arity : Option Nat) :
    FunctionRef × Store :=
  (⟨s.functions.size, name, arity⟩, { s with functions := s.functions.push code })

/-- An object literal. -/
def newLiteral (s : Store) (entries : Entries) : Nat × Store :=
  (s.literals.size, { s with literals := s.literals.push entries })

/-- A plain host object with this native state. -/
def newPlain (s : Store) (t : HostType) (counter : Option Int64) : HostObject × Store :=
  (.plain s.plain.size t, { s with plain := s.plain.push counter })

def newFacet (s : Store) (backing : HostType) (w : WrapperRef) : StaticFacet × Store :=
  (⟨s.facets, backing, w⟩, { s with facets := s.facets + 1 })

def newPair (s : Store) (t : HostType) (w : WrapperRef) (state : PairState) : Pair × Store :=
  (⟨s.pairs.size, t, w⟩, { s with pairs := s.pairs.push state })

def newWrapper (s : Store) (w : Wrapper) : WrapperRef × Store :=
  (⟨s.wrappers.size, w.plan.name, w.backingName⟩, { s with wrappers := s.wrappers.push w })

/-- A host type made from its parts, under a number of its own. -/
def newType (s : Store) (make : Nat → HostType) : HostType × Store :=
  (make s.declarations, { s with declarations := s.declarations + 1 })

/-! ## Registration -/

/-- Registers a host type, which stays loaded. -/
def register (s : Store) (t : HostType) : Except RegistrationError Unit × Store :=
  match s.registry.register t with
  | .ok registry => (.ok (), { s with registry })
  | .error e => (.error e, s)

/-- Registers a generated type without keeping it loaded. -/
def registerWeakly (s : Store) (t : HostType) : Except RegistrationError Unit × Store :=
  let (r, registry) := s.registry.registerWeakly t
  (r, { s with registry })

/-- Removes a name; says whether a loaded type had it. -/
def unregister (s : Store) (name : String) : Bool × Store :=
  let (was, registry) := s.registry.unregister name
  (was, { s with registry })

/-- Drops the entries of unloaded types; says how many there were. -/
def purge (s : Store) : Nat × Store :=
  (s.registry.deadNames.length, { s with registry := s.registry.purge })

/-! ## Lookup and change -/

def wrapper? (s : Store) (w : WrapperRef) : Option Wrapper := s.wrappers[w.id]?

def updateWrapper (s : Store) (w : WrapperRef) (f : Wrapper → Wrapper) : Store :=
  { s with wrappers := s.wrappers.modify w.id f }

/-- The entries of an object literal. -/
def literal (s : Store) (id : Nat) : Entries := s.literals[id]?.getD []

/-- The data properties of an object of a generated class. -/
def properties (s : Store) (p : Pair) : Entries :=
  (s.pairs[p.id]?.map PairState.properties).getD []

/-- The native state of a host object. -/
def counter? (s : Store) : HostObject → Option Int64
  | .plain id _ => s.plain[id]?.join
  | .pair p => s.pairs[p.id]?.bind PairState.counter

def setCounter (s : Store) (v : Int64) : HostObject → Store
  | .plain id _ => { s with plain := s.plain.modify id fun _ => some v }
  | .pair p => { s with pairs := s.pairs.modify p.id fun state => { state with counter := some v } }

/-- The value of a named counter. -/
def count (s : Store) (name : String) : Nat := (s.counters.lookup name).getD 0

/-- Advances a named counter. -/
def advance (s : Store) (name : String) : Nat × Store :=
  let n := s.count name + 1
  (n, { s with counters := (name, n) :: s.counters.filter (·.1 != name) })

end Store

/-- Replaces the value of the first entry of a key, or appends an entry. -/
def Entries.put (key : String) (value : ScriptValue) : Entries → Entries
  | [] => [(key, value)]
  | e :: es => if e.1 == key then (key, value) :: es else e :: Entries.put key value es

/-- The value of the first entry of a key. -/
def Entries.get? (entries : Entries) (key : String) : Option ScriptValue := entries.lookup key

/-- The keys, each where it was first written. -/
def Entries.keys (entries : Entries) : List String :=
  entries.foldl (fun keys e => if keys.contains e.1 then keys else keys ++ [e.1]) []

/-- Object literals in diagnostics. -/
def Entries.debug (entries : Entries) : String :=
  Text.entriesText (entries.map fun e => (Text.quoted e.1, e.2.debug))

end ScriptClass
