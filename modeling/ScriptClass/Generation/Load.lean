import ScriptClass.Config.Basic
import ScriptClass.Generation.ClassPlan
import ScriptClass.Run.Basic

/-!
# Loading a generated class

Loading ties the two sides of a generated class: the host type, whose
constructor leads to the wrapper class, and the wrapper class, which refers to
the host type without holding it. The name is registered without keeping the
type loaded. In development a listing is written, with a heading and both sides;
it is for people, and nothing reads it back. Failing to write it changes nothing
else.
-/

namespace ScriptClass

/-! ## Listings -/

/-- The listing of both sides of a generated class. -/
def listingText (unit : Nat) (c : ClassPlan) (w : WrapperPlan) : String :=
  s!"// load unit {unit}\n" ++ c.listing ++ "\n" ++ w.listing

/-- The file of a listing, named for the base type and the load unit. -/
def listingFile (base : String) (unit : Nat) : String := s!"{base}_{unit}.txt"

/-- A file name that can be written: at most 255 bytes, none of them zero. -/
def isWritableName (file : String) : Bool :=
  file.utf8ByteSize ≤ 255 && !file.toList.contains '\x00'

/-! ## Loading -/

/-- The two sides of a class that was just loaded. -/
structure LoadedClass where
  backing : HostType
  wrapper : WrapperRef

namespace LoadedClass

/-- The loaded class in diagnostics. -/
def debug (l : LoadedClass) (s : Store) : String :=
  Text.recordText "LoadedPair"
    [("backing", l.backing.debugRef),
     ("wrapper", ((s.wrapper? l.wrapper).map Wrapper.debug).getD "")]

end LoadedClass

namespace Store

/-- Writes a listing and gives its path, if it can be written. -/
def writeListing (s : Store) (dir file text : String) : Option String × Store :=
  if s.writable && isWritableName file then
    let path := if dir.isEmpty then file else dir ++ "/" ++ file
    (some path, { s with files := (path, text) :: s.files.filter (·.1 != path) })
  else (none, s)

/-- What was written at a path. -/
def readListing (s : Store) (path : String) : Option String := s.files.lookup path

/-- Binds the host side of a wrapper class, which happens once. -/
def bindBacking (s : Store) (w : WrapperRef) (t : HostType) : Except RuntimeError Store :=
  match s.wrapper? w with
  | none => .error (.unloaded w.backing)
  | some c =>
    if c.hasBacking then .error (.duplicateBinding c.backingName)
    else .ok (s.updateWrapper w fun c => { c with hasBacking := true, backing := some t })

/-- Loads the two sides of a class under the number of its load unit. A name
that a live type has is refused. -/
def load (s : Store) (config : Config) (unit : Nat) (plan : ClassPlan) (script : WrapperPlan) :
    Except GenerationError LoadedClass × Store :=
  let (wrapper, loaded) := s.newWrapper
    { plan := script, backingName := plan.name, isAbstract := plan.isAbstract }
  let (type, loaded) := loaded.newType fun id => plan.toHostType id wrapper
  match s.registerWeakly type with
  | (.error (.duplicateType name), s) => (.error (.nameCollision name), s)
  | (.error e, s) => (.error (.registration e), s)
  | (.ok (), s) =>
    match Store.bindBacking { loaded with registry := s.registry } wrapper type with
    | .error e => (.error (.registration (.invalidType plan.name (.unbindable e))), s)
    | .ok loaded =>
      let text := listingText unit plan script
      let (path, loaded) :=
        if config.development then
          loaded.writeListing config.listingDir (listingFile plan.superclass.simpleName unit) text
        else (none, loaded)
      let listingHash := if config.development then some (Hash.XXH64.ofString text) else none
      let loaded := loaded.updateWrapper wrapper fun c =>
        { c with unit := some { id := unit, name := plan.name, listingHash, path } }
      (.ok ⟨type, wrapper⟩, loaded)

/-- Binds the static facet of a wrapper class, which happens once. -/
def bindFacet (s : Store) (w : WrapperRef) (f : StaticFacet) : Except RuntimeError Store :=
  match s.wrapper? w with
  | none => .error (.unloaded w.backing)
  | some c =>
    if c.isBound then .error (.duplicateBinding c.backingName)
    else .ok (s.updateWrapper w fun c => { c with isBound := true, facet := some f })

end Store

end ScriptClass
