import ScriptClass.Context

/-!
# Configuration

The settings of a class generator, and which of them cannot work.
-/

namespace ScriptClass

/-- The settings of a class generator. -/
structure Config where
  /-- Whether a listing of every generated class is written. -/
  development : Bool := true
  /-- The directory of listings. -/
  listingDir : String := "extended-classes"
  /-- The package of generated classes whose name was requested. -/
  package : String := "hostbridge/generated"
  /-- What precedes the number in names that were not requested. -/
  nameStem : String := "ExtendedClass$"
  /-- The limit on nested script calls of contexts made from the settings. -/
  maxDepth : Nat := Context.defaultMaxDepth
  deriving DecidableEq, Repr

/-- Why settings cannot be used. -/
inductive ConfigError where
  /-- The file cannot be read. -/
  | unreadable
  /-- The text is no document of settings. -/
  | malformed
  | emptyPackage
  | emptyNameStem
  | zeroDepth
  deriving DecidableEq, Repr

namespace ConfigError

/-- What is wrong with a value that was read; the wording of unreadable and
malformed documents is not fixed. -/
def message? : ConfigError → Option String
  | unreadable => none
  | malformed => none
  | emptyPackage => some "invalid config: generated_package is empty"
  | emptyNameStem => some "invalid config: name_prefix is empty"
  | zeroDepth => some "invalid config: max_call_depth must be positive"

end ConfigError

namespace Config

/-- Refuses values that read well but cannot work. -/
def validate (c : Config) : Except ConfigError Config :=
  if c.package.isEmpty then .error .emptyPackage
  else if c.nameStem.isEmpty then .error .emptyNameStem
  else if c.maxDepth = 0 then .error .zeroDepth
  else .ok c

/-- The name of a generated class: the requested one within the package, or the
stem and the number of the request. -/
def nameFor (c : Config) (requested : Option String) (number : UInt64) : String :=
  match requested with
  | some name => c.package ++ "/" ++ name
  | none => c.nameStem ++ toString number

end Config

end ScriptClass
