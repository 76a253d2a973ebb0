import ScriptClass.Config.Basic
import ScriptClass.Config.Toml.Reader

/-!
# Reading settings

Settings are read from a TOML document. A setting that is missing keeps its
default, and other keys are ignored.
-/

namespace ScriptClass

namespace Config

open Toml (Item Entries)

/-- A setting of the document; the default where it is missing. -/
def setting {α : Type} (es : Entries) (key : String) (default : α) (read : Item → Option α) :
    Except ConfigError α :=
  match es.lookup key with
  | none => .ok default
  | some item =>
    match read item with
    | some v => .ok v
    | none => .error .malformed

def readString : Item → Option String
  | .value (.string v) => some v
  | _ => none

def readBool : Item → Option Bool
  | .value (.boolean v) => some v
  | _ => none

/-- A whole number of 32 bits without a sign. -/
def readLimit : Item → Option Nat
  | .value (.integer v) => if 0 ≤ v ∧ v < UInt32.size then some v.toNat else none
  | _ => none

/-- The settings of a document. -/
def parse (text : String) : Except ConfigError Config := do
  let es ← (Toml.readDocument? text).elim (.error .malformed) .ok
  let base : Config := {}
  let development ← setting es "development" base.development readBool
  let listingDir ← setting es "diagnostics_dir" base.listingDir readString
  let package ← setting es "generated_package" base.package readString
  let nameStem ← setting es "name_prefix" base.nameStem readString
  let maxDepth ← setting es "max_call_depth" base.maxDepth readLimit
  validate { development, listingDir, package, nameStem, maxDepth }

/-- The settings in a file, given its text if it can be read. -/
def load (text : Option String) : Except ConfigError Config :=
  match text with
  | some text => parse text
  | none => .error .unreadable

end Config

end ScriptClass
