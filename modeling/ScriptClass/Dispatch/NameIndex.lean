import ScriptClass.Member.Id
import ScriptClass.Hash.TypeHash

/-!
# Name indexes

A name index finds the id of a member name. Its entries are sorted by the hash
of the name and then by the name; a search halves the table down to the first
entry of the hash and compares names from there. The order in which names were
given decides nothing, except that the first id given for a name stays.

The construction works for any hash, whether or not names collide under it.
-/

namespace ScriptClass

/-- One name with its hash and id. -/
structure NameEntry where
  hash : TypeHash
  name : String
  id : MemberId
  deriving DecidableEq, Repr

/-- Entries in the order of hashes, then of names. -/
structure NameIndex where
  entries : Array NameEntry
  deriving DecidableEq, Repr

namespace NameEntry

/-- The order of the index. -/
def le (a b : NameEntry) : Bool :=
  if a.hash.value == b.hash.value then !(decide (b.name < a.name))
  else a.hash.value < b.hash.value

end NameEntry

namespace NameIndex

section Hash

variable (hash : String → TypeHash)

/-- The entries of a list of names, without later ids of a name given before. -/
def distinctEntries (names : List (String × MemberId)) : List NameEntry :=
  names.foldl (fun out (name, id) =>
    if out.any (·.name == name) then out else out ++ [⟨hash name, name, id⟩]) []

def buildWith (names : List (String × MemberId)) : NameIndex :=
  ⟨((distinctEntries hash names).mergeSort NameEntry.le).toArray⟩

/-- The first place in `[low, high)` whose hash is not below `h`, if the hashes
ascend. -/
def firstNotBelow (s : NameIndex) (h : TypeHash) (low high : Nat) : Nat :=
  if low < high then
    let middle := (low + high) / 2
    match s.entries[middle]? with
    | some c =>
      if c.hash.value < h.value then firstNotBelow s h (middle + 1) high
      else firstNotBelow s h low middle
    | none => low
  else low
termination_by high - low

/-- The id of a name, or the default id. -/
def findWith (s : NameIndex) (name : String) : MemberId :=
  let h := hash name
  let run := (s.entries.toList.drop (s.firstNotBelow h 0 s.entries.size)).takeWhile (·.hash == h)
  ((run.find? (·.name == name)).map NameEntry.id).getD .default

end Hash

/-- The index of a list of names and ids. -/
def build : List (String × MemberId) → NameIndex := buildWith TypeHash.ofMember

/-- The id of a name, or the default id. -/
def find (s : NameIndex) (name : String) : MemberId := s.findWith TypeHash.ofMember name

/-- The names in the order of the index. -/
def names (s : NameIndex) : List String := s.entries.toList.map NameEntry.name

end NameIndex

end ScriptClass
