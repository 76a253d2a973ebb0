import ScriptClass.Member.Id

/-!
# Dispatch tables

A dense table from ids to handlers: the static members in descending order of
their places, the default, the constructor, then the instance members. Ids
outside the table go to the default.
-/

namespace ScriptClass

/-- The handler of an id. -/
inductive Handler where
  /-- No such member. -/
  | default
  | constructor
  /-- The callable at an index of a facet. -/
  | member (facet : Facet) (index : Nat)
  deriving DecidableEq, Repr

def Handler.display : Handler → String
  | .default => "default"
  | .constructor => "constructor"
  | .member facet index => s!"{facet.display} {index}"

/-- Handlers of the ids from `firstId` on. -/
structure HandlerTable where
  firstId : MemberId
  handlers : List Handler
  deriving DecidableEq, Repr

namespace HandlerTable

/-- The table of so many static and instance members. -/
def ofCounts (statics instances : Nat) : HandlerTable where
  firstId := ⟨Int32.ofInt (-statics)⟩
  handlers := (List.range statics).reverse.map (.member .statics) ++
    [.default, .constructor] ++ (List.range instances).map (.member .instances)

/-- The handler of an id. -/
def lookup (t : HandlerTable) (id : MemberId) : Handler :=
  let offset := id.value.toInt - t.firstId.value.toInt
  if offset < 0 then .default else t.handlers[offset.toNat]?.getD .default

def size (t : HandlerTable) : Nat := t.handlers.length

/-- The id at a place of the table. -/
def idAt (t : HandlerTable) (place : Nat) : MemberId :=
  ⟨Int32.ofInt (t.firstId.value.toInt + place)⟩

/-- The last id of the table. -/
def lastId (t : HandlerTable) : MemberId :=
  ⟨Int32.ofInt (t.firstId.value.toInt + t.size - 1)⟩

/-- Every id of the table with its handler, in ascending order. -/
def toList (t : HandlerTable) : List (MemberId × Handler) :=
  t.handlers.zipIdx.map fun (handler, place) => (t.idAt place, handler)

end HandlerTable

end ScriptClass
