/-!
# Member ids

A generated class names its script members by small integers: 0 names none, 1
is the constructor, the members of an instance count up from 2 and the members
of the class itself count down from -1.
-/

namespace ScriptClass

/-- The two halves of an implementation. -/
inductive Facet where
  /-- Members of each object. -/
  | instances
  /-- Members of the class itself. -/
  | statics
  deriving DecidableEq, Repr

def Facet.display : Facet → String
  | .instances => "instance"
  | .statics => "static"

/-- The id of a script member. -/
structure MemberId where
  value : Int32
  deriving DecidableEq, Repr

namespace MemberId

/-- Names no member. -/
def default : MemberId := ⟨0⟩

def constructor : MemberId := ⟨1⟩

def isDefault (id : MemberId) : Bool := id.value == 0

def isConstructor (id : MemberId) : Bool := id.value == 1

def isInstance (id : MemberId) : Bool := 2 ≤ id.value.toInt

def isStatic (id : MemberId) : Bool := id.value.toInt < 0

/-- The facet that an id belongs to. -/
def facet? (id : MemberId) : Option Facet :=
  if id.isInstance then some .instances
  else if id.isStatic then some .statics
  else none

/-- `#` and the number. -/
def display (id : MemberId) : String := "#" ++ toString id.value.toInt

/-- The id of the member at an index of a facet. -/
def ofIndex : Facet → Nat → MemberId
  | .instances, index => ⟨Int32.ofInt (2 + index)⟩
  | .statics, index => ⟨Int32.ofInt (-1 - index)⟩

/-- The index within a facet that an id stands for. -/
def index? (facet : Facet) (id : MemberId) : Option Nat :=
  let distance :=
    match facet with
    | .instances => id.value.toInt - 2
    | .statics => -1 - id.value.toInt
  if 0 ≤ distance then some distance.toNat else none

/-- The ids that a facet has handed out: so many, counting from its first. -/
structure Allocator where
  facet : Facet
  count : Nat := 0
  deriving DecidableEq, Repr

namespace Allocator

def next (a : Allocator) : MemberId := ofIndex a.facet a.count

def advance (a : Allocator) : Allocator := { a with count := a.count + 1 }

/-- The id handed out last. -/
def last? (a : Allocator) : Option MemberId :=
  match a.count with
  | 0 => none
  | n + 1 => some (ofIndex a.facet n)

end Allocator

end MemberId

end ScriptClass
