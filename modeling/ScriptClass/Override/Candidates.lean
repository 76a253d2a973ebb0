import ScriptClass.HostType.Lookup

/-!
# Override candidates

The methods that a generated class may override. Types are visited in a fixed
order: the base type and its superclasses, the requested interfaces, then the
interfaces of the base chain, each interface followed by its parents and every
type once. In that order the first declaration of a slot owns it; final, private
and static declarations own their slot and are no candidates, so that a final
implementation hides an abstract declaration further up.
-/

namespace ScriptClass

/-- A method that a generated class may override. -/
structure Candidate where
  declaring : HostType
  signature : Signature
  /-- The modifiers declared, abstract whenever there is no implementation. -/
  modifiers : Modifiers

namespace Candidate

def name (c : Candidate) : String := c.signature.name

def isAbstract (c : Candidate) : Bool := c.modifiers.isAbstract

/-- A declaration as a candidate. -/
def ofMethod (declaring : HostType) (m : Method) : Candidate where
  declaring
  signature := m.signature
  modifiers := { m.modifiers with isAbstract := m.modifiers.isAbstract || m.isAbstract }

end Candidate

namespace HostType

mutual

/-- Visits an interface and its parents, unless it was visited before. -/
def visitInterface (visited : List HostType) : HostType → List HostType
  | .mk own superclass interfaces =>
    if visited.any (·.hash == TypeHash.ofName own.name) then visited
    else visitInterfaces (visited ++ [.mk own superclass interfaces]) interfaces

def visitInterfaces (visited : List HostType) : List HostType → List HostType
  | [] => visited
  | t :: ts => visitInterfaces (visitInterface visited t) ts

end

/-- Visits a type alone, unless it was visited before. -/
def visitClass (visited : List HostType) (t : HostType) : List HostType :=
  if visited.any (·.hash == t.hash) then visited else visited ++ [t]

/-- The types that a class of this base and these interfaces would inherit from,
in the order of visits. -/
def ancestors (base : HostType) (interfaces : List HostType) : List HostType :=
  let classes := base.chain.foldl visitClass []
  let requested := visitInterfaces classes interfaces
  visitInterfaces requested (base.chain.flatMap HostType.interfaces)

end HostType

/-- The first declaration of each slot. -/
def firstOfSlot : List (HostType × Method) → List (HostType × Method) :=
  List.foldl (fun seen d =>
    if seen.any (·.2.signature.slot == d.2.signature.slot) then seen else seen ++ [d]) []

/-- The candidates of a class of this base and these interfaces. -/
def Candidate.all (base : HostType) (interfaces : List HostType) : List Candidate :=
  let declared := (base.ancestors interfaces).flatMap fun t => t.methods.map fun m => (t, m)
  ((firstOfSlot declared).filter fun d => d.2.modifiers.isOverridable).map fun d =>
    .ofMethod d.1 d.2

end ScriptClass
