import ScriptClass.Override.Binding

/-!
# The host side of a generated class

A class plan describes the generated host class: it extends the base type,
implements the requested interfaces, carries one field for its wrapper and one
forwarding method per bound override. It becomes a host type when it is loaded.
-/

namespace ScriptClass

/-- A method of a generated class. -/
structure OverridePlan where
  signature : Signature
  modifiers : Modifiers
  /-- The script member that the method forwards to, with its key. -/
  member : MemberId
  key : String
  /-- The name of the type whose declaration it overrides. -/
  overrides : String
  deriving DecidableEq, Repr

/-- The host side of a generated class, before it is loaded. -/
structure ClassPlan where
  name : String
  modifiers : Modifiers
  superclass : HostType
  interfaces : List HostType
  fields : List Field
  methods : List OverridePlan

/-- The name of the field for the wrapper. -/
def wrapperField : String := "wrapper"

/-- What follows the class name in the name of its wrapper. -/
def wrapperSuffix : String := "$Wrapper"

/-- The override of a bound candidate: protected where the candidate is, and
public otherwise. -/
def OverridePlan.ofBound (b : Binding) : OverridePlan where
  signature := b.candidate.signature
  modifiers :=
    if b.candidate.modifiers.isProtected then { isProtected := true } else .onlyPublic
  member := b.id
  key := b.key
  overrides := b.candidate.declaring.name

namespace ClassPlan

/-- The plan of a class of this name, base and interfaces. -/
def ofOverrides (name : String) (base : HostType) (interfaces : List HostType)
    (r : Overrides) : ClassPlan where
  name
  modifiers := { isPublic := true, isSynthetic := true, isAbstract := r.isAbstract }
  superclass := base
  interfaces
  fields := [⟨wrapperField, .reference (name ++ wrapperSuffix),
    { isPrivate := true, isFinal := true }⟩]
  methods := r.bound.map .ofBound

def isAbstract (p : ClassPlan) : Bool := p.modifiers.isAbstract

/-- The method that overrides a signature. -/
def method? (p : ClassPlan) (s : Signature) : Option OverridePlan :=
  p.methods.find? fun m => m.signature = s

/-- The host type of the plan, under a number and with the wrapper that its
constructor makes objects of. -/
def toHostType (p : ClassPlan) (id : Nat) (wrapper : WrapperRef) : HostType :=
  .mk
    { id
      name := p.name
      modifiers := p.modifiers
      fields := p.fields
      methods := p.methods.map fun m => ⟨m.signature, m.modifiers, .forward m.member m.key⟩
      instantiation := some (.generated wrapper) }
    (some p.superclass) p.interfaces

/-- The listing, one line a field and a method. -/
def listing (p : ClassPlan) : String :=
  let implements :=
    if p.interfaces.isEmpty then ""
    else " implements " ++ ", ".intercalate (p.interfaces.map HostType.name)
  let fields := p.fields.map fun f =>
    s!"    {f.modifiers.display} {f.type.text} {f.name};\n"
  let gap := if p.fields.isEmpty || p.methods.isEmpty then "" else "\n"
  let methods := p.methods.map fun m =>
    let target := MethodCode.forwardText m.member m.key
    s!"    {m.modifiers.display} {m.signature.display} -> {target}    // overrides {m.overrides}\n"
  s!"{p.modifiers.display} class {p.name} extends {p.superclass.name}" ++ implements ++
    " \x7b\n" ++ String.join fields ++ gap ++ String.join methods ++ "\x7d\n"

end ClassPlan

end ScriptClass
