import ScriptClass.Text.Diagnostics

/-!
# Modifiers

Access and inheritance modifiers of host types and of their members, as flags
and as the bits of a mask.
-/

namespace ScriptClass

/-- The modifiers of a type or a member. -/
structure Modifiers where
  isPublic : Bool := false
  isProtected : Bool := false
  isPrivate : Bool := false
  isStatic : Bool := false
  isFinal : Bool := false
  isAbstract : Bool := false
  isInterface : Bool := false
  isSynthetic : Bool := false
  deriving DecidableEq, Repr

namespace Modifiers

/-- Public, and nothing else. -/
def onlyPublic : Modifiers := { isPublic := true }

/-- What every interface starts with. -/
def ofInterface : Modifiers := { isPublic := true, isInterface := true, isAbstract := true }

/-- The flags in the order of their bits, lowest first. -/
def flags (m : Modifiers) : List Bool :=
  [m.isPublic, m.isProtected, m.isPrivate, m.isStatic, m.isFinal, m.isAbstract, m.isInterface,
   m.isSynthetic]

/-- The modifiers of a mask; bits beyond the eight are dropped. -/
def ofBits (bits : Nat) : Modifiers where
  isPublic := bits.testBit 0
  isProtected := bits.testBit 1
  isPrivate := bits.testBit 2
  isStatic := bits.testBit 3
  isFinal := bits.testBit 4
  isAbstract := bits.testBit 5
  isInterface := bits.testBit 6
  isSynthetic := bits.testBit 7

def bits (m : Modifiers) : Nat :=
  m.flags.foldr (fun flag n => 2 * n + flag.toNat) 0

/-- The modifiers of a mask in place of a type's own; an interface stays one. -/
def retyped (m : Modifiers) (bits : Nat) : Modifiers :=
  let new := ofBits bits
  { new with isInterface := m.isInterface || new.isInterface }

/-- A type that can be extended or implemented. -/
def isExtensible (m : Modifiers) : Bool := m.isPublic && !m.isFinal

/-- A method that can be overridden. -/
def isOverridable (m : Modifiers) : Bool := !(m.isFinal || m.isPrivate || m.isStatic)

/-- The visibility flags alone. -/
def visibility (m : Modifiers) : Modifiers :=
  { isPublic := m.isPublic, isProtected := m.isProtected, isPrivate := m.isPrivate }

/-- Without a visibility flag: visible within the package. -/
def withoutVisibility (m : Modifiers) : Modifiers :=
  { m with isPublic := false, isProtected := false, isPrivate := false }

/-- The words in source order, as in `public abstract`. -/
def display (m : Modifiers) : String :=
  " ".intercalate <| List.filterMap (fun (flag, word) => if flag then some word else none)
    [(m.isPublic, "public"), (m.isProtected, "protected"), (m.isPrivate, "private"),
     (m.isStatic, "static"), (m.isFinal, "final"), (m.isAbstract, "abstract"),
     (m.isSynthetic, "synthetic"), (m.isInterface, "interface")]

/-- The flags by name in the order of their bits. -/
def debug (m : Modifiers) : String :=
  let names := List.filterMap (fun (flag, word) => if flag then some word else none)
    (m.flags.zip ["PUBLIC", "PROTECTED", "PRIVATE", "STATIC", "FINAL", "ABSTRACT", "INTERFACE",
      "SYNTHETIC"])
  "Modifiers(" ++ (if names.isEmpty then "0x0" else " | ".intercalate names) ++ ")"

end Modifiers

end ScriptClass
