import ScriptClass.Text.Diagnostics

/-!
# Type descriptors

A host type as a descriptor names it: a primitive, a class or interface by its
qualified name, or an array. The compact form is one letter for a primitive,
`Lname;` for a reference and `[` before the element type for an array.

`WellFormed` says which descriptors have a compact form that can be read back:
reference names are not empty and free of `( ) [ . ;`, no array holds `void`,
and arrays nest at most 255 deep.
-/

namespace ScriptClass

/-- The primitive types, and `void` for methods that return nothing. -/
inductive Primitive where
  | void | bool | byte | char | short | int | long | float | double
  deriving DecidableEq, Repr

namespace Primitive

/-- The letter of a primitive in the compact form. -/
def letter : Primitive → Char
  | void => 'V' | bool => 'Z' | byte => 'B' | char => 'C' | short => 'S'
  | int => 'I' | long => 'J' | float => 'F' | double => 'D'

def ofLetter? : Char → Option Primitive
  | 'V' => some void | 'Z' => some bool | 'B' => some byte | 'C' => some char
  | 'S' => some short | 'I' => some int | 'J' => some long | 'F' => some float
  | 'D' => some double | _ => none

def name : Primitive → String
  | void => "void" | bool => "bool" | byte => "byte" | char => "char" | short => "short"
  | int => "int" | long => "long" | float => "float" | double => "double"

/-- The name in diagnostics. -/
def debug : Primitive → String
  | void => "Void" | bool => "Bool" | byte => "Byte" | char => "Char" | short => "Short"
  | int => "Int" | long => "Long" | float => "Float" | double => "Double"

def isIntegral : Primitive → Bool
  | byte | short | int | long => true
  | _ => false

def isFloating : Primitive → Bool
  | float | double => true
  | _ => false

theorem ofLetter?_letter (p : Primitive) : ofLetter? p.letter = some p := by
  cases p <;> rfl

theorem letter_of_ofLetter? {c : Char} {p : Primitive} (h : ofLetter? c = some p) :
    p.letter = c := by
  unfold ofLetter? at h
  split at h <;> simp_all [letter] <;> subst h <;> rfl

end Primitive

/-- A host type as named by a descriptor. -/
inductive Descriptor where
  | primitive (kind : Primitive)
  | reference (name : String)
  | array (element : Descriptor)
  deriving DecidableEq, Repr

/-- The qualified name of the root class. -/
def objectName : String := "host/Object"

/-- The qualified name of the string class. -/
def stringName : String := "host/String"

namespace Descriptor

/-- The root class. -/
def object : Descriptor := .reference objectName

/-- The string class. -/
def string : Descriptor := .reference stringName

def isVoid (t : Descriptor) : Bool := t == .primitive .void

/-- A primitive other than `void`. -/
def isPrimitive : Descriptor → Bool
  | .primitive kind => kind != .void
  | _ => false

/-- A type whose values may be null. -/
def isReference : Descriptor → Bool
  | .primitive _ => false
  | _ => true

def primitive? : Descriptor → Option Primitive
  | .primitive kind => some kind
  | _ => none

def referenceName? : Descriptor → Option String
  | .reference name => some name
  | _ => none

def isObject (t : Descriptor) : Bool := t.referenceName? == some objectName

def isString (t : Descriptor) : Bool := t.referenceName? == some stringName

/-- The compact form as characters. -/
def chars : Descriptor → List Char
  | .primitive kind => [kind.letter]
  | .reference name => 'L' :: name.toList ++ [';']
  | .array element => '[' :: element.chars

/-- The compact form, such as `[Lhost/String;`. -/
def text (t : Descriptor) : String := String.ofList t.chars

/-- The form in messages, such as `host/String[]`. -/
def display : Descriptor → String
  | .primitive kind => kind.name
  | .reference name => name
  | .array element => element.display ++ "[]"

/-- The form in diagnostics, by constructor. -/
def debug : Descriptor → String
  | .primitive kind => "Primitive(" ++ kind.debug ++ ")"
  | .reference name => "Reference(" ++ Text.quoted name ++ ")"
  | .array element => "Array(" ++ element.debug ++ ")"

/-- An array of the element type, nested `n` deep. -/
def nest (n : Nat) (t : Descriptor) : Descriptor :=
  match n with
  | 0 => t
  | n + 1 => .array (nest n t)

/-- The deepest nesting of arrays that a descriptor may have. -/
def maxDimensions : Nat := 255

def dimensions : Descriptor → Nat
  | .array element => element.dimensions + 1
  | _ => 0

/-- The element type below all arrays. -/
def base : Descriptor → Descriptor
  | .array element => element.base
  | t => t

/-- The characters that no reference name holds. -/
def isReserved (c : Char) : Bool :=
  c == '(' || c == ')' || c == '[' || c == '.' || c == ';'

/-- A reference name that can be written and read back. -/
def ValidName (name : String) : Prop :=
  name.toList ≠ [] ∧ ∀ c ∈ name.toList, isReserved c = false

instance (name : String) : Decidable (ValidName name) :=
  inferInstanceAs (Decidable (_ ∧ _))

/-- A descriptor with a compact form that can be read back. -/
def WellFormed (t : Descriptor) : Prop :=
  t.dimensions ≤ maxDimensions ∧ (0 < t.dimensions → t.base ≠ .primitive .void) ∧
    ∀ name, t.base = .reference name → ValidName name

end Descriptor

end ScriptClass
