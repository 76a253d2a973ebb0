import ScriptClass.Signature
import ScriptClass.Text.CodePoints

/-!
# Member keys

A script member is written under a key: a bare name such as `run`, or a name
with a method descriptor such as `foo(I)I`. A bare name is untyped; a descriptor
lets one name carry several host overloads.
-/

namespace ScriptClass

/-- A member name and the signature that its key carries, if any. -/
structure MemberKey where
  name : String
  signature : Option Signature
  deriving DecidableEq, Repr

/-- Why a text is not a member key. -/
inductive KeyFault where
  | emptyName
  | invalidCharacter (char : Char)
  | descriptor (error : DescriptorError)
  deriving DecidableEq, Repr

def KeyFault.message : KeyFault → String
  | .emptyName => "empty member name"
  | .invalidCharacter char => s!"invalid character '{char}' in member name"
  | .descriptor error => error.message

namespace MemberKey

def isTyped (k : MemberKey) : Bool := k.signature.isSome

/-- Whether the key can stand in for a host method: a typed key by its exact
signature, an untyped key by its name. -/
def isFor (k : MemberKey) (s : Signature) : Bool :=
  match k.signature with
  | some own => own = s
  | none => k.name == s.name

/-- The key as written. -/
def display (k : MemberKey) : String :=
  match k.signature with
  | some s => s.display
  | none => k.name

/-- The characters that no member name holds, besides the opening parenthesis
that ends it. -/
def isInvalid (c : Char) : Bool :=
  Text.isBlank c || c == ')' || c == ';' || c == '[' || c == '/'

/-- Reads a key. The name ends at the first opening parenthesis. -/
def parse (text : String) : Except KeyFault MemberKey :=
  let name := text.toList.takeWhile (· != '(')
  let rest := text.toList.dropWhile (· != '(')
  if name.isEmpty then .error .emptyName
  else
    match name.find? isInvalid with
    | some c => .error (.invalidCharacter c)
    | none =>
      if rest.isEmpty then .ok ⟨String.ofList name, none⟩
      else
        match Signature.parse (String.ofList name) (String.ofList rest) with
        | .error e => .error (.descriptor e)
        | .ok s => .ok ⟨s.name, some s⟩

end MemberKey

end ScriptClass
