import ScriptClass.Descriptor.Reader
import ScriptClass.Hash.TypeHash

/-!
# Method signatures

A method's name, parameter types and return type, read from a name and a method
descriptor such as `(ILhost/String;)Z`.

Two signatures share a slot when their names and parameters hash alike; the
return type does not count. They match exactly when they are equal.
-/

namespace ScriptClass

/-- A method's name, parameter types and return type. -/
structure Signature where
  name : String
  params : List Descriptor
  returns : Descriptor
  deriving DecidableEq, Repr

/-- The hash of a type's descriptor. -/
def Descriptor.hash (t : Descriptor) : TypeHash := .ofName t.text

namespace Signature

/-- The method descriptor as characters. -/
def descriptorChars (s : Signature) : List Char :=
  '(' :: s.params.flatMap Descriptor.chars ++ ')' :: s.returns.chars

/-- The method descriptor. -/
def descriptor (s : Signature) : String := String.ofList s.descriptorChars

def arity (s : Signature) : Nat := s.params.length

/-- The hash of the slot that the method fills. -/
def slot (s : Signature) : TypeHash := .ofSignature s.name (s.params.map Descriptor.hash)

/-- Name and descriptor, as in `foo(I)I`. -/
def display (s : Signature) : String := s.name ++ s.descriptor

/-- Reads parameter types up to the closing parenthesis and returns them with
the rest. -/
def readParams (position : Nat) (cs : List Char) :
    Except DescriptorFault (List Descriptor × List Char) :=
  match cs with
  | [] => .error .unexpectedEnd
  | ')' :: rest => .ok ([], rest)
  | c :: tail =>
    match h : Descriptor.readType position (c :: tail) with
    | .error fault => .error fault
    | .ok (t, rest) =>
      if t.isVoid then .error (.voidParameter position)
      else
        have := Descriptor.readType_length h
        let next := position + (Descriptor.byteLength (c :: tail) - Descriptor.byteLength rest)
        match readParams next rest with
        | .error fault => .error fault
        | .ok (ts, rest) => .ok (t :: ts, rest)
termination_by cs.length
decreasing_by assumption

/-- Reads parameter types and return type of a whole method descriptor. -/
def readDescriptor (cs : List Char) :
    Except DescriptorFault (List Descriptor × Descriptor) :=
  let place (rest : List Char) := Descriptor.byteLength cs - Descriptor.byteLength rest
  match cs with
  | [] => .error .empty
  | '(' :: tail =>
    match readParams 1 tail with
    | .error fault => .error fault
    | .ok (params, rest) =>
      match Descriptor.readType (place rest) rest with
      | .error fault => .error fault
      | .ok (returns, []) => .ok (params, returns)
      | .ok (_, rest) => .error (.trailingCharacters (place rest))
  | _ => .error .missingParameterList

/-- A signature from a name and a method descriptor. -/
def parse (name descriptor : String) : Except DescriptorError Signature :=
  match readDescriptor descriptor.toList with
  | .error fault => .error ⟨descriptor, fault⟩
  | .ok (params, returns) => .ok ⟨name, params, returns⟩

end Signature

end ScriptClass
