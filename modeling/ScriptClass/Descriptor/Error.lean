/-!
# Faults of descriptors

Why a descriptor of a type or a method cannot be read. Positions count bytes of
the UTF-8 form from the start of the descriptor.
-/

namespace ScriptClass

/-- What is wrong with a descriptor. -/
inductive DescriptorFault where
  | empty
  /-- It ends in the middle of a type. -/
  | unexpectedEnd
  /-- A character that starts no type, or that no reference name may hold. -/
  | invalidCharacter (position : Nat) (char : Char)
  /-- A reference without its `;`. -/
  | unterminatedReference (position : Nat)
  /-- The reference `L;`. -/
  | emptyReferenceName (position : Nat)
  | voidArrayElement
  | voidParameter (position : Nat)
  | trailingCharacters (position : Nat)
  /-- A method descriptor that does not start with `(`. -/
  | missingParameterList
  /-- Arrays nested more than 255 deep. -/
  | tooManyDimensions
  deriving DecidableEq, Repr

/-- A descriptor and what is wrong with it. -/
structure DescriptorError where
  descriptor : String
  fault : DescriptorFault
  deriving DecidableEq, Repr

def DescriptorError.message (e : DescriptorError) : String :=
  let quote := "'" ++ e.descriptor ++ "'"
  match e.fault with
  | .empty => "empty descriptor"
  | .unexpectedEnd => s!"descriptor {quote} ends unexpectedly"
  | .invalidCharacter position char =>
    s!"invalid character '{char}' at {position} in descriptor {quote}"
  | .unterminatedReference position =>
    s!"unterminated reference type at {position} in descriptor {quote}"
  | .emptyReferenceName position =>
    s!"empty reference type name at {position} in descriptor {quote}"
  | .voidArrayElement => s!"void array element in descriptor {quote}"
  | .voidParameter position => s!"void parameter at {position} in descriptor {quote}"
  | .trailingCharacters position =>
    s!"trailing characters at {position} in descriptor {quote}"
  | .missingParameterList => s!"method descriptor {quote} has no parameter list"
  | .tooManyDimensions => s!"too many array dimensions in descriptor {quote}"

end ScriptClass
