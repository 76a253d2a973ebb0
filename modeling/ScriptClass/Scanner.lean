import ScriptClass.Signature

/-!
# Scanning descriptors

Reading types and method descriptors in place, by offsets into a text. Offsets count the bytes of
its UTF-8 form. The bytes themselves can be looked at anywhere, and are looked at one by one; a text
is cut at character boundaries only. What is cut out are the names of references, and characters for
messages. A scan that cuts inside a character comes to nothing at all, neither a value nor a fault.

What is scanned ends beyond its start (`Scanned`). The scan of a parameter list goes on where a
parameter ends, and so comes to an end.
-/

namespace ScriptClass

/-! ## Texts as bytes -/

namespace Text

/-- The bytes of the UTF-8 form of a character, each as the character of its code. -/
def octetsOf (c : Char) : List Char := (String.utf8EncodeChar c).map Char.ofUInt8

/-- The bytes of the UTF-8 form, each as the character of its code. -/
def octets (text : String) : List Char := text.toByteArray.data.toList.map Char.ofUInt8

/-- The offset stands between two characters, or at an end of the text. -/
def IsBoundary (text : String) (offset : Nat) : Prop := String.Pos.Raw.IsValid text ⟨offset⟩

instance (text : String) (offset : Nat) : Decidable (IsBoundary text offset) :=
  inferInstanceAs (Decidable (String.Pos.Raw.IsValid text ⟨offset⟩))

/-- The text between two offsets. There is none if one of them stands inside a character or beyond
the end, or if the second stands before the first. -/
def cut? (text : String) (start stop : Nat) : Option String :=
  if h : start ≤ stop ∧ IsBoundary text start ∧ IsBoundary text stop then
    some (text.extract (text.pos ⟨start⟩ h.2.1) (text.pos ⟨stop⟩ h.2.2))
  else none

/-- The text from an offset on. -/
def cutFrom? (text : String) (start : Nat) : Option String := cut? text start text.utf8ByteSize

/-- The offset of the first such character. -/
def offsetOf? (c : Char) (text : String) : Option Nat :=
  if c ∈ text.toList then some (String.ofList (text.toList.takeWhile (· != c))).utf8ByteSize
  else none

end Text

/-! ## Scans -/

/-- What a scan comes to: a value or a fault, or nothing where it cuts inside a character. -/
abbrev Scan := ExceptT DescriptorFault Option

/-- What was scanned from an offset on, and the offset just past it. -/
structure Scanned (α : Type) (start : Nat) where
  value : α
  stop : Nat
  lt : start < stop

namespace Descriptor

/-- Scans the reference at an offset, which is that of its letter. -/
def scanReference (text : String) (position : Nat) : Scan (Scanned Descriptor position) := do
  match Text.offsetOf? ';' (← Text.cutFrom? text (position + 1)) with
  | none => throw (.unterminatedReference position)
  | some length =>
    let name ← Text.cut? text (position + 1) (position + 1 + length)
    if name.isEmpty then throw (.emptyReferenceName position)
    else
      match name.toList.find? isReserved with
      | some c => throw (.invalidCharacter position c)
      | none => pure ⟨.reference name, position + 1 + length + 1, by omega⟩

/-- Scans a type that is not an array. -/
def scanBase (text : String) (position : Nat) : Scan (Scanned Descriptor position) :=
  match (Text.octets text)[position]? with
  | none => throw .unexpectedEnd
  | some 'L' => scanReference text position
  | some lead =>
    match Primitive.ofLetter? lead with
    | some kind => pure ⟨.primitive kind, position + 1, Nat.lt_succ_self position⟩
    | none => do
      throw (.invalidCharacter position ((← Text.cutFrom? text position).toList.headD '?'))

/-- Scans a type of so many dimensions, whose brackets stand at an offset. -/
def scanNested (text : String) (start dimensions : Nat) : Scan (Scanned Descriptor start) :=
  if maxDimensions < dimensions then throw .tooManyDimensions
  else do
    let base ← scanBase text (start + dimensions)
    if 0 < dimensions ∧ base.value.isVoid then throw .voidArrayElement
    else
      have := base.lt
      pure ⟨base.value.nest dimensions, base.stop, by omega⟩

/-- Scans the type at an offset. -/
def scanType (text : String) (start : Nat) : Scan (Scanned Descriptor start) :=
  scanNested text start (((Text.octets text).drop start).takeWhile (· == '[')).length

/-- Scans the type at an offset of a descriptor, which an error names. -/
def scanAt (text : String) (start : Nat) : Option (Except DescriptorError (Descriptor × Nat)) :=
  (scanType text start).run.map fun
    | .error fault => .error ⟨text, fault⟩
    | .ok scanned => .ok (scanned.value, scanned.stop)

end Descriptor

namespace Signature

/-- Scans parameter types up to the closing parenthesis and past it. -/
def scanParams (text : String) (position : Nat) : Scan (Scanned (List Descriptor) position) :=
  if h : position < (Text.octets text).length then
    if (Text.octets text)[position] = ')' then pure ⟨[], position + 1, Nat.lt_succ_self position⟩
    else do
      let param ← Descriptor.scanType text position
      if param.value.isVoid then throw (.voidParameter position)
      else do
        have := param.lt
        let params ← scanParams text param.stop
        pure ⟨param.value :: params.value, params.stop, Nat.lt_trans param.lt params.lt⟩
  else throw .unexpectedEnd
termination_by (Text.octets text).length - position

/-- Scans parameter types and return type of a whole method descriptor. -/
def scanDescriptor (text : String) : Scan (List Descriptor × Descriptor) :=
  match text.toList.head? with
  | none => throw .empty
  | some '(' => do
    let params ← scanParams text 1
    let returns ← Descriptor.scanType text params.stop
    if returns.stop = text.utf8ByteSize then pure (params.value, returns.value)
    else throw (.trailingCharacters returns.stop)
  | some _ => throw .missingParameterList

/-- A signature from a name and a method descriptor. -/
def scan (name descriptor : String) : Option (Except DescriptorError Signature) :=
  (scanDescriptor descriptor).run.map fun
    | .error fault => .error ⟨descriptor, fault⟩
    | .ok (params, returns) => .ok ⟨name, params, returns⟩

end Signature

end ScriptClass
