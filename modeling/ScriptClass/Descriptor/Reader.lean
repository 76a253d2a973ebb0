import ScriptClass.Descriptor.Basic
import ScriptClass.Descriptor.Error

/-!
# Reading descriptors

`readType` reads one type at the head of a character list and returns what
follows it; it never looks past the end of that type. `Descriptor.parse` reads
a whole text, and `Descriptor.parseAt` reads the type at a byte offset.

* `readType_length`: what follows is shorter than what was read.
-/

namespace ScriptClass.Descriptor

/-- The number of bytes of the UTF-8 form. -/
def byteLength : List Char → Nat
  | [] => 0
  | c :: cs => c.utf8Size + byteLength cs

/-- Reads a type that is not an array. -/
def readBase (position : Nat) : List Char → Except DescriptorFault (Descriptor × List Char)
  | [] => .error .unexpectedEnd
  | 'L' :: rest =>
    let name := rest.takeWhile (· != ';')
    match rest.dropWhile (· != ';') with
    | [] => .error (.unterminatedReference position)
    | _ :: after =>
      if name.isEmpty then .error (.emptyReferenceName position)
      else
        match name.find? isReserved with
        | some c => .error (.invalidCharacter position c)
        | none => .ok (.reference (String.ofList name), after)
  | c :: rest =>
    match Primitive.ofLetter? c with
    | some kind => .ok (.primitive kind, rest)
    | none => .error (.invalidCharacter position c)

/-- Reads one type that starts at byte `position`. -/
def readType (position : Nat) (cs : List Char) :
    Except DescriptorFault (Descriptor × List Char) :=
  let dimensions := (cs.takeWhile (· == '[')).length
  if maxDimensions < dimensions then .error .tooManyDimensions
  else
    match readBase (position + dimensions) (cs.dropWhile (· == '[')) with
    | .error fault => .error fault
    | .ok (base, rest) =>
      if 0 < dimensions ∧ base.isVoid then .error .voidArrayElement
      else .ok (base.nest dimensions, rest)

/-- Reads a complete descriptor. -/
def parse (text : String) : Except DescriptorError Descriptor :=
  let cs := text.toList
  let fail {α} (fault : DescriptorFault) : Except DescriptorError α := .error ⟨text, fault⟩
  if cs.isEmpty then fail .empty
  else
    match readType 0 cs with
    | .error fault => fail fault
    | .ok (t, []) => .ok t
    | .ok (_, rest) => fail (.trailingCharacters (byteLength cs - byteLength rest))

/-- The characters from a byte offset on; past the end there are none. -/
def dropBytes : Nat → List Char → List Char
  | 0, cs => cs
  | _, [] => []
  | n + 1, c :: cs => dropBytes (n + 1 - c.utf8Size) cs

/-- Reads the type at a byte offset, which stands between two characters, and
returns it with the offset just past it. -/
def parseAt (text : String) (start : Nat) : Except DescriptorError (Descriptor × Nat) :=
  let cs := dropBytes start text.toList
  match readType start cs with
  | .error fault => .error ⟨text, fault⟩
  | .ok (t, rest) => .ok (t, start + (byteLength cs - byteLength rest))

theorem readBase_length {position : Nat} {cs rest : List Char} {t : Descriptor}
    (h : readBase position cs = .ok (t, rest)) : rest.length < cs.length := by
  unfold readBase at h
  split at h
  · simp at h
  · rename_i tail
    have drop := (List.dropWhile_sublist (· != ';') (l := tail)).length_le
    simp only at h
    split at h
    · simp at h
    · rename_i c after heq
      rw [heq] at drop
      split at h
      · simp at h
      · split at h
        · simp at h
        · simp only [Except.ok.injEq, Prod.mk.injEq] at h
          obtain ⟨_, rfl⟩ := h
          simp only [List.length_cons] at drop ⊢
          omega
  · split at h
    · simp only [Except.ok.injEq, Prod.mk.injEq] at h
      obtain ⟨_, rfl⟩ := h
      simp
    · simp at h

theorem readType_length {position : Nat} {cs rest : List Char} {t : Descriptor}
    (h : readType position cs = .ok (t, rest)) : rest.length < cs.length := by
  unfold readType at h
  have drop := (List.dropWhile_sublist (· == '[') (l := cs)).length_le
  simp only at h
  split at h
  · simp at h
  · split at h
    · simp at h
    · rename_i base after heq
      have shorter := readBase_length heq
      split at h
      · simp at h
      · simp only [Except.ok.injEq, Prod.mk.injEq] at h
        obtain ⟨_, rfl⟩ := h
        omega

end ScriptClass.Descriptor
