import ScriptClass.Hash.XXH64
import ScriptClass.Text.Diagnostics

/-!
# Hashes of names and signatures

A type hash identifies a type, a method slot or a member name. Each kind mixes
the digest of the name with a constant of its own, and a signature folds in its
parameters one by one, each under the marker of its place, so that their order
counts.

The definitions are over any digest of texts; `XXH64` is the one in use.
-/

namespace ScriptClass

/-- The hash of a type, a method slot or a member name. -/
structure TypeHash where
  value : UInt64
  deriving DecidableEq, Repr

namespace TypeHash

/-- The hash of nothing. -/
def empty : TypeHash := ⟨0⟩

def separator : UInt64 := 0x4bc94d6bd06053ad
def typeDomain : UInt64 := 0x2fac10b63a6cc57c
def signatureDomain : UInt64 := 0x7d3c8b4a92e15f6d
def memberDomain : UInt64 := 0x1a095090689d4647

/-- The markers of the first sixteen parameters. -/
def parameterMarkers : List UInt64 :=
  [0x9e3779b97f4a7c15, 0xbf58476d1ce4e5b9, 0x94d049bb133111eb, 0xd6e8feb86659fd93,
   0xe7037ed1a0b428db, 0xc6a4a7935bd1e995, 0x8648dbbc94d49b8d, 0xa2b48b2c69e0d657,
   0x7c3e9f2a5b8d1403, 0x5d8c7b4a3e9f2106, 0x3f1e9d8c7b5a4203, 0x1a2b3c4d5e6f7089,
   0x9f8e7d6c5b4a3210, 0x2468ace013579bdf, 0xfdb97531eca86420, 0x123456789abcdef0]

/-- The marker of a place; beyond the sixteenth, the first one plus the place. -/
def parameterMarker (place : Nat) : UInt64 :=
  parameterMarkers[place]?.getD (0x9e3779b97f4a7c15 + UInt64.ofNat place)

section Digest

variable (digest : String → UInt64)

def ofNameWith (name : String) : TypeHash := ⟨typeDomain ^^^ digest name⟩

def ofMemberWith (name : String) : TypeHash := ⟨memberDomain ^^^ digest name⟩

/-- Folds parameter hashes in, the first of them at `place`. -/
def foldParameters (place : Nat) (hash : UInt64) : List TypeHash → UInt64
  | [] => hash
  | p :: ps =>
    foldParameters (place + 1) (hash * separator + (parameterMarker place ^^^ p.value)) ps

def ofSignatureWith (name : String) (params : List TypeHash) : TypeHash :=
  ⟨foldParameters 0 (signatureDomain ^^^ digest name) params⟩

end Digest

/-- The hash of a qualified type name or of a descriptor. -/
def ofName : String → TypeHash := ofNameWith Hash.XXH64.ofString

/-- The hash of a member name. -/
def ofMember : String → TypeHash := ofMemberWith Hash.XXH64.ofString

/-- The hash of a method slot: name and parameters, without the return type. -/
def ofSignature : String → List TypeHash → TypeHash := ofSignatureWith Hash.XXH64.ofString

def isEmpty (h : TypeHash) : Bool := h.value == 0

def display (h : TypeHash) : String := "0x" ++ Text.hexText 16 h.value.toNat

def debug (h : TypeHash) : String := "TypeHash(" ++ h.display ++ ")"

end TypeHash

end ScriptClass
