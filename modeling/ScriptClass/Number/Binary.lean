import ScriptClass.Number.Format

/-!
# Floating numbers

`Double` and `Single` are numbers of the 64-bit and the 32-bit format, kept as
their bits. Equality of numbers is `numEq`: no NaN equals anything, and the two
zeros are equal. Structural equality of the bits is `=`.
-/

namespace ScriptClass.Number

/-- A number of the 64-bit format. -/
structure Double where
  bits : UInt64
  deriving DecidableEq, Repr

/-- A number of the 32-bit format. -/
structure Single where
  bits : UInt32
  deriving DecidableEq, Repr

/-- The place of a code in the order of numbers; `none` for a NaN. Both zeros
are at place zero. -/
def Format.rank? (f : Format) (code : Nat) : Option Int :=
  let magnitude := code % f.signPlace
  if f.infinityCode < magnitude then none
  else if f.signPlace ≤ code then some (-magnitude)
  else some magnitude

namespace Double

def datum (x : Double) : Datum := Format.double.decode x.bits.toNat

def ofCode (code : Nat) : Double := ⟨UInt64.ofNat code⟩

/-- The double nearest to an integer. -/
def ofInt (v : Int) : Double := ofCode (Format.double.ofInt v)

def isNaN (x : Double) : Bool := x.datum == .nan

def isFinite (x : Double) : Bool := x.datum.isFinite

def rank? (x : Double) : Option Int := Format.double.rank? x.bits.toNat

/-- Equality of numbers. -/
def numEq (x y : Double) : Bool :=
  match x.rank?, y.rank? with
  | some a, some b => a == b
  | _, _ => false

/-- Order of numbers; false when either is a NaN. -/
def numLt (x y : Double) : Bool :=
  match x.rank?, y.rank? with
  | some a, some b => a < b
  | _, _ => false

/-- The nearest single. -/
def toSingle (x : Double) : Single := ⟨UInt32.ofNat (Format.single.ofDatum x.datum)⟩

end Double

namespace Single

def datum (x : Single) : Datum := Format.single.decode x.bits.toNat

/-- The single nearest to an integer. -/
def ofInt (v : Int) : Single := ⟨UInt32.ofNat (Format.single.ofInt v)⟩

def rank? (x : Single) : Option Int := Format.single.rank? x.bits.toNat

/-- Equality of numbers. -/
def numEq (x y : Single) : Bool :=
  match x.rank?, y.rank? with
  | some a, some b => a == b
  | _, _ => false

/-- The same number as a double. -/
def toDouble (x : Single) : Double := .ofCode (Format.double.ofDatum x.datum)

end Single

end ScriptClass.Number
