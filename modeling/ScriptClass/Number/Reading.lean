import ScriptClass.Number.Binary

/-!
# Reading numbers

Decimal integers and decimal fractions in text, with no blanks around them.

An integer is an optional sign and at least one digit. A fraction is an
optional sign, then `inf`, `infinity` or `nan` in any case, or digits with at
most one point, at least one digit, and an optional exponent; it reads as the
nearest double.
-/

namespace ScriptClass.Number

/-- A decimal digit's value. -/
def digit? (c : Char) : Option Nat :=
  if '0' ≤ c ∧ c ≤ '9' then some (c.toNat - '0'.toNat) else none

/-- The leading digits and the rest. -/
def spanDigits (s : List Char) : List Char × List Char :=
  s.span fun c => (digit? c).isSome

/-- The value of a row of digits. -/
def digitsValue (s : List Char) : Nat :=
  s.foldl (fun n c => 10 * n + (digit? c).getD 0) 0

/-- An optional sign, and the rest. -/
def splitSign : List Char → Bool × List Char
  | '-' :: r => (true, r)
  | '+' :: r => (false, r)
  | r => (false, r)

/-- A whole text as an integer. -/
def readInt? (s : List Char) : Option Int :=
  let (negative, r) := splitSign s
  match spanDigits r with
  | ([], _) => none
  | (ds, []) => some (if negative then -digitsValue ds else digitsValue ds)
  | _ => none

/-- A whole text as an integer of 64 bits. -/
def readInt64? (s : List Char) : Option Int64 :=
  match readInt? s with
  | some v =>
    if Int64.minValue.toInt ≤ v ∧ v ≤ Int64.maxValue.toInt then some (Int64.ofInt v) else none
  | none => none

/-- An exponent part up to the end of the text; no exponent is zero. -/
def readExponent? : List Char → Option Int
  | [] => some 0
  | c :: r => if c = 'e' ∨ c = 'E' then readInt? r else none

/-- The double nearest to `± digits · 10 ^ exponent`. Beyond four hundred places
on either side the answer is infinity or zero, whatever the digits. -/
def Double.ofDecimal (negative : Bool) (digits : Nat) (exponent : Int) : Double :=
  let place := exponent + (if digits = 0 then 0 else (Nat.toDigits 10 digits).length : Nat)
  .ofCode <|
    if digits = 0 ∨ place < -400 then Format.double.withSign negative 0
    else if 400 < place then Format.double.withSign negative Format.double.infinityCode
    else Format.double.round negative (digits * tenTo exponent.toNat) (tenTo (-exponent).toNat)

/-- An unsigned text as a fraction of the given sign. -/
def readMagnitude? (negative : Bool) (s : List Char) : Option Double :=
  let word := s.map Char.toLower
  if word = ['n', 'a', 'n'] then some (.ofCode Format.double.nanCode)
  else if word = ['i', 'n', 'f'] ∨ word = ['i', 'n', 'f', 'i', 'n', 'i', 't', 'y'] then
    some (.ofCode (Format.double.withSign negative Format.double.infinityCode))
  else
    let (whole, r) := spanDigits s
    let (fraction, r) :=
      match r with
      | '.' :: r => spanDigits r
      | r => ([], r)
    if whole.isEmpty && fraction.isEmpty then none
    else (readExponent? r).map fun e =>
      .ofDecimal negative (digitsValue (whole ++ fraction)) (e - fraction.length)

/-- A whole text as a fraction. -/
def readDouble? (s : List Char) : Option Double :=
  let (negative, r) := splitSign s
  readMagnitude? negative r

end ScriptClass.Number
