import ScriptClass.Config.Toml.Basic
import ScriptClass.Number.Reading

/-!
# Scalars of TOML

Strings in their four forms, numbers, booleans, dates and times. Each reader
takes what it reads off the head of a character list.
-/

namespace ScriptClass.Toml

/-- A reader of the head of a text. -/
abbrev Reader (α : Type) := List Char → Option (α × List Char)

/-- A control character that no string or comment holds; the tab is none. -/
def isForbidden (c : Char) : Bool := (c.toNat < 0x20 && c != '\t') || c.toNat == 0x7f

def isSpace (c : Char) : Bool := c == ' ' || c == '\t'

def skipSpace (s : List Char) : List Char := s.dropWhile isSpace

/-- A line break. -/
def newline? : List Char → Option (List Char)
  | '\n' :: r => some r
  | '\r' :: '\n' :: r => some r
  | _ => none

/-! ## Strings -/

/-- The value of a hexadecimal digit. -/
def hexDigit? (c : Char) : Option Nat :=
  if '0' ≤ c ∧ c ≤ '9' then some (c.toNat - '0'.toNat)
  else if 'a' ≤ c ∧ c ≤ 'f' then some (c.toNat - 'a'.toNat + 10)
  else if 'A' ≤ c ∧ c ≤ 'F' then some (c.toNat - 'A'.toNat + 10)
  else none

/-- A character by its code point in `digits` hexadecimal digits. -/
def codePoint? (digits : Nat) (s : List Char) : Option Char := do
  let ds ← (s.take digits).mapM hexDigit?
  if ds.length < digits then none
  else
    let n := ds.foldl (fun n d => 16 * n + d) 0
    if n.isValidChar then some (Char.ofNat n) else none

/-- The character after a backslash. -/
def escaped? : Reader Char
  | 'b' :: r => some ('\x08', r)
  | 't' :: r => some ('\t', r)
  | 'n' :: r => some ('\n', r)
  | 'f' :: r => some ('\x0c', r)
  | 'r' :: r => some ('\r', r)
  | '"' :: r => some ('"', r)
  | '\\' :: r => some ('\\', r)
  | 'u' :: r => (codePoint? 4 r).map fun c => (c, r.drop 4)
  | 'U' :: r => (codePoint? 8 r).map fun c => (c, r.drop 8)
  | _ => none

/-- The rest of a string on one line, after its opening quote. -/
def basicString? : (fuel : Nat) → List Char → Reader String
  | 0, _, _ => none
  | fuel + 1, out, s =>
    match s with
    | '"' :: r => some (String.ofList out.reverse, r)
    | '\\' :: r => (escaped? r).bind fun (c, r) => basicString? fuel (c :: out) r
    | c :: r => if isForbidden c then none else basicString? fuel (c :: out) r
    | [] => none

/-- The rest of a string without escapes on one line, after its opening quote. -/
def literalString? (s : List Char) : Option (String × List Char) :=
  let text := s.takeWhile (· != '\'')
  match s.dropWhile (· != '\'') with
  | [] => none
  | _ :: r => if text.any isForbidden then none else some (String.ofList text, r)

/-- After a closing row of quotes up to two more belong to the string. -/
def closingQuotes (quote : Char) (out s : List Char) : String × List Char :=
  let extra := (s.takeWhile (· == quote)).length.min 2
  (String.ofList (out.reverse ++ List.replicate extra quote), s.drop extra)

/-- Skips blanks and line breaks. -/
def skipBlankLines : List Char → List Char
  | '\r' :: '\n' :: r => skipBlankLines r
  | c :: r => if isSpace c || c == '\n' then skipBlankLines r else c :: r
  | [] => []

/-- Skips blanks and line breaks, the first of which ends the line. -/
def skipContinuation? (s : List Char) : Option (List Char) :=
  (newline? (skipSpace s)).map skipBlankLines

/-- The rest of a string over several lines. -/
def multilineString? (quote : Char) : (fuel : Nat) → List Char → Reader String
  | 0, _, _ => none
  | fuel + 1, out, s =>
    match s with
    | [] => none
    | c :: r =>
      if c = quote ∧ r.take 2 = [quote, quote] then
        some (closingQuotes quote out (r.drop 2))
      else if c = '\\' ∧ quote = '"' then
        match skipContinuation? r with
        | some r => multilineString? quote fuel out r
        | none => (escaped? r).bind fun (c, r) => multilineString? quote fuel (c :: out) r
      else
        match newline? s with
        | some r => multilineString? quote fuel ('\n' :: out) r
        | none => if isForbidden c then none else multilineString? quote fuel (c :: out) r

/-- A string in any form. -/
def string? (s : List Char) : Option (String × List Char) :=
  let multiline (quote : Char) (r : List Char) :=
    multilineString? quote (r.length + 1) [] ((newline? r).getD r)
  match s with
  | '"' :: '"' :: '"' :: r => multiline '"' r
  | '\'' :: '\'' :: '\'' :: r => multiline '\'' r
  | '"' :: r => basicString? (r.length + 1) [] r
  | '\'' :: r => literalString? r
  | _ => none

/-! ## Numbers -/

/-- Digits with single underscores between them. -/
def digitRow? (isDigit : Char → Bool) (s : List Char) : Option (List Char) :=
  let rec go : List Char → Option (List Char)
    | [] => some []
    | '_' :: c :: r => if isDigit c then (go r).map (c :: ·) else none
    | c :: r => if isDigit c then (go r).map (c :: ·) else none
  match s with
  | c :: r => if isDigit c then (go r).map (c :: ·) else none
  | [] => none

def isDecimal (c : Char) : Bool := '0' ≤ c && c ≤ '9'

def rowValue (radix : Nat) (digits : List Char) : Nat :=
  digits.foldl (fun n c => radix * n + (hexDigit? c).getD 0) 0

/-- Digits of a whole part: no leading zero, unless it is all. -/
def wholePart? (s : List Char) : Option (List Char) := do
  let ds ← digitRow? isDecimal s
  if ds.length > 1 ∧ ds.head? = some '0' then none else some ds

/-- A whole number of 64 bits. -/
def bounded? (v : Int) : Option Value :=
  if Int64.minValue.toInt ≤ v ∧ v ≤ Int64.maxValue.toInt then some (.integer v) else none

def radixInteger? (radix : Nat) (isDigit : Char → Bool) (s : List Char) : Option Value := do
  bounded? (rowValue radix (← digitRow? isDigit s))

def unsign (s : List Char) : Bool × List Char :=
  match s with
  | '-' :: r => (true, r)
  | '+' :: r => (false, r)
  | r => (false, r)

/-- An exponent, after its letter. -/
def isExponent (s : List Char) : Bool := (digitRow? isDecimal (unsign s).2).isSome

/-- What follows the whole part of a number that is not whole. -/
def isFraction (s : List Char) : Bool :=
  let isLetter (c : Char) := c == 'e' || c == 'E'
  match s with
  | '.' :: r =>
    let digits := r.takeWhile fun c => !isLetter c
    (digitRow? isDecimal digits).isSome &&
      match r.dropWhile fun c => !isLetter c with
      | [] => true
      | _ :: e => isExponent e
  | c :: e => isLetter c && isExponent e
  | [] => false

/-- Whether a number that is not whole lies above every finite double. -/
def isTooLarge (s : List Char) : Bool :=
  match Number.readDouble? (s.filter (· != '_')) with
  | some x => x.datum == .infinite false
  | none => false

def decimal? (s : List Char) : Option Value :=
  let (negative, r) := unsign s
  let isPart (c : Char) := isDecimal c || c == '_'
  if r = "inf".toList ∨ r = "nan".toList then some .float
  else do
    let whole ← wholePart? (r.takeWhile isPart)
    match r.dropWhile isPart with
    | [] =>
      let n : Int := rowValue 10 whole
      bounded? (if negative then -n else n)
    | rest => if isFraction rest && !isTooLarge s then some .float else none

/-! ## Dates and times -/

/-- A row of exactly `count` digits within a range, and the rest. -/
def field? (count low high : Nat) (s : List Char) : Option (Nat × List Char) :=
  let ds := s.take count
  let n := rowValue 10 ds
  if ds.length = count ∧ ds.all isDecimal ∧ low ≤ n ∧ n ≤ high then some (n, s.drop count)
  else none

def expect? (c : Char) : List Char → Option (List Char)
  | d :: r => if c = d then some r else none
  | [] => none

def daysOf (year month : Nat) : Nat :=
  if month = 2 then
    if (year % 4 = 0 ∧ year % 100 ≠ 0) ∨ year % 400 = 0 then 29 else 28
  else if month = 4 ∨ month = 6 ∨ month = 9 ∨ month = 11 then 30 else 31

def day? (s : List Char) : Option (List Char) := do
  let (year, r) ← field? 4 0 9999 s
  let (month, r) ← field? 2 1 12 (← expect? '-' r)
  let (_, r) ← field? 2 1 (daysOf year month) (← expect? '-' r)
  some r

def clock? (s : List Char) : Option (List Char) := do
  let (_, r) ← field? 2 0 23 s
  let (_, r) ← field? 2 0 59 (← expect? ':' r)
  let (_, r) ← field? 2 0 60 (← expect? ':' r)
  match r with
  | '.' :: r => if (r.takeWhile isDecimal).isEmpty then none else some (r.dropWhile isDecimal)
  | r => some r

def isOffset (s : List Char) : Bool :=
  match s with
  | [] => true
  | ['Z'] => true
  | ['z'] => true
  | c :: r =>
    (c == '+' || c == '-') &&
      (do let (_, r) ← field? 2 0 23 r
          let (_, r) ← field? 2 0 59 (← expect? ':' r)
          some r) == some []

/-- A date, a time, or both with an offset from universal time. -/
def isDate (s : List Char) : Bool :=
  match day? s with
  | none => clock? s == some []
  | some [] => true
  | some (c :: r) =>
    (c == 'T' || c == 't' || c == ' ') &&
      match clock? r with
      | some r => isOffset r
      | none => false

/-! ## Bare words -/

def isWordChar (c : Char) : Bool :=
  c.isAlphanum || c == '+' || c == '-' || c == '_' || c == '.' || c == ':'

/-- The word at the head of a text; a date and a time may have a space between
them. -/
def word (s : List Char) : List Char × List Char :=
  let w := s.takeWhile isWordChar
  let r := s.dropWhile isWordChar
  match day? w, r with
  | some [], ' ' :: c :: _ =>
    if isDecimal c then
      (w ++ ' ' :: (r.drop 1).takeWhile isWordChar, (r.drop 1).dropWhile isWordChar)
    else (w, r)
  | _, _ => (w, r)

/-- The value of a bare word. -/
def wordValue? (w : List Char) : Option Value :=
  match w with
  | ['t', 'r', 'u', 'e'] => some (.boolean true)
  | ['f', 'a', 'l', 's', 'e'] => some (.boolean false)
  | '0' :: 'x' :: r => radixInteger? 16 (fun c => (hexDigit? c).isSome) r
  | '0' :: 'o' :: r => radixInteger? 8 (fun c => '0' ≤ c && c ≤ '7') r
  | '0' :: 'b' :: r => radixInteger? 2 (fun c => c == '0' || c == '1') r
  | w => if isDate w then some .date else decimal? w

end ScriptClass.Toml
