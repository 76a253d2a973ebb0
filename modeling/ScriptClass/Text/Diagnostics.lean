import ScriptClass.Text.CodePoints

/-!
# Texts of diagnostics

How diagnostics write a string or a character: between quotes, with the quote,
the backslash and the common controls after a backslash, and any other
character that is not shown by its number in hexadecimal.

Compound values are written as lists in brackets, entries in braces, and records
by field. A record that hides some of its fields ends in two dots.
-/

namespace ScriptClass.Text

/-! ## Quoted text -/

/-- One character between quotes of the kind `quote`. -/
def escape (quote : Char) (c : Char) : List Char :=
  if c = quote ∨ c = '\\' then ['\\', c]
  else if c = '\x00' then ['\\', '0']
  else if c = '\t' then ['\\', 't']
  else if c = '\r' then ['\\', 'r']
  else if c = '\n' then ['\\', 'n']
  else if isShown c then [c]
  else "\\u\x7b".toList ++ Nat.toDigits 16 c.toNat ++ ['\x7d']

/-- A string in double quotes. -/
def quoted (s : String) : String :=
  String.ofList ('"' :: s.toList.flatMap (escape '"') ++ ['"'])

/-- A character in single quotes. -/
def quotedChar (c : Char) : String :=
  String.ofList ('\'' :: escape '\'' c ++ ['\''])

/-! ## Layouts -/

/-- The text in braces. -/
def braced (s : String) : String := "\x7b" ++ s ++ "\x7d"

def listText (items : List String) : String := "[" ++ ", ".intercalate items ++ "]"

/-- `{key: value, ...}`. -/
def entriesText (entries : List (String × String)) : String :=
  braced (", ".intercalate (entries.map fun e => e.1 ++ ": " ++ e.2))

/-- `Name { part, part }`. -/
def partsText (name : String) (parts : List String) : String :=
  name ++ " " ++ braced (" " ++ ", ".intercalate parts ++ " ")

/-- `Name { field: value, ... }`. -/
def recordText (name : String) (fields : List (String × String)) : String :=
  partsText name (fields.map fun f => f.1 ++ ": " ++ f.2)

/-- A record with more fields than it shows: `Name { field: value, .. }`. -/
def openRecordText (name : String) (fields : List (String × String)) : String :=
  partsText name ((fields.map fun f => f.1 ++ ": " ++ f.2) ++ [".."])

def optionText : Option String → String
  | none => "None"
  | some s => "Some(" ++ s ++ ")"

/-- Lower-case hexadecimal digits of a number, padded with zeros to a width. -/
def hexText (width : Nat) (n : Nat) : String :=
  let digits := Nat.toDigits 16 n
  String.ofList (List.replicate (width - digits.length) '0' ++ digits)

end ScriptClass.Text
