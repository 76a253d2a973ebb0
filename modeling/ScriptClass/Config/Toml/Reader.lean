import ScriptClass.Config.Toml.Scalar

/-!
# Reading TOML documents

A document is a row of lines: blank, a comment, a header or a key with its
value. `readDocument?` gives the entries of the root table, or nothing for a text
that is no document. Keys of many parts and values nested deep are refused.
-/

namespace ScriptClass.Toml

/-- Keys have fewer parts than this, and arrays and inline tables nest less
deep. -/
def depthLimit : Nat := 80

def isBareChar (c : Char) : Bool := c.isAlphanum || c == '_' || c == '-'

/-- One part of a key: a bare word, or a string on one line. -/
def keyPart? (s : List Char) : Option (String × List Char) :=
  match s with
  | '"' :: r => basicString? (r.length + 1) [] r
  | '\'' :: r => literalString? r
  | s =>
    let w := s.takeWhile isBareChar
    if w.isEmpty then none else some (String.ofList w, s.dropWhile isBareChar)

/-- The parts of a key, at most `count`, parted by dots and with blanks around. -/
def keyParts? : (count : Nat) → Reader (List String)
  | 0, _ => none
  | count + 1, s => do
    let (part, r) ← keyPart? (skipSpace s)
    match skipSpace r with
    | '.' :: r => (keyParts? count r).map fun (parts, r) => (part :: parts, r)
    | r => some ([part], r)

/-- A key. -/
def key? : Reader (List String) := keyParts? (depthLimit - 1)

/-- Skips a comment up to the end of its line. -/
def skipComment? (s : List Char) : Option (List Char) :=
  match s with
  | '#' :: r =>
    let text := r.takeWhile fun c => c != '\n' && c != '\r'
    if text.any isForbidden then none
    else some (r.dropWhile fun c => c != '\n' && c != '\r')
  | s => some s

/-- Skips blanks, line breaks and comments. -/
def skipLines? : (fuel : Nat) → List Char → Option (List Char)
  | 0, _ => none
  | fuel + 1, s =>
    match skipSpace s with
    | [] => some []
    | '#' :: r => (skipComment? ('#' :: r)).bind (skipLines? fuel)
    | r =>
      match newline? r with
      | some r => skipLines? fuel r
      | none => some r

mutual

/-- A value within so many arrays and inline tables. -/
def value? (fuel : Nat) (depth : Nat) (s : List Char) : Option (Value × List Char) :=
  match fuel with
  | 0 => none
  | fuel + 1 =>
    match s with
    | '[' :: r =>
      if depth + 1 < depthLimit then
        (arrayItems? fuel (depth + 1) [] r).map fun (vs, r) => (.array vs, r)
      else none
    | '\x7b' :: r =>
      if depth + 1 < depthLimit then
        match skipSpace r with
        | '\x7d' :: r => some (.table, r)
        | r => (inlinePairs? fuel (depth + 1) [] r).map fun (_, r) => (.table, r)
      else none
    | '"' :: _ => (string? s).map fun (v, r) => (.string v, r)
    | '\'' :: _ => (string? s).map fun (v, r) => (.string v, r)
    | s =>
      let (w, r) := word s
      (wordValue? w).map fun v => (v, r)

/-- The items of an array up to its closing bracket. -/
def arrayItems? (fuel : Nat) (depth : Nat) (out : List Value) (s : List Char) :
    Option (List Value × List Char) :=
  match fuel with
  | 0 => none
  | fuel + 1 =>
    match skipLines? (s.length + 1) s with
    | none => none
    | some (']' :: r) => some (out.reverse, r)
    | some r =>
      match value? fuel depth r with
      | none => none
      | some (v, r) =>
        match skipLines? (r.length + 1) r with
        | some (',' :: r) => arrayItems? fuel depth (v :: out) r
        | some (']' :: r) => some ((v :: out).reverse, r)
        | _ => none

/-- The pairs of an inline table up to its closing brace. -/
def inlinePairs? (fuel : Nat) (depth : Nat) (es : Entries) (s : List Char) :
    Option (Entries × List Char) :=
  match fuel with
  | 0 => none
  | fuel + 1 =>
    match key? s with
    | some (path, '=' :: r) =>
      match value? fuel depth (skipSpace r) with
      | none => none
      | some (v, r) =>
        match Entries.putKey v path es, skipSpace r with
        | some es, ',' :: r => inlinePairs? fuel depth es r
        | some es, '\x7d' :: r => some (es, r)
        | _, _ => none
    | _ => none

end

/-- The end of a line: blanks, a comment, and a line break or the end. -/
def endLine? (s : List Char) : Option (List Char) := do
  match ← skipComment? (skipSpace s) with
  | [] => some []
  | r => newline? r

/-- The path of a header after its brackets, up to the closing ones. -/
def header? (element : Bool) (s : List Char) : Option (List String × List Char) := do
  let (path, r) ← key? s
  match element, r with
  | true, ']' :: ']' :: r => some (path, r)
  | false, ']' :: r => some (path, r)
  | _, _ => none

/-- The lines of a document; `table` is the path of the last header. -/
def lines? : (fuel : Nat) → (table : List String) → Entries → List Char → Option Entries
  | 0, _, _, _ => none
  | fuel + 1, table, es, s =>
    match skipLines? (s.length + 1) s with
    | none => none
    | some [] => some es
    | some ('[' :: r) => do
      let element := r.head? = some '['
      let (path, r) ← header? element (if element then r.drop 1 else r)
      let es ← Entries.openHeader element path es
      lines? fuel path es (← endLine? r)
    | some r => do
      match ← key? r with
      | (path, '=' :: r) =>
        let (v, r) ← value? (r.length + 1) 0 (skipSpace r)
        let es ← Entries.descend (Entries.putKey v path) table es
        lines? fuel table es (← endLine? r)
      | _ => none

/-- The entries of a document's root table. A byte order mark may precede it. -/
def readDocument? (text : String) : Option Entries :=
  let s :=
    match text.toList with
    | '\ufeff' :: r => r
    | s => s
  lines? (s.length + 1) [] [] s

end ScriptClass.Toml
