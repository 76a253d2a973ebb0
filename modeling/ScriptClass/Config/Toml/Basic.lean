/-!
# TOML documents

The values of a TOML document and the tables that they are put into. A table
comes to be by its own header, on the way to another header, or by dotted keys,
and how it came to be decides what may still be added to it; nothing is defined
twice.
-/

namespace ScriptClass.Toml

/-- A value. Numbers that are not whole, dates and times only count as such. -/
inductive Value where
  | string (v : String)
  | integer (v : Int)
  | boolean (v : Bool)
  | float
  | date
  | array (items : List Value)
  | table

/-- How a table came to be. -/
inductive TableKind where
  /-- By a header of its own. -/
  | explicit
  /-- On the way to another header. -/
  | implicit
  /-- By a dotted key. -/
  | dotted
  deriving DecidableEq, Repr

/-- What a key of a table stands for. -/
inductive Item where
  | value (v : Value)
  | table (kind : TableKind) (entries : List (String × Item))
  /-- An array of tables, the newest first. -/
  | tables (list : List (List (String × Item)))

abbrev Entries := List (String × Item)

namespace Entries

/-- Sets the item of a key. -/
def set (key : String) (item : Item) : Entries → Entries
  | [] => [(key, item)]
  | e :: es => if e.1 = key then (key, item) :: es else e :: set key item es

/-- Puts a value under a key that is new to its table. -/
def putNew (v : Value) (key : String) (es : Entries) : Option Entries :=
  if (es.lookup key).isNone then some (set key (.value v) es) else none

/-- Puts a value under the rest of a dotted key, in a table that came to be in the
given way. The keys lead through any table without a header of its own and
through the newest of an array of tables, but only a table that dotted keys made
takes the value. -/
def putDotted (v : Value) (kind : TableKind) : List String → Entries → Option Entries
  | [], _ => none
  | [key], es => if kind = .dotted then putNew v key es else none
  | key :: path, es =>
    match es.lookup key with
    | none => (putDotted v .dotted path []).map fun inner => set key (.table .dotted inner) es
    | some (.table .explicit _) => none
    | some (.table kind inner) =>
      (putDotted v kind path inner).map fun inner => set key (.table kind inner) es
    | some (.tables (newest :: older)) =>
      (putDotted v .explicit path newest).map fun inner => set key (.tables (inner :: older)) es
    | _ => none

/-- Puts a value under a key, dotted or not, of the table that is open. -/
def putKey (v : Value) (path : List String) (es : Entries) : Option Entries :=
  match path with
  | [key] => putNew v key es
  | path => putDotted v .explicit path es

/-- Changes the table at the end of a path. An array of tables stands for its
newest, and missing tables are made on the way. -/
def descend (change : Entries → Option Entries) : List String → Entries → Option Entries
  | [], es => change es
  | key :: path, es =>
    match es.lookup key with
    | none => (descend change path []).map fun inner => set key (.table .implicit inner) es
    | some (.table kind inner) =>
      (descend change path inner).map fun inner => set key (.table kind inner) es
    | some (.tables (newest :: older)) =>
      (descend change path newest).map fun inner => set key (.tables (inner :: older)) es
    | _ => none

/-- Opens the table of a key by a header. -/
def openTable (key : String) (es : Entries) : Option Entries :=
  match es.lookup key with
  | none => some (set key (.table .explicit []) es)
  | some (.table .implicit inner) => some (set key (.table .explicit inner) es)
  | _ => none

/-- Opens a new table of an array of tables by a header. -/
def openElement (key : String) (es : Entries) : Option Entries :=
  match es.lookup key with
  | none => some (set key (.tables [[]]) es)
  | some (.tables list) => some (set key (.tables ([] :: list)) es)
  | _ => none

/-- Opens the table, or the element of an array of tables, of a header. -/
def openHeader (element : Bool) (path : List String) (es : Entries) : Option Entries :=
  match path.getLast? with
  | none => none
  | some key => descend (if element then openElement key else openTable key) path.dropLast es

end Entries

end ScriptClass.Toml
