import ScriptClass.Value.Basic

/-!
# Script code

The code of script functions. An expression is evaluated with a receiver and
arguments; a member function reaches a member of a generated class by name; an
inherited function reaches the host methods of one name.
-/

namespace ScriptClass

/-- Expressions of script code. -/
inductive Expr where
  | const (v : ScriptValue)
  /-- The argument at a place, undefined where there is none. -/
  | arg (place : Nat)
  | args
  | this
  /-- The depth of nested script calls. -/
  | depth
  /-- A property, undefined where there is none. -/
  | get (of : Expr) (name : String)
  | put (of : Expr) (name : String) (value : Expr)
  | call (of : Expr) (name : String) (args : List Expr)
  | apply (function this : Expr) (args : List Expr)
  /-- A virtual call of a host method. -/
  | invoke (of : Expr) (method : Signature) (args : List Expr)
  | throw (message : String)
  /-- The text of the error, if the body fails. -/
  | attempt (body : Expr)
  /-- The last value of a sequence. -/
  | seq (list : List Expr)
  | array (list : List Expr)
  /-- The wrapping sum of two integers, or the two texts joined. -/
  | add (a b : Expr)
  | lt (a b : Expr)
  | ite (condition yes no : Expr)
  | describe (of : Expr)
  /-- Advances a named counter and gives its new value. -/
  | count (name : String)

/-- What a script function runs. -/
inductive FunctionCode where
  | expression (body : Expr)
  /-- A member of a wrapper class by its label, which stands for `id`. An exact
  function runs just that member; another picks the first overload of the label
  that accepts the arguments. -/
  | member (wrapper : WrapperRef) (facet : Facet) (label : String) (id : MemberId)
      (exact : Bool)
  /-- The host methods of the label, one signature per slot. -/
  | inherited (className label : String) (signatures : List Signature)

mutual

/-- The values held by an expression. -/
def Expr.constants : Expr → List ScriptValue
  | .const v => [v]
  | .arg _ | .args | .this | .depth | .throw _ | .count _ => []
  | .get of _ => of.constants
  | .put of _ value => of.constants ++ value.constants
  | .call of _ args => of.constants ++ constantsOfAll args
  | .apply function receiver args =>
    function.constants ++ receiver.constants ++ constantsOfAll args
  | .invoke of _ args => of.constants ++ constantsOfAll args
  | .attempt body => body.constants
  | .seq list => constantsOfAll list
  | .array list => constantsOfAll list
  | .add a b => a.constants ++ b.constants
  | .lt a b => a.constants ++ b.constants
  | .ite condition yes no => condition.constants ++ yes.constants ++ no.constants
  | .describe of => of.constants

def constantsOfAll : List Expr → List ScriptValue
  | [] => []
  | e :: es => e.constants ++ constantsOfAll es

end

end ScriptClass
