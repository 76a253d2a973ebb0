import ScriptClass.Code.Script
import ScriptClass.Code.Native
import ScriptClass.Generation.WrapperPlan

/-!
# Holdings

The things of a program that hold others or are held, and what a value, a piece
of code or a wrapper plan holds by itself. An array holds its members, a function
the constants of its code, or the wrapper class that it belongs to.
-/

namespace ScriptClass

/-- A thing that holds others or is held. -/
inductive Holding where
  | type (t : HostType)
  | wrapper (w : WrapperRef)
  | pair (p : Pair)
  | facet (f : StaticFacet)
  | literal (id : Nat)
  | function (id : Nat)

namespace Holding

/-- Tells things apart. -/
inductive Key where
  | type (id : Nat)
  | wrapper (id : Nat)
  | pair (id : Nat)
  | facet (id : Nat)
  | literal (id : Nat)
  | function (id : Nat)
  deriving DecidableEq, Repr

def key : Holding → Key
  | .type t => .type t.id
  | .wrapper w => .wrapper w.id
  | .pair p => .pair p.id
  | .facet f => .facet f.id
  | .literal id => .literal id
  | .function id => .function id

end Holding

def HostObject.holding : HostObject → Holding
  | .plain _ t => .type t
  | .pair p => .pair p

def ScriptObject.holding : ScriptObject → Holding
  | .plain id => .literal id
  | .pair p => .pair p
  | .facet f => .facet f

mutual

/-- What a host value holds. -/
def HostValue.holdings : HostValue → List Holding
  | .object o => [o.holding]
  | .array _ items => holdingsOfHost items
  | _ => []

def holdingsOfHost : List HostValue → List Holding
  | [] => []
  | v :: vs => v.holdings ++ holdingsOfHost vs

end

mutual

/-- What a script value holds. -/
def ScriptValue.holdings : ScriptValue → List Holding
  | .object o => [o.holding]
  | .native o => [o.holding]
  | .function f => [.function f.id]
  | .array items => holdingsOfScript items
  | _ => []

def holdingsOfScript : List ScriptValue → List Holding
  | [] => []
  | v :: vs => v.holdings ++ holdingsOfScript vs

end

def Entries.holdings (entries : Entries) : List Holding :=
  entries.flatMap fun e => e.2.holdings

def NativeCode.holdings : NativeCode → List Holding
  | .const v => v.holdings
  | .invoke _ _ values => holdingsOfHost values
  | _ => []

def FunctionCode.holdings : FunctionCode → List Holding
  | .expression body => holdingsOfScript body.constants
  | .member w .. => [.wrapper w]
  | .inherited .. => []

def WrapperPlan.holdings (p : WrapperPlan) : List Holding :=
  (p.instances ++ p.statics ++ p.constructor.toList).map (fun m => .function m.function.id) ++
    p.prototype.holdings ++ p.staticProperties.holdings

end ScriptClass
