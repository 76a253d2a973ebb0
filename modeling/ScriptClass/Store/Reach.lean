import ScriptClass.Store.Basic

/-!
# What is held

A thing is held by another that it can only exist with: a type holds its
superclass and interfaces, the constants of its native methods and, through its
constructor, its wrapper class; a wrapper class holds its functions and data but
not its host side; an object of a generated class holds its class, its wrapper
class and its data; a static facet holds both sides.

`Store.reach` collects all that is held, directly or not, by some roots. What is
not held is unloaded: `Store.unload` clears every reference to it.
-/

namespace ScriptClass

namespace Store

/-- What a type holds itself. -/
def heldByType (s : Store) (t : HostType) : List Holding :=
  let code := t.methods.flatMap fun m =>
    match m.body with
    | .native code => (s.natives[code]?.map NativeCode.holdings).getD []
    | _ => []
  let instantiation : List Holding :=
    match t.own.instantiation with
    | some (.generated w) => [.wrapper w]
    | _ => []
  (t.superclass?.toList ++ t.interfaces).map .type ++ instantiation ++ code

/-- What a thing holds itself. -/
def held (s : Store) : Holding → List Holding
  | .type t => s.heldByType t
  | .wrapper w => ((s.wrapper? w).map fun c => c.plan.holdings).getD []
  | .pair p => .type p.type :: .wrapper p.wrapper :: (s.properties p).holdings
  | .facet f => [.type f.backing, .wrapper f.wrapper]
  | .literal id => (s.literal id).holdings
  | .function id => (s.functions[id]?.map FunctionCode.holdings).getD []

/-- Adds things that were not met before, each once. -/
def meet (seen : List Holding.Key) : List Holding → List Holding.Key × List Holding
  | [] => (seen, [])
  | h :: hs =>
    if seen.contains h.key then meet seen hs
    else
      let (seen, new) := meet (h.key :: seen) hs
      (seen, h :: new)

/-- Widens what was seen by all that the last things met hold, until nothing new
is met. -/
def reachFrom (s : Store) (fuel : Nat) (seen : List Holding.Key) (met : List Holding) :
    List Holding.Key :=
  match fuel with
  | 0 => seen
  | fuel + 1 =>
    match meet seen (met.flatMap s.held) with
    | (seen, []) => seen
    | (seen, met) => s.reachFrom fuel seen met

/-- The number of things that there are. -/
def population (s : Store) : Nat :=
  s.declarations + s.wrappers.size + s.pairs.size + s.facets + s.literals.size +
    s.functions.size

/-- All that the roots hold, directly or not, the roots included. -/
def reach (s : Store) (roots : List Holding) : List Holding.Key :=
  let (seen, met) := meet [] roots
  s.reachFrom (s.population + 1) seen met

/-- What the registry holds: the built-in classes and every host type. -/
def registryRoots (s : Store) : List Holding :=
  .type s.registry.object :: .type s.registry.string ::
    s.registry.entries.filterMap fun e =>
      match e.2 with
      | .host t => some (.type t)
      | .generated _ => none

/-- Whether a thing is held while code runs, by the registry or by a root. -/
def isHeld (s : Store) (h : Holding) : Bool :=
  s.roots.any (·.key == h.key) || (s.reach (s.roots ++ s.registryRoots)).contains h.key

/-- Clears every reference to what is not among the things held. -/
def unload (s : Store) (held : List Holding.Key) : Store :=
  { s with
    registry := s.registry.unload fun t => held.contains (.type t.id)
    wrappers := s.wrappers.map fun c =>
      { c with
        backing := c.backing.filter fun t => held.contains (.type t.id)
        facet := c.facet.filter fun f => held.contains (.facet f.id) } }

end Store

end ScriptClass
