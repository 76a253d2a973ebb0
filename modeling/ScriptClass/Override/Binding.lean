import ScriptClass.Override.Candidates
import ScriptClass.Member.Collection

/-!
# Binding overrides

A candidate is bound to the typed callable of exactly its signature, or else to
the untyped callable of its name. A candidate that is abstract and unbound makes
the generated class abstract.
-/

namespace ScriptClass

/-- A candidate and the callable bound to it. -/
structure Binding where
  candidate : Candidate
  id : MemberId
  key : String

/-- What became of the candidates and of the typed callables. -/
structure Overrides where
  candidates : List Candidate
  bound : List Binding
  /-- Abstract candidates without a callable. -/
  unboundAbstract : List Candidate
  /-- Keys of typed callables that override nothing. -/
  unmatched : List String

/-- The callable that a candidate is bound to. -/
def CollectedFacet.bind? (ms : CollectedFacet) (c : Candidate) : Option Member :=
  let named := ms.named c.name
  (named.find? fun m => m.signature = some c.signature).or
    (named.find? fun m => m.signature.isNone)

namespace Overrides

/-- Binds the candidates of a base and interfaces to the callables of the
instance facet. -/
def ofMembers (base : HostType) (interfaces : List HostType) (ms : CollectedFacet) : Overrides :=
  let candidates := Candidate.all base interfaces
  let bound := candidates.filterMap fun c =>
    (ms.bind? c).map fun m => ⟨c, m.id, m.key⟩
  { candidates
    bound
    unboundAbstract := candidates.filter fun c => (ms.bind? c).isNone && c.isAbstract
    unmatched := (ms.methods.filter fun m =>
      m.isTyped && !bound.any (·.id == m.id)).map Member.key }

/-- Whether the generated class must be abstract. -/
def isAbstract (r : Overrides) : Bool := !r.unboundAbstract.isEmpty

/-- The override bound to a signature. -/
def binding? (r : Overrides) (s : Signature) : Option Binding :=
  r.bound.find? fun b => b.candidate.signature = s

end Overrides

end ScriptClass
