import ScriptClass.Proofs.HostType.Closure
import ScriptClass.Proofs.Override.Owner

/-!
# Candidates are first declarations

Candidates are found on visits that skip what they have met. Said without visits, they are the
first declarations of the slots of all that a class inherits from, as far as these can be
overridden (`candidates_are_first_declarations`): nothing that a class inherits from is missed or
met twice, and no slot is filled twice. The order is that of the closure, unless the base or a
superclass is also asked for as an interface: what is above it comes later then
(`base_among_interfaces_comes_later`).
-/

namespace ScriptClass

/-- The first declaration of each slot that the types declare, each type taken where it comes
first, without those that cannot be overridden. -/
def Candidate.firstDeclarations (ts : List HostType) : List Candidate :=
  let types := ts.eraseDupsBy fun t u => t.hash == u.hash
  let declared := types.flatMap fun t => t.methods.map fun m => (t, m)
  let owners := declared.eraseDupsBy fun d e => d.2.signature.slot == e.2.signature.slot
  (owners.filter fun d => d.2.modifiers.isOverridable).map fun d => .ofMethod d.1 d.2

theorem Candidate.all_eq_lineage {base : HostType} {interfaces : List HostType}
    (hapart : HostType.Apart (base.closure interfaces)) :
    all base interfaces = firstDeclarations (base.lineage interfaces) := by
  rw [all, HostType.ancestors_eq_lineage hapart, firstOfSlot_eq, firstsBy_eq_eraseDupsBy,
    firstsBy_eq_eraseDupsBy]
  rfl

open HostType in
/-- The candidates are the first declarations, in the order in which the types are inherited from.
A base or superclass that stands among the interfaces too is passed over there with all above it,
which makes no difference where none does. All types that a class inherits from are visited, each
once, and the candidates fill distinct slots. -/
theorem candidates_are_first_declarations {base : HostType} {interfaces : List HostType}
    (hapart : Apart (base.closure interfaces)) :
    Candidate.all base interfaces = Candidate.firstDeclarations (base.lineage interfaces) ∧
    ((∀ t ∈ base.chain, t ∉ expansion (base.declaredInterfaces interfaces)) →
      Candidate.all base interfaces = Candidate.firstDeclarations (base.closure interfaces)) ∧
    (∀ t, t ∈ base.ancestors interfaces ↔ t ∈ base.closure interfaces) ∧
    ((base.ancestors interfaces).map hash).Nodup ∧
    ((Candidate.all base interfaces).map fun c => c.signature.slot).Nodup := by
  have hall := Candidate.all_eq_lineage hapart
  refine ⟨hall, fun hnone => ?_, fun t => mem_ancestors hapart, ?_, ?_⟩
  · rw [hall, lineage_eq_closure hapart hnone]
  · exact List.pairwise_map.mpr (pairwise_ancestors base interfaces)
  · exact List.pairwise_map.mpr (Candidate.pairwise_all base interfaces)

namespace Sample

def runnable : HostType :=
  .mk { id := 2, name := "app/Runnable", modifiers := .ofInterface,
        methods := [.abstract ⟨"run", [], .primitive .void⟩] } none []

def closeable : HostType :=
  .mk { id := 3, name := "app/Closeable", modifiers := .ofInterface,
        methods := [.abstract ⟨"close", [], .primitive .void⟩] } none []

/-- An interface that adds nothing to `runnable`. -/
def job : HostType := .mk { id := 4, name := "app/Job", modifiers := .ofInterface } none [runnable]

/-- An interface with two parents, one of which is the parent of the other. -/
def task : HostType :=
  .mk { id := 5, name := "app/Task", modifiers := .ofInterface } none [job, runnable]

def agent : HostType := .mk { id := 10, name := "app/Agent", modifiers := .onlyPublic } none []

/-- A class of tasks. -/
def worker : HostType :=
  .mk { id := 11, name := "app/Worker", modifiers := .onlyPublic } (some agent) [task]

theorem worker_apart : HostType.Apart (worker.closure [closeable, job]) := by
  have hapart : HostType.Apart [worker, agent, closeable, job, runnable, task] :=
    HostType.apart_of_nodup (by decide +kernel)
  have hclosure : worker.closure [closeable, job] =
      [worker, agent, closeable, job, runnable, task, job, runnable, runnable] := rfl
  exact hapart.subset (by simp [hclosure])

theorem worker_no_interface :
    ∀ t ∈ worker.chain, t ∉ HostType.expansion (worker.declaredInterfaces [closeable, job]) := by
  have hids : ∀ t ∈ worker.chain,
      ∀ u ∈ HostType.expansion (worker.declaredInterfaces [closeable, job]), t.id ≠ u.id := by decide
  exact fun t ht hu => hids t ht t hu rfl

theorem job_apart : HostType.Apart (job.closure [job, closeable]) := by
  have hapart : HostType.Apart [job, runnable, closeable] :=
    HostType.apart_of_nodup (by decide +kernel)
  have hclosure : job.closure [job, closeable] = [job, job, runnable, closeable, runnable] := rfl
  exact hapart.subset (by simp [hclosure])

end Sample

open Sample in
/-- `runnable` is reached in three ways and visited once. -/
theorem worker_candidates :
    Candidate.all worker [closeable, job] =
        Candidate.firstDeclarations (worker.closure [closeable, job]) ∧
      runnable ∈ worker.ancestors [closeable, job] := by
  obtain ⟨-, hclosure, hvisited, -⟩ := candidates_are_first_declarations worker_apart
  refine ⟨hclosure worker_no_interface, (hvisited runnable).mpr ?_⟩
  exact List.mem_append_right _ (HostType.mem_expansion.mpr
    ⟨job, .tail _ (.head _), .inr (HostType.mem_expansion_self (.head _))⟩)

open Sample in
/-- `job` is the base and the first interface too: what is above it comes after the other
interface, and not before. -/
theorem base_among_interfaces_comes_later : HostType.Apart (job.closure [job, closeable]) ∧
    (Candidate.all job [job, closeable]).map Candidate.name = ["close", "run"] ∧
    (Candidate.firstDeclarations (job.closure [job, closeable])).map Candidate.name =
      ["run", "close"] :=
  ⟨job_apart, by decide +kernel, by decide +kernel⟩

end ScriptClass
