import ScriptClass.Proofs.Member.Acceptance
import ScriptClass.Proofs.Override.Binding
import Mathlib.Data.List.Find

/-!
# Binding and the order of entries

A candidate is bound to the callable that is written under exactly its signature, or else to
the one under its bare name (`CollectedFacet.bind?_entry`). Of each there is at most one among
entries that are collected, so that it is found in whatever order they are written
(`CollectedFacet.bind?_perm`). Ids count places and do change.
-/

namespace ScriptClass

namespace Entry

/-- The entry is a method that was read as this key. -/
def isMethodOf (k : MemberKey) (e : Entry) : Bool := decide (e.isMethod = true ∧ e.key? = some k)

end Entry

namespace CollectedFacet

variable {facet : Facet} {entries entries' : Entries} {ms ms' : CollectedFacet}

theorem Mirrors.find?_parsed (h : Mirrors facet entries ms) (k : MemberKey) :
    (ms.methods.find? fun m => decide (m.parsed = k)).map Member.entry =
      entries.find? (Entry.isMethodOf k) := by
  have hkeys : ms.methods.find? (fun m => decide (m.parsed = k)) =
      ms.methods.find? ((fun e : Entry => decide (e.key? = some k)) ∘ Member.entry) := by
    refine List.find?_congr fun m hm => ?_
    simp only [Function.comp_apply, h.key (List.mem_append_left _ hm), Option.some.injEq]
  rw [hkeys, ← List.find?_map, h.methods, List.find?_filter]
  refine List.find?_congr fun e _ => ?_
  simp only [Entry.isMethodOf, decide_eq_true_eq]

/-- A search for a signature among the callables of a name is a search for a key. -/
theorem find?_named (ms : CollectedFacet) (name : String) {signature : Option Signature}
    {p : Member → Bool} (hp : ∀ m, p m = true ↔ m.signature = signature) :
    (ms.named name).find? p = ms.methods.find? fun m => decide (m.parsed = ⟨name, signature⟩) := by
  rw [named, List.find?_filter]
  refine List.find?_congr fun m _ => decide_eq_decide.mpr ?_
  rw [beq_iff_eq, hp, Member.name, Member.signature]
  obtain ⟨key, ⟨name, own⟩, id, function⟩ := m
  exact (MemberKey.mk.injEq ..).symm ▸ Iff.rfl

theorem bind?_eq (ms : CollectedFacet) (c : Candidate) : ms.bind? c =
    (ms.methods.find? fun m => decide (m.parsed = ⟨c.name, some c.signature⟩)).or
      (ms.methods.find? fun m => decide (m.parsed = ⟨c.name, none⟩)) := by
  rw [bind?, find?_named ms c.name fun _ => decide_eq_true_iff,
    find?_named ms c.name fun _ => Option.isNone_iff_eq_none]

/-- What is bound, as it was written. -/
theorem bind?_entry (h : Mirrors facet entries ms) (c : Candidate) :
    (ms.bind? c).map Member.entry =
      (entries.find? (Entry.isMethodOf ⟨c.name, some c.signature⟩)).or
        (entries.find? (Entry.isMethodOf ⟨c.name, none⟩)) := by
  rw [bind?_eq, Option.map_or, h.find?_parsed, h.find?_parsed]

/-- A key is that of one method at most. -/
theorem isMethodOf_subsingleton (h : entries.Acceptable facet) (k : MemberKey) :
    {e ∈ entries | Entry.isMethodOf k e = true}.Subsingleton := by
  rintro d ⟨hd, hdk⟩ e ⟨he, hek⟩
  obtain ⟨hmethod, hdk⟩ := of_decide_eq_true hdk
  obtain ⟨-, hek⟩ := of_decide_eq_true hek
  by_contra hne
  have hcompatible := (Entries.acceptable_iff.mp h).2.forall hd he hne
  refine hcompatible.unambiguous k k hdk hek ((Entry.isMethod_iff hdk).mp hmethod) ⟨rfl, ?_⟩
  cases k.signature with
  | none => trivial
  | some s => rfl

/-- Whatever the order in which entries are written, a candidate is bound to the same one. -/
theorem bind?_perm (hperm : entries.Perm entries') (h : collect facet (some entries) = .ok ms)
    (h' : collect facet (some entries') = .ok ms') (c : Candidate) :
    (ms'.bind? c).map Member.entry = (ms.bind? c).map Member.entry := by
  have hacceptable : entries.Acceptable facet := collects_iff_acceptable.mp ⟨ms, h⟩
  have hfind (k : MemberKey) : entries'.find? (Entry.isMethodOf k) =
      entries.find? (Entry.isMethodOf k) :=
    (List.find?_eq_find?_of_perm hperm (isMethodOf_subsingleton hacceptable k)).symm
  rw [bind?_entry (mirrors_of_collect h'), bind?_entry (mirrors_of_collect h), Option.getD_some,
    Option.getD_some, hfind, hfind]

/-- What is collected in one order is collected in any other. -/
theorem collect_perm (hperm : entries.Perm entries') (h : collect facet (some entries) = .ok ms) :
    ∃ ms', collect facet (some entries') = .ok ms' := by
  obtain ⟨hadmissible, hcompatible⟩ :=
    Entries.acceptable_iff.mp (collects_iff_acceptable.mp ⟨ms, h⟩)
  refine collects_iff_acceptable.mpr (Entries.acceptable_iff.mpr ⟨fun e he => ?_, ?_⟩)
  · exact hadmissible e (hperm.mem_iff.mpr he)
  · exact (hperm.pairwise_iff fun h => h.symm).mp hcompatible

/-- As many methods are collected in one order as in any other. -/
theorem length_methods_perm (hperm : entries.Perm entries')
    (h : collect facet (some entries) = .ok ms) (h' : collect facet (some entries') = .ok ms') :
    ms'.methods.length = ms.methods.length := by
  have hlength {entries : Entries} {ms : CollectedFacet} (h : collect facet (some entries) = .ok ms) :
      ms.methods.length = (entries.filter Entry.isMethod).length := by
    have hmethods := (mirrors_of_collect h).methods
    rw [Option.getD_some] at hmethods
    rw [← hmethods, List.length_map]
  rw [hlength h, hlength h', (hperm.filter _).length_eq]

end CollectedFacet

theorem Overrides.isAbstract_congr {base : HostType} {interfaces : List HostType}
    {ms ms' : CollectedFacet} (h : ∀ c ∈ Candidate.all base interfaces,
      (ms'.bind? c).isNone = (ms.bind? c).isNone) :
    (ofMembers base interfaces ms').isAbstract = (ofMembers base interfaces ms).isAbstract := by
  have hunbound : (ofMembers base interfaces ms').unboundAbstract =
      (ofMembers base interfaces ms).unboundAbstract :=
    List.filter_congr fun c hc => by rw [h c hc]
  rw [isAbstract, isAbstract, hunbound]

end ScriptClass
