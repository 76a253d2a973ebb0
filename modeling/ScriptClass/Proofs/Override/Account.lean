import ScriptClass.Proofs.Generation.MemberIds
import ScriptClass.Proofs.Override.FirstDeclarations
import ScriptClass.Proofs.Override.WrittenOrder

/-!
# Binding accounts for everything

Which callable a candidate is bound to can be said without a search: the one typed with exactly its
signature, or else the untyped one of its name (`CollectedFacet.bind?_eq_some`). A facet has one of
each at most, for the key as it was read is the key as it is written. So the candidates that are
bound are those that some callable can stand in for (`CollectedFacet.isSome_bind?`), and a typed
callable is bound once or listed as unmatched once (`Overrides.accounts`). A constructor takes no
part in this (`builder_constructor_unaccounted`).
-/

namespace ScriptClass

namespace CollectedFacet

variable {facet : Facet} {entries : Option Entries} {ms : CollectedFacet} {c : Candidate}
  {s : Signature} {k : MemberKey} {m m' : Member}

/-- Some callable, the constructor apart, can stand in for the candidate. -/
def covers (ms : CollectedFacet) (c : Candidate) : Bool :=
  ms.methods.any (·.parsed.isFor c.signature)

/-- The callable typed with exactly the signature or, where there is none, the untyped one of its
name. -/
def Prefers (ms : CollectedFacet) (s : Signature) (m : Member) : Prop :=
  m ∈ ms.methods ∧ (m.signature = some s ∨
    m.signature = none ∧ m.name = s.name ∧ ∀ m' ∈ ms.methods, m'.signature ≠ some s)

theorem parsed_eq_untyped {name : String} :
    m.parsed = ⟨name, none⟩ ↔ m.signature = none ∧ m.name = name := by
  obtain ⟨key, ⟨own, signature⟩, id, function⟩ := m
  exact (MemberKey.mk.injEq ..).symm ▸ and_comm

/-- A typed callable is named as its signature is. -/
theorem parsed_eq_typed (h : collect facet entries = .ok ms) (hm : m ∈ ms.methods) :
    m.parsed = ⟨s.name, some s⟩ ↔ m.signature = some s := by
  have hparse := (mirrors_of_collect h).parse (List.mem_append_left _ hm)
  refine ⟨congrArg MemberKey.signature, fun hs => ?_⟩
  have hname := ((MemberKey.parse_ok.mp hparse).1.signature s hs).1
  obtain ⟨key, ⟨own, signature⟩, id, function⟩ := m
  cases hs
  exact congrArg (MemberKey.mk · (some s)) hname.symm

theorem keys_pairwise (h : collect facet entries = .ok ms) :
    ms.methods.Pairwise fun m m' => m.key ≠ m'.key :=
  (List.pairwise_append.mp (keys_distinct h)).1

theorem key_injective (h : collect facet entries = .ok ms) (hm : m ∈ ms.methods)
    (hm' : m' ∈ ms.methods) (hkey : m.key = m'.key) : m = m' :=
  List.inj_on_of_nodup_map (List.pairwise_map.mpr (keys_pairwise h)) hm hm' hkey

/-- No two methods are read as one key: what was read says what is written. -/
theorem find?_parsed (h : collect facet entries = .ok ms) :
    ms.methods.find? (fun m => decide (m.parsed = k)) = some m ↔ m ∈ ms.methods ∧ m.parsed = k := by
  have hdisplay {m : Member} (hm : m ∈ ms.methods) : m.parsed.display = m.key :=
    (MemberKey.parse_ok.mp ((mirrors_of_collect h).parse (List.mem_append_left _ hm))).2
  have hparsed : ms.methods.Pairwise fun m m' => m.parsed ≠ m'.parsed := by
    refine (keys_pairwise h).imp_of_mem fun hm hm' hkey heq => hkey ?_
    rw [← hdisplay hm, ← hdisplay hm', heq]
  constructor
  · intro hfind
    have hk := List.find?_some hfind
    exact ⟨List.mem_of_find?_eq_some hfind, of_decide_eq_true hk⟩
  · rintro ⟨hm, rfl⟩
    exact find?_of_pairwise Member.parsed hparsed hm

theorem bind?_eq_some (h : collect facet entries = .ok ms) :
    ms.bind? c = some m ↔ ms.Prefers c.signature m := by
  have hnone : ms.methods.find? (fun m => decide (m.parsed = ⟨c.name, some c.signature⟩)) = none ↔
      ∀ m' ∈ ms.methods, m'.signature ≠ some c.signature := by
    simp only [List.find?_eq_none, decide_eq_true_eq]
    exact forall₂_congr fun m' hm' => not_congr (parsed_eq_typed h hm')
  rw [bind?_eq, Option.or_eq_some_iff, find?_parsed h, find?_parsed h, hnone, Prefers]
  constructor
  · rintro (⟨hm, hs⟩ | ⟨hnone, hm, hs⟩)
    · exact ⟨hm, .inl ((parsed_eq_typed h hm).mp hs)⟩
    · obtain ⟨hs, hname⟩ := parsed_eq_untyped.mp hs
      exact ⟨hm, .inr ⟨hs, hname, hnone⟩⟩
  · rintro ⟨hm, hs | ⟨hs, hname, hnone⟩⟩
    · exact .inl ⟨hm, (parsed_eq_typed h hm).mpr hs⟩
    · exact .inr ⟨hnone, hm, parsed_eq_untyped.mpr ⟨hs, hname⟩⟩

/-- A callable can stand in for a candidate as it is typed, or by its name. -/
theorem isFor_iff : m.parsed.isFor s = true ↔
    m.signature = some s ∨ m.signature = none ∧ m.name = s.name := by
  obtain ⟨key, ⟨own, _ | t⟩, id, function⟩ := m <;>
    simp [MemberKey.isFor, Member.signature, Member.name]

/-- A candidate is bound if some callable can stand in for it. -/
theorem isSome_bind? (h : collect facet entries = .ok ms) (c : Candidate) :
    (ms.bind? c).isSome = ms.covers c := by
  rw [Bool.eq_iff_iff, bind?_eq, Option.isSome_or, Bool.or_eq_true, List.find?_isSome,
    List.find?_isSome, covers, List.any_eq_true, ← exists_or]
  refine exists_congr fun m => ?_
  rw [← and_or_left]
  refine and_congr_right fun hm => ?_
  rw [decide_eq_true_eq, decide_eq_true_eq, parsed_eq_untyped, isFor_iff]
  exact or_congr_left (parsed_eq_typed h hm)

/-- No two methods of an instance facet have one id. -/
theorem id_injective (h : collect .instances entries = .ok ms) (fit : FitIds 0 ms.methods.length)
    (hm : m ∈ ms.methods) (hm' : m' ∈ ms.methods) (hid : m.id = m'.id) : m = m' := by
  have hplace {m : Member} {i : Nat} (hi : ms.methods[i]? = some m) : m.id.value.toInt = 2 + i := by
    have hlt := (List.getElem?_eq_some_iff.mp hi).1
    rw [(collect_ok h).id hi]
    exact MemberId.toInt_ofIndex_instances (by have := fit.2; omega)
  obtain ⟨i, hi⟩ := List.mem_iff_getElem?.mp hm
  obtain ⟨j, hj⟩ := List.mem_iff_getElem?.mp hm'
  have hij : i = j := by
    have := (hplace hi).symm.trans (hid ▸ hplace hj)
    omega
  subst hij
  exact Option.some.inj (hi.symm.trans hj)

end CollectedFacet

namespace Overrides

variable {base : HostType} {interfaces : List HostType} {entries : Option Entries}
  {ms : CollectedFacet} {b : Binding} {m : Member}

/-- What became of the candidates and of the callables other than the constructor. -/
structure Accounts (r : Overrides) (ms : CollectedFacet) : Prop where
  /-- Bound are the candidates that some callable can stand in for, in their order. -/
  bound : r.bound.map Binding.candidate = r.candidates.filter ms.covers
  preferred {b : Binding} : b ∈ r.bound →
    ∃ m, ms.Prefers b.candidate.signature m ∧ b.key = m.key ∧ b.id = m.id
  keyId {b : Binding} : b ∈ r.bound → ms.keyId? b.key = some b.id
  unboundAbstract : r.unboundAbstract =
    r.candidates.filter fun c => c.isAbstract && (r.binding? c.signature).isNone
  /-- A typed callable is bound to one candidate, or listed as unmatched. -/
  typed {m : Member} : m ∈ ms.methods → m.isTyped = true →
    r.bound.countP (·.id == m.id) + r.unmatched.count m.key = 1
  unmatched {key : String} : key ∈ r.unmatched → ∃ m ∈ ms.methods, m.isTyped = true ∧ m.key = key

/-- The candidates bound are those for which a callable is found. -/
theorem bound_candidates (base : HostType) (interfaces : List HostType) (ms : CollectedFacet) :
    (ofMembers base interfaces ms).bound.map Binding.candidate =
      (Candidate.all base interfaces).filter fun c => (ms.bind? c).isSome := by
  rw [ofMembers, List.map_filterMap, ← List.filterMap_eq_filter]
  refine List.filterMap_congr fun c _ => ?_
  cases hm : ms.bind? c <;> simp [Option.guard, hm]

/-- A typed callable is bound under its signature alone. -/
theorem id_of_bound (h : CollectedFacet.collect .instances entries = .ok ms)
    (fit : FitIds 0 ms.methods.length) (hm : m ∈ ms.methods) {s : Signature}
    (hs : m.signature = some s) (hb : b ∈ (ofMembers base interfaces ms).bound) :
    b.id = m.id ↔ b.candidate.signature = s := by
  obtain ⟨-, m', hbind, hid, -⟩ := mem_bound.mp hb
  have hprefers := (CollectedFacet.bind?_eq_some h).mp hbind
  rw [hid]
  constructor
  · intro heq
    obtain rfl := CollectedFacet.id_injective h fit hprefers.1 hm heq
    rcases hprefers.2 with htyped | ⟨hnone, -, -⟩
    · exact Option.some.inj (htyped.symm.trans hs)
    · cases hs.symm.trans hnone
  · rintro rfl
    have hbind' := (CollectedFacet.bind?_eq_some h).mpr ⟨hm, .inl hs⟩
    rw [Option.some.inj (hbind.symm.trans hbind')]

theorem nodup_signatures (base : HostType) (interfaces : List HostType) (ms : CollectedFacet) :
    ((ofMembers base interfaces ms).bound.map (·.candidate.signature)).Nodup :=
  List.pairwise_map.mpr (pairwise_bound base interfaces ms)

theorem unmatched_eq (base : HostType) (interfaces : List HostType) (ms : CollectedFacet) :
    (ofMembers base interfaces ms).unmatched = (ms.methods.filter fun m => m.isTyped &&
      !(ofMembers base interfaces ms).bound.any (·.id == m.id)).map Member.key := rfl

theorem nodup_unmatched (h : CollectedFacet.collect .instances entries = .ok ms) :
    (ofMembers base interfaces ms).unmatched.Nodup :=
  List.pairwise_map.mpr ((CollectedFacet.keys_pairwise h).filter _)

/-- A callable is listed as unmatched if it is typed and nothing is bound to it. -/
theorem mem_unmatched (h : CollectedFacet.collect .instances entries = .ok ms)
    (hm : m ∈ ms.methods) : m.key ∈ (ofMembers base interfaces ms).unmatched ↔
      m.isTyped = true ∧ ∀ b ∈ (ofMembers base interfaces ms).bound, b.id ≠ m.id := by
  simp only [unmatched_eq, List.mem_map, List.mem_filter, Bool.and_eq_true, Bool.not_eq_true',
    List.any_eq_false, beq_iff_eq]
  constructor
  · rintro ⟨m', ⟨hm', hunmatched⟩, hkey⟩
    rwa [CollectedFacet.key_injective h hm' hm hkey] at hunmatched
  · exact fun hunmatched => ⟨m, ⟨hm, hunmatched⟩, rfl⟩

/-- A typed callable is bound once, or listed once. -/
theorem typed_once (h : CollectedFacet.collect .instances entries = .ok ms)
    (fit : FitIds 0 ms.methods.length) (hm : m ∈ ms.methods) (htyped : m.isTyped = true) :
    (ofMembers base interfaces ms).bound.countP (·.id == m.id) +
      (ofMembers base interfaces ms).unmatched.count m.key = 1 := by
  obtain ⟨s, hs⟩ := Option.isSome_iff_exists.mp htyped
  have hbound : (ofMembers base interfaces ms).bound.countP (·.id == m.id) =
      ((ofMembers base interfaces ms).bound.map (·.candidate.signature)).count s := by
    rw [List.count, List.countP_map]
    refine List.countP_congr fun b hb => ?_
    rw [Function.comp_apply, beq_iff_eq, beq_iff_eq, id_of_bound h fit hm hs hb]
  have hunmatched : m.key ∈ (ofMembers base interfaces ms).unmatched ↔
      s ∉ (ofMembers base interfaces ms).bound.map (·.candidate.signature) := by
    rw [mem_unmatched h hm, and_iff_right htyped, List.mem_map, not_exists]
    refine forall_congr' fun b => ?_
    rw [not_and]
    exact forall_congr' fun hb => not_congr (id_of_bound h fit hm hs hb)
  rw [hbound, (nodup_signatures base interfaces ms).count, (nodup_unmatched h).count]
  by_cases hmem : s ∈ (ofMembers base interfaces ms).bound.map (·.candidate.signature)
  · rw [if_pos hmem, if_neg fun hkey => hunmatched.mp hkey hmem]
  · rw [if_neg hmem, if_pos (hunmatched.mpr hmem)]

/-- Binding accounts for every candidate and for every callable other than the constructor, as
long as the ids of the callables fit into 32 bits. -/
theorem accounts {base : HostType} {interfaces : List HostType} {entries : Option Entries}
    {ms : CollectedFacet} (h : CollectedFacet.collect .instances entries = .ok ms)
    (fit : FitIds 0 ms.methods.length) : (ofMembers base interfaces ms).Accounts ms where
  bound := by
    rw [bound_candidates]
    exact List.filter_congr fun c _ => CollectedFacet.isSome_bind? h c
  preferred hb := by
    obtain ⟨-, m, hbind, hid, hkey⟩ := mem_bound.mp hb
    exact ⟨m, (CollectedFacet.bind?_eq_some h).mp hbind, hkey, hid⟩
  keyId hb := by
    obtain ⟨m, hm, -, hid, hkey⟩ := member_of_bound hb
    rw [← hkey, CollectedFacet.keyId?_key h (List.mem_append_left _ hm), hid]
  unboundAbstract := List.filter_congr fun c hc => by rw [binding?_isNone hc, Bool.and_comm]
  typed := typed_once h fit
  unmatched hkey := by
    obtain ⟨m, hm, rfl⟩ := List.mem_map.mp hkey
    obtain ⟨hm, hfilter⟩ := List.mem_filter.mp hm
    exact ⟨m, hm, (Bool.and_eq_true_iff.mp hfilter).1, rfl⟩

end Overrides

namespace Sample

def stop : Signature := ⟨"stop", [.primitive .int], .primitive .void⟩

/-- A callable that overrides `close` by its name, and one that is typed and overrides nothing. -/
def workerEntries : Entries :=
  [("close", .function ⟨0, none, none⟩), ("stop(I)V", .function ⟨1, none, none⟩)]

/-- The members of `workerEntries`. -/
def workerMembers : CollectedFacet :=
  ⟨.instances, [], [⟨"close", ⟨"close", none⟩, ⟨2⟩, ⟨0, none, none⟩⟩,
    ⟨"stop(I)V", ⟨"stop", some stop⟩, ⟨3⟩, ⟨1, none, none⟩⟩], none⟩

theorem parse_stop : MemberKey.parse "stop(I)V" = .ok ⟨"stop", some stop⟩ := by decide +kernel

theorem collect_worker : CollectedFacet.collect .instances (some workerEntries) =
    .ok workerMembers := by
  simp only [CollectedFacet.collect, workerEntries, Option.getD_some, List.foldlM_cons,
    CollectedFacet.add, parse_stop]
  rfl

def build : Signature := ⟨constructorName, [.primitive .int], .primitive .void⟩

/-- A class with an abstract method of the constructor's name. -/
def builder : HostType :=
  .mk { id := 2, name := "app/Builder", modifiers := .onlyPublic, methods := [.abstract build] }
    none []

def builderEntries : Entries := [("constructor(I)V", .function ⟨0, none, none⟩)]

/-- The members of `builderEntries`. -/
def builderMembers : CollectedFacet :=
  ⟨.instances, [], [], some
    ⟨"constructor(I)V", ⟨constructorName, some build⟩, .constructor, ⟨0, none, none⟩⟩⟩

theorem parse_build : MemberKey.parse "constructor(I)V" = .ok ⟨constructorName, some build⟩ := by
  decide +kernel

theorem collect_builder : CollectedFacet.collect .instances (some builderEntries) =
    .ok builderMembers := by
  simp only [CollectedFacet.collect, builderEntries, Option.getD_some, List.foldlM_cons,
    CollectedFacet.add, parse_build]
  rfl

end Sample

open Sample in
/-- The callable that is not bound is listed as unmatched. -/
theorem worker_accounted :
    CollectedFacet.collect .instances (some workerEntries) = .ok workerMembers ∧
      FitIds 0 workerMembers.methods.length ∧
      (Overrides.ofMembers worker [closeable] workerMembers).Accounts workerMembers :=
  have fit : FitIds 0 workerMembers.methods.length := ⟨by decide, by decide⟩
  ⟨collect_worker, fit, Overrides.accounts collect_worker fit⟩

open Sample in
/-- A constructor is typed with exactly the signature of an abstract candidate. It is neither bound
to the candidate nor listed as unmatched. -/
theorem builder_constructor_unaccounted :
    CollectedFacet.collect .instances (some builderEntries) = .ok builderMembers ∧
      (∃ m ∈ builderMembers.callables, m.isTyped = true ∧ m.parsed.isFor build = true) ∧
      (Overrides.ofMembers builder [] builderMembers).candidates.map Candidate.signature = [build] ∧
      (Overrides.ofMembers builder [] builderMembers).bound.map Binding.id = [] ∧
      (Overrides.ofMembers builder [] builderMembers).unmatched = [] := by
  refine ⟨collect_builder, ⟨_, List.mem_singleton_self _, rfl, rfl⟩, ?_, ?_, ?_⟩
  · decide +kernel
  · decide +kernel
  · decide +kernel

end ScriptClass
