import ScriptClass.Override.Binding
import ScriptClass.Proofs.Firsts

/-!
# Candidates and what binding gives

A candidate is the first declaration of its slot among all that the class would
inherit, and overridable (`Candidate.mem_all`). Candidates fill distinct slots,
hence have distinct signatures (`Candidate.pairwise_all`).

A bound override joins a candidate and a method of the instance facet, of the
candidate's name, with the method's id and key (`Overrides.mem_bound`). As
candidates fill distinct slots, a signature has one binding at most
(`Overrides.binding?_of_mem`).
-/

namespace ScriptClass

/-! ## Candidates -/

theorem firstOfSlot_eq (ds : List (HostType × Method)) :
    firstOfSlot ds = firstsBy (fun d : HostType × Method => d.2.signature.slot) ds := rfl

/-- The types that a class inherits from, with each method that they declare. -/
def Candidate.declared (base : HostType) (interfaces : List HostType) : List (HostType × Method) :=
  (base.ancestors interfaces).flatMap fun t => t.methods.map fun m => (t, m)

namespace Candidate

variable {base : HostType} {interfaces : List HostType} {c : Candidate}

/-- A candidate is the first declaration of its slot, and overridable. -/
theorem mem_all : c ∈ all base interfaces ↔
    ∃ t m, (declared base interfaces).find? (fun d => d.2.signature.slot == m.signature.slot) =
        some (t, m) ∧ m.modifiers.isOverridable = true ∧ c = ofMethod t m := by
  simp only [all, List.mem_map, List.mem_filter, firstOfSlot_eq, mem_firstsBy]
  constructor
  · rintro ⟨⟨t, m⟩, ⟨hfirst, ho⟩, rfl⟩
    exact ⟨t, m, hfirst, ho, rfl⟩
  · rintro ⟨t, m, hfirst, ho, rfl⟩
    exact ⟨(t, m), ⟨hfirst, ho⟩, rfl⟩

/-- Candidates fill distinct slots. -/
theorem pairwise_all (base : HostType) (interfaces : List HostType) :
    (all base interfaces).Pairwise fun a b => a.signature.slot ≠ b.signature.slot :=
  ((pairwise_firstsBy _ _).filter _).map _ fun _ _ h => h

end Candidate

/-! ## Bindings -/

theorem CollectedFacet.bind?_some {ms : CollectedFacet} {c : Candidate} {m : Member}
    (h : ms.bind? c = some m) : m ∈ ms.methods ∧ m.name = c.name := by
  have hnamed : m ∈ ms.named c.name := by
    rcases Option.or_eq_some_iff.mp h with h | ⟨-, h⟩ <;> exact List.mem_of_find?_eq_some h
  obtain ⟨hm, hname⟩ := List.mem_filter.mp hnamed
  exact ⟨hm, beq_iff_eq.mp hname⟩

namespace Overrides

variable {base : HostType} {interfaces : List HostType} {ms : CollectedFacet} {b : Binding}

theorem mem_bound : b ∈ (ofMembers base interfaces ms).bound ↔
    b.candidate ∈ Candidate.all base interfaces ∧
      ∃ m, ms.bind? b.candidate = some m ∧ b.id = m.id ∧ b.key = m.key := by
  simp only [ofMembers, List.mem_filterMap, Option.map_eq_some_iff]
  constructor
  · rintro ⟨c, hc, m, hm, rfl⟩
    exact ⟨hc, m, hm, rfl, rfl⟩
  · rintro ⟨hc, m, hm, hid, hkey⟩
    obtain ⟨c, id, key⟩ := b
    dsimp only at hid hkey
    exact ⟨c, hc, m, hm, by rw [hid, hkey]⟩

/-- Bound overrides have distinct signatures. -/
theorem pairwise_bound (base : HostType) (interfaces : List HostType) (ms : CollectedFacet) :
    (ofMembers base interfaces ms).bound.Pairwise
      fun a b => a.candidate.signature ≠ b.candidate.signature := by
  refine (Candidate.pairwise_all base interfaces).filterMap _ fun c d hcd a ha b hb => ?_
  obtain ⟨m, -, rfl⟩ := Option.map_eq_some_iff.mp ha
  obtain ⟨n, -, rfl⟩ := Option.map_eq_some_iff.mp hb
  exact fun h => hcd (congrArg Signature.slot h)

theorem binding?_of_mem (h : b ∈ (ofMembers base interfaces ms).bound) :
    (ofMembers base interfaces ms).binding? b.candidate.signature = some b :=
  find?_of_pairwise (fun b : Binding => b.candidate.signature) (pairwise_bound ..) h

/-- A binding of a signature is the bound override that has it. -/
theorem binding?_eq_some {s : Signature} : (ofMembers base interfaces ms).binding? s = some b ↔
    b ∈ (ofMembers base interfaces ms).bound ∧ b.candidate.signature = s := by
  constructor
  · intro h
    have hs := List.find?_some h
    exact ⟨List.mem_of_find?_eq_some h, of_decide_eq_true hs⟩
  · rintro ⟨hb, rfl⟩
    exact binding?_of_mem hb

/-- A candidate has a binding if a callable is found for it. -/
theorem binding?_isNone {c : Candidate} (hc : c ∈ Candidate.all base interfaces) :
    ((ofMembers base interfaces ms).binding? c.signature).isNone = (ms.bind? c).isNone := by
  cases hm : ms.bind? c with
  | some m =>
    have hb := mem_bound (b := ⟨c, m.id, m.key⟩).mpr ⟨hc, m, hm, rfl, rfl⟩
    rw [binding?_of_mem hb]
    rfl
  | none =>
    rw [Option.isNone_none, Option.isNone_iff_eq_none, Option.eq_none_iff_forall_ne_some]
    intro b hb
    obtain ⟨hmem, hs⟩ := binding?_eq_some.mp hb
    obtain ⟨-, m, hbind, -, -⟩ := mem_bound.mp hmem
    -- The callable is sought by the signature alone.
    rw [CollectedFacet.bind?, Candidate.name, hs] at hbind
    cases hm.symm.trans hbind

/-- A bound override names a method of the instance facet by its id and key. -/
theorem member_of_bound (h : b ∈ (ofMembers base interfaces ms).bound) :
    ∃ m ∈ ms.methods, m.name = b.candidate.name ∧ m.id = b.id ∧ m.key = b.key := by
  obtain ⟨-, m, hm, hid, hkey⟩ := mem_bound.mp h
  obtain ⟨hmem, hname⟩ := CollectedFacet.bind?_some hm
  exact ⟨m, hmem, hname, hid.symm, hkey.symm⟩

end Overrides

end ScriptClass
