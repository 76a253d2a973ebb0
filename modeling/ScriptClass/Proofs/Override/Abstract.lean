import ScriptClass.Proofs.Override.Binding
import ScriptClass.Proofs.HostType.Ancestors

/-!
# Abstract methods of a concrete class

A class is concrete if no candidate is both abstract and unbound. That decides by
slot, which is a name and parameters; a virtual call looks for a signature with its
return type. What a concrete class inherits for the signature of a candidate has an
implementation (`inherited?_candidate`). A signature is no candidate where another
declaration is the first of its slot (`SlotTaken`), and then nothing is bound to it
(`binding?_of_slotTaken`).
-/

namespace ScriptClass

theorem Method.isStatic_of_isOverridable {m : Method} (h : m.modifiers.isOverridable = true) :
    m.isStatic = false := by
  rw [Modifiers.isOverridable, Bool.not_eq_true', Bool.or_eq_false_iff] at h
  exact h.2

namespace Candidate

variable {base : HostType} {interfaces : List HostType} {c : Candidate} {s : Signature}

/-- The first declaration of the slot has another signature, or is final, private or
static. -/
def SlotTaken (base : HostType) (interfaces : List HostType) (s : Signature) : Prop :=
  ∃ d, (declared base interfaces).find? (fun d => d.2.signature.slot == s.slot) = some d ∧
    (d.2.signature ≠ s ∨ d.2.modifiers.isOverridable = false)

/-- A signature that one of the visited types declares is a candidate's, or its slot is
taken. -/
theorem slotTaken_or_mem {t : HostType} {m : Method} (ht : t ∈ base.ancestors interfaces)
    (hm : t.declared? s = some m) :
    SlotTaken base interfaces s ∨ ∃ c ∈ all base interfaces, c.signature = s := by
  have hdeclared : (t, m) ∈ declared base interfaces :=
    List.mem_flatMap.mpr ⟨t, ht, List.mem_map_of_mem (List.mem_of_find?_eq_some hm)⟩
  have hfirst : ((declared base interfaces).find?
      (fun d => d.2.signature.slot == s.slot)).isSome := by
    rw [List.find?_isSome]
    exact ⟨_, hdeclared, by rw [HostType.declared?_signature hm, beq_self_eq_true]⟩
  obtain ⟨⟨owner, first⟩, hfirst⟩ := Option.isSome_iff_exists.mp hfirst
  by_cases hsame : first.signature = s
  · by_cases ho : first.modifiers.isOverridable = true
    · exact .inr ⟨ofMethod owner first, mem_all.mpr ⟨owner, first, hsame ▸ hfirst, ho, rfl⟩, hsame⟩
    · exact .inl ⟨_, hfirst, .inr (Bool.not_eq_true _ ▸ ho)⟩
  · exact .inl ⟨_, hfirst, .inl hsame⟩

theorem signature_ne_of_slotTaken (h : SlotTaken base interfaces s) (hc : c ∈ all base interfaces) :
    c.signature ≠ s := by
  rintro rfl
  obtain ⟨t, m, hfirst, ho, rfl⟩ := mem_all.mp hc
  obtain ⟨d, hd, hwhy⟩ := h
  obtain rfl := Option.some.inj (hfirst.symm.trans hd)
  rcases hwhy with hne | hnot
  · exact hne rfl
  · rw [ho] at hnot
    cases hnot

/-- A candidate is what the first visited type that declares its signature declares. -/
theorem first_of_mem (hc : c ∈ all base interfaces) : ∃ t m,
    (base.ancestors interfaces).find? (HostType.declares c.signature) = some t ∧
      t.declaredVirtual? c.signature = some m ∧ (m.isAbstract = true → c.isAbstract = true) := by
  obtain ⟨t, m, hfirst, ho, rfl⟩ := mem_all.mp hc
  have hsig : (declared base interfaces).find? (fun d => d.2.signature = m.signature) =
      some (t, m) :=
    find?_of_imp hfirst (fun d hd => by rw [of_decide_eq_true hd, beq_self_eq_true])
      (decide_eq_true rfl)
  rw [declared, List.find?_flatMap] at hsig
  obtain ⟨before, t', rest, hancestors, ht, hbefore⟩ := List.findSome?_eq_some_iff.mp hsig
  rw [List.find?_map] at ht
  obtain ⟨m', hm, heq⟩ := Option.map_eq_some_iff.mp ht
  obtain ⟨rfl, rfl⟩ := Prod.mk.inj heq
  have hm : t'.declared? m'.signature = some m' := hm
  refine ⟨t', m', ?_, HostType.declaredVirtual?_some.mpr ⟨hm, Method.isStatic_of_isOverridable ho⟩, ?_⟩
  · refine List.find?_eq_some_iff_append.mpr
      ⟨by rw [HostType.declares, ofMethod, hm]; rfl, before, rest, hancestors, fun u hu => ?_⟩
    have hu := hbefore u hu
    rw [List.find?_map, Option.map_eq_none_iff] at hu
    have hu : u.declared? m'.signature = none := hu
    rw [HostType.declares, ofMethod, hu]
    rfl
  · intro habstract
    rw [isAbstract, ofMethod, habstract, Bool.or_true]

end Candidate

namespace Overrides

variable {base : HostType} {interfaces : List HostType} {ms : CollectedFacet} {s : Signature}

theorem binding?_of_slotTaken (h : Candidate.SlotTaken base interfaces s) :
    (ofMembers base interfaces ms).binding? s = none := by
  cases hb : (ofMembers base interfaces ms).binding? s with
  | none => rfl
  | some b =>
    obtain ⟨hb, hs⟩ := binding?_eq_some.mp hb
    exact absurd hs (Candidate.signature_ne_of_slotTaken h (mem_bound.mp hb).1)

/-- In a concrete class a candidate without a binding has an implementation. -/
theorem isAbstract_of_unbound (hconcrete : (ofMembers base interfaces ms).isAbstract = false)
    {c : Candidate} (hc : c ∈ Candidate.all base interfaces)
    (hnone : (ofMembers base interfaces ms).binding? c.signature = none) :
    c.isAbstract = false := by
  have hunbound : ms.bind? c = none := by
    rw [← Option.isNone_iff_eq_none, ← binding?_isNone hc, hnone, Option.isNone_none]
  rw [isAbstract, Bool.not_eq_false', List.isEmpty_iff, ofMembers, List.filter_eq_nil_iff] at hconcrete
  have h := hconcrete c hc
  rw [hunbound] at h
  simpa using h

/-- What a concrete class inherits for the signature of a candidate that nothing is
bound to has an implementation, if it comes from one of the visited types. -/
theorem inherited?_candidate (hconcrete : (ofMembers base interfaces ms).isAbstract = false)
    {c : Candidate} (hc : c ∈ Candidate.all base interfaces)
    (hnone : (ofMembers base interfaces ms).binding? c.signature = none) {found : HostType.Found}
    (h : base.inherited? interfaces c.signature = some found)
    (hvisited : found.1 ∈ base.ancestors interfaces) : found.2.isAbstract = false := by
  obtain ⟨t, m, hfirst, hm, habstract⟩ := Candidate.first_of_mem hc
  have himplemented : m.isAbstract = false := by
    rw [← Bool.not_eq_true]
    intro hma
    rw [isAbstract_of_unbound hconcrete hc hnone] at habstract
    cases habstract hma
  rcases Option.or_eq_some_iff.mp h with hchain | ⟨hchain, hinterfaces⟩
  · rw [HostType.virtualInChain?_of_ancestors hfirst hm hchain hvisited]
    exact himplemented
  · obtain ⟨found', hfound', hdefault⟩ :=
      HostType.virtualInInterfaces?_of_ancestors hfirst hm himplemented hchain
    rw [hinterfaces] at hfound'
    rw [Option.some.inj hfound']
    exact hdefault

end Overrides

end ScriptClass
