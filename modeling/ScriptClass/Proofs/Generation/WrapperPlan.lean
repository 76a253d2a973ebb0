import ScriptClass.Proofs.Dispatch.Table
import ScriptClass.Proofs.Dispatch.NameIndex
import ScriptClass.Proofs.Member.Collection
import ScriptClass.Generation.WrapperPlan

/-!
# Reading wrapper plans

The script side of collected members: the id of a place is read as that place
(`Members.lookup_ofIndex`), and a name or key of a member leads to a member that
has it (`Members.findId_member`).
-/

namespace ScriptClass

namespace Members

/-- The callables of a facet, in the order of their ids. -/
def methods (ms : Members) : Facet → List Member
  | .instances => ms.instances.methods
  | .statics => ms.statics.methods

/-- The members have ids of 32 bits. -/
def Fit (ms : Members) : Prop := FitIds ms.statics.methods.length ms.instances.methods.length

/-- The members of each facet are numbered in order. -/
def Numbered (ms : Members) : Prop :=
  ∀ (facet : Facet) (i : Nat) (m : Member), (ms.methods facet)[i]? = some m →
    m.id = .ofIndex facet i

theorem numbered_of_collect {instances statics : Option Entries} {ms : Members}
    (h : collect instances statics = .ok ms) : ms.Numbered := by
  obtain ⟨hi, hs⟩ := collect_ok h
  intro facet i m hm
  cases facet with
  | instances => exact (CollectedFacet.collect_ok hi).id hm
  | statics => exact (CollectedFacet.collect_ok hs).id hm

variable {ms own : Members} {facet : Facet} {i : Nat}

theorem toInt_ofIndex (fit : ms.Fit) (hi : i < (ms.methods facet).length) :
    (MemberId.ofIndex facet i).value.toInt =
      match facet with
      | .instances => 2 + i
      | .statics => -1 - i := by
  obtain ⟨hstatics, hinstances⟩ := fit
  cases facet with
  | instances =>
    have hlt : i < ms.instances.methods.length := hi
    exact MemberId.toInt_ofIndex_instances (by omega)
  | statics =>
    have hlt : i < ms.statics.methods.length := hi
    exact MemberId.toInt_ofIndex_statics (by omega)

/-- The id of a member is neither the default nor the constructor's. -/
theorem ofIndex_isMember (fit : ms.Fit) (hi : i < (ms.methods facet).length) :
    (MemberId.ofIndex facet i).isDefault = false ∧
      (MemberId.ofIndex facet i).isConstructor = false := by
  have hid := toInt_ofIndex fit hi
  refine ⟨beq_false_of_ne fun h => ?_, beq_false_of_ne fun h => ?_⟩ <;> rw [h] at hid <;>
    cases facet <;> simp at hid <;> omega

/-- The id of a place that one class has is read as that place by any other. -/
theorem lookup_ofIndex (name : String) (fit : ms.Fit) (fitOwn : own.Fit)
    (hi : i < (own.methods facet).length) :
    (WrapperPlan.ofMembers name ms).handlers.lookup (.ofIndex facet i) =
      if i < (ms.methods facet).length then .member facet i else .default := by
  obtain ⟨hstatics, hinstances⟩ := fitOwn
  cases facet with
  | instances =>
    have hlt : i < own.instances.methods.length := hi
    exact HandlerTable.lookup_instances fit (by omega)
  | statics =>
    have hlt : i < own.statics.methods.length := hi
    exact HandlerTable.lookup_statics fit (by omega)

/-- A name or key of a member leads to a member that has it as its name or key. -/
theorem findId_member (name : String) (hnum : ms.Numbered) {m : Member} {n : String}
    (hm : m ∈ ms.methods facet) (hn : m.name = n ∨ m.key = n) :
    ∃ i m', (ms.methods facet)[i]? = some m' ∧ (m'.name = n ∨ m'.key = n) ∧
      (WrapperPlan.ofMembers name ms).findId facet n = .ofIndex facet i := by
  have hfind : ∃ constructor, (WrapperPlan.ofMembers name ms).findId facet n =
      (((WrapperPlan.nameEntries (ms.methods facet) constructor).find? (·.1 == n)).map
        Prod.snd).getD .default := by
    cases facet with
    | instances => exact ⟨ms.instances.constructor, NameIndex.findWith_buildWith _ _ n⟩
    | statics => exact ⟨none, NameIndex.findWith_buildWith _ _ n⟩
  obtain ⟨constructor, hfind⟩ := hfind
  let entries := (ms.methods facet).map (fun m => (m.key, m.id)) ++
    (ms.methods facet).map fun m => (m.name, m.id)
  have hsome : (entries.find? (·.1 == n)).isSome := by
    rw [List.find?_isSome]
    rcases hn with hn | hn
    · exact ⟨(m.name, m.id), List.mem_append_right _ (List.mem_map_of_mem hm), by simpa using hn⟩
    · exact ⟨(m.key, m.id), List.mem_append_left _ (List.mem_map_of_mem hm), by simpa using hn⟩
  obtain ⟨e, he⟩ := Option.isSome_iff_exists.mp hsome
  have hid : (WrapperPlan.ofMembers name ms).findId facet n = e.2 := by
    rw [hfind, WrapperPlan.nameEntries, List.append_assoc, List.append_assoc,
      ← List.append_assoc, List.find?_append]
    show (((entries.find? _).or _).map _).getD _ = _
    rw [he]
    rfl
  have hname : e.1 = n := by simpa using List.find?_some he
  have hmem : ∃ m' ∈ ms.methods facet, (m'.name = n ∨ m'.key = n) ∧ m'.id = e.2 := by
    rcases List.mem_append.mp (List.mem_of_find?_eq_some he) with h | h
    · obtain ⟨m', hm', rfl⟩ := List.mem_map.mp h
      exact ⟨m', hm', .inr hname, rfl⟩
    · obtain ⟨m', hm', rfl⟩ := List.mem_map.mp h
      exact ⟨m', hm', .inl hname, rfl⟩
  obtain ⟨m', hm', hn', hid'⟩ := hmem
  obtain ⟨i, hi⟩ := List.mem_iff_getElem?.mp hm'
  exact ⟨i, m', hi, hn', by rw [hid, ← hid', hnum facet i m' hi]⟩

end Members

namespace WrapperPlan

theorem members_ofMembers (name : String) (ms : Members) (facet : Facet) :
    (ofMembers name ms).members facet = ms.methods facet := by
  cases facet <;> rfl

/-- The id of a place names the member there. -/
theorem member?_ofIndex (name : String) {ms : Members} (fit : ms.Fit) {facet : Facet} {i : Nat}
    {m : Member} (hm : (ms.methods facet)[i]? = some m) :
    (ofMembers name ms).member? (.ofIndex facet i) = some m := by
  have hi : i < (ms.methods facet).length := (List.getElem?_eq_some_iff.mp hm).1
  rw [member?, Members.lookup_ofIndex name fit fit hi, if_pos hi, memberOf?, members_ofMembers, hm]

end WrapperPlan

end ScriptClass
