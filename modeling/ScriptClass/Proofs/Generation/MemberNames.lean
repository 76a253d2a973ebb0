import ScriptClass.Proofs.Generation.MemberIds
import ScriptClass.Proofs.Generation.Object

/-!
# Names of members and their ids

Objects of a class and its static facet name the members behind ids (`Store.keyOf?`), and
find the ids behind names (`Store.idOf?`). An id has a key if it is the constructor's or that
of a member (`WrapperPlan.keyOf?_cases`), and each facet finds its own keys again
(`Members.findId_key`). The instance side does not know the keys of the class
(`Members.findId_unknown`) unless a member of its own answers to them.

An object asks its instance side first. So every key leads back to its id
(`Generated.keys_lead_back`), except that the key of a static member leads an object to the
instance member that answers to it, if there is one.
-/

namespace ScriptClass

namespace MemberId

variable {id : MemberId}

theorem eq_constructor (h : id.isConstructor = true) : id = .constructor :=
  congrArg MemberId.mk (beq_iff_eq.mp h)

theorem isInstance_iff : id.isInstance = true ↔ id.facet? = some .instances := by
  unfold facet?
  split
  next h => exact iff_of_true h rfl
  next h =>
    refine iff_of_false h ?_
    split <;> exact nofun

theorem isStatic_iff : id.isStatic = true ↔ id.facet? = some .statics := by
  simp only [facet?, isInstance, isStatic, decide_eq_true_eq]
  by_cases hinstance : 2 ≤ id.value.toInt
  · rw [if_pos hinstance]
    constructor
    · intro hstatic
      omega
    · intro hfacet
      cases hfacet
  · simp [hinstance]

theorem isDefault_of_facet? {facet : Facet} (h : id.facet? = some facet) : id.isDefault = false := by
  refine Bool.eq_false_iff.mpr fun hdefault => ?_
  rw [show id = .default from congrArg MemberId.mk (beq_iff_eq.mp hdefault)] at h
  cases h

end MemberId

/-- The member is found under a name: the name is its key, or its bare name. -/
def Member.Answers (m : Member) (n : String) : Prop := m.key = n ∨ m.name = n

instance (m : Member) (n : String) : Decidable (m.Answers n) := instDecidableOr

/-- The name that the constructor goes by: its key, if one was written. -/
def Members.constructorKey (ms : Members) : String :=
  (ms.instances.constructor.map Member.key).getD constructorName

/-- The names of a facet that stand for the constructor, with its id. -/
def Members.constructorEntries (ms : Members) (facet : Facet) : List (String × MemberId) :=
  (ms.part facet).constructor.toList.map (fun m => (m.key, m.id)) ++
    [(constructorName, .constructor)]

namespace WrapperPlan

variable {instances statics : Option Entries} {ms : Members} {id : MemberId} {n : String}

/-- The id that an object finds for a name: the instance members come first. -/
def objectId (p : WrapperPlan) (n : String) : MemberId :=
  if (p.findId .instances n).isDefault then p.findId .statics n else p.findId .instances n

/-- An id with a key is the constructor's or that of a member. -/
theorem keyOf?_cases (name : String) (h : Members.collect instances statics = .ok ms)
    (fit : ms.Fit) (hkey : (ofMembers name ms).keyOf? id = some n) :
    id = .constructor ∧ n = ms.constructorKey ∨
      ∃ facet, id.facet? = some facet ∧ ∃ m ∈ ms.methods facet, m.id = id ∧ m.key = n := by
  unfold keyOf? at hkey
  split at hkey
  next hconstructor =>
    exact .inl ⟨MemberId.eq_constructor hconstructor, (Option.some.inj hkey).symm⟩
  next hconstructor =>
    obtain ⟨m, hm, rfl⟩ := Option.map_eq_some_iff.mp hkey
    cases hfacet : id.facet? with
    | none =>
      have hnone := (Members.ids_agree h fit name).unowned hfacet (Bool.eq_false_iff.mpr hconstructor)
      rw [hnone] at hm
      cases hm
    | some facet =>
      obtain ⟨i, hindex, hplace, hother, -⟩ := MemberId.eq_ofIndex hfacet
      rw [member?_of_facet name h fit hfacet, CollectedFacet.method?_eq
        (Members.collect_part h facet) hindex hplace hother, Members.methods_part] at hm
      refine .inr ⟨facet, rfl, m, List.mem_of_getElem? hm, ?_, rfl⟩
      rw [Members.numbered_of_collect h facet i m hm, hplace]

end WrapperPlan

namespace Members

variable {instances statics : Option Entries} {ms : Members} {facet : Facet} {m : Member}
  {n : String}

/-- The constructor's key is a key of the constructor's name. -/
theorem parse_constructorKey (h : collect instances statics = .ok ms) :
    ∃ k, MemberKey.parse ms.constructorKey = .ok k ∧ k.name = constructorName := by
  have hmirrors := CollectedFacet.mirrors_of_collect (collect_part h .instances)
  unfold constructorKey
  cases hm : ms.instances.constructor with
  | none => exact ⟨⟨constructorName, none⟩, rfl, rfl⟩
  | some m =>
    have hcallable : m ∈ (ms.part .instances).callables :=
      List.mem_append_right _ (Option.mem_toList.mpr hm)
    exact ⟨m.parsed, hmirrors.parse hcallable, hmirrors.constructor_name hm⟩

/-- The key of a member is read with a name other than the constructor's. -/
theorem parse_member (h : collect instances statics = .ok ms) (hm : m ∈ ms.methods facet) :
    MemberKey.parse m.key = .ok m.parsed ∧ m.name ≠ constructorName := by
  have hmirrors := CollectedFacet.mirrors_of_collect (collect_part h facet)
  rw [← methods_part] at hm
  exact ⟨hmirrors.parse (List.mem_append_left _ hm), (hmirrors.method_iff.mp ⟨m, hm, rfl⟩).1⟩

/-- No member has a key of the constructor. -/
theorem key_ne_constructor (h : collect instances statics = .ok ms) (hm : m ∈ ms.methods facet)
    {k : MemberKey} (hk : MemberKey.parse n = .ok k) (hname : k.name = constructorName) :
    m.key ≠ n := by
  obtain ⟨hparse, hne⟩ := parse_member h hm
  intro hkey
  rw [hkey, hk] at hparse
  exact hne ((congrArg MemberKey.name (Except.ok.inj hparse)).symm.trans hname)

theorem not_answers_constructor (h : collect instances statics = .ok ms)
    (hm : m ∈ ms.methods facet) : ¬m.Answers constructorName :=
  fun hanswers => hanswers.elim
    (key_ne_constructor (k := ⟨constructorName, none⟩) h hm rfl rfl) (parse_member h hm).2

/-- Where no member of a facet answers to a name, only the constructor may. -/
theorem findId_unanswered (name : String) (h : collect instances statics = .ok ms)
    (hnone : ∀ m ∈ ms.methods facet, ¬m.Answers n) :
    (WrapperPlan.ofMembers name ms).findId facet n =
      (((ms.constructorEntries facet).find? (·.1 == n)).map Prod.snd).getD .default := by
  have hkeys : ((ms.methods facet).map fun m => (m.key, m.id)).find? (·.1 == n) = none := by
    simp only [List.find?_eq_none, List.forall_mem_map, beq_iff_eq]
    exact fun m hm hkey => hnone m hm (.inl hkey)
  have hnames : ((ms.methods facet).map fun m => (m.name, m.id)).find? (·.1 == n) = none := by
    simp only [List.find?_eq_none, List.forall_mem_map, beq_iff_eq]
    exact fun m hm hname => hnone m hm (.inr hname)
  rw [findId_eq name h, WrapperPlan.nameEntries, List.append_assoc, List.append_assoc,
    List.find?_append, hkeys, Option.none_or, List.find?_append, hnames, Option.none_or]
  rfl

/-- The constructor is found under its key. -/
theorem findId_constructorKey (name : String) (h : collect instances statics = .ok ms) :
    (WrapperPlan.ofMembers name ms).findId .instances ms.constructorKey = .constructor := by
  have hmirrors := CollectedFacet.mirrors_of_collect (collect_part h .instances)
  unfold constructorKey
  cases hm : ms.instances.constructor with
  | none =>
    show (WrapperPlan.ofMembers name ms).findId .instances constructorName = _
    rw [findId_unanswered name h fun _ => not_answers_constructor h, constructorEntries,
      show (ms.part .instances).constructor = none from hm]
    rfl
  | some m =>
    have hcallable : m ∈ (ms.part .instances).callables :=
      List.mem_append_right _ (Option.mem_toList.mpr hm)
    exact (findId_key name h hcallable).trans (hmirrors.constructorId hm)

/-- The static side finds the constructor under its name. -/
theorem findId_statics_constructor (name : String) (h : collect instances statics = .ok ms) :
    (WrapperPlan.ofMembers name ms).findId .statics constructorName = .constructor := by
  rw [findId_unanswered name h fun _ => not_answers_constructor h, constructorEntries,
    show (ms.part .statics).constructor = none from statics_constructor h]
  rfl

/-- No id is found for a name that no callable answers to and that is not the constructor's. -/
theorem findId_default (name : String) (h : collect instances statics = .ok ms)
    (hnone : ∀ m ∈ ms.methods facet, ¬m.Answers n) (hname : n ≠ constructorName)
    (hkey : facet = .instances → n ≠ ms.constructorKey) :
    (WrapperPlan.ofMembers name ms).findId facet n = .default := by
  have hunwritten : (ms.constructorEntries facet).find? (·.1 == n) = none := by
    simp only [constructorEntries, List.find?_eq_none, List.forall_mem_append, List.forall_mem_map,
      List.forall_mem_singleton, Option.mem_toList, beq_iff_eq]
    refine ⟨fun c hc hcn => ?_, Ne.symm hname⟩
    cases facet with
    | instances =>
      refine hkey rfl ?_
      rw [constructorKey, show ms.instances.constructor = some c from hc]
      exact hcn.symm
    | statics =>
      rw [show (ms.part .statics).constructor = none from statics_constructor h] at hc
      cases hc
  rw [findId_unanswered name h hnone, hunwritten]
  rfl

/-- The instance side does not know the key of a static member. -/
theorem findId_unknown (name : String) (h : collect instances statics = .ok ms)
    (hm : m ∈ ms.methods .statics) (hnone : ∀ m' ∈ ms.methods .instances, ¬m'.Answers m.key) :
    (WrapperPlan.ofMembers name ms).findId .instances m.key = .default := by
  obtain ⟨k, hk, hname⟩ := parse_constructorKey h
  exact findId_default name h hnone
    (key_ne_constructor (k := ⟨constructorName, none⟩) h hm rfl rfl)
    (fun _ => key_ne_constructor h hm hk hname)

/-- The id of a member belongs to its facet. -/
theorem facet?_of_mem (h : collect instances statics = .ok ms) (fit : ms.Fit)
    (hm : m ∈ ms.methods facet) : m.id.facet? = some facet := by
  obtain ⟨i, hi⟩ := List.mem_iff_getElem?.mp hm
  have hid := toInt_ofIndex fit (List.getElem?_eq_some_iff.mp hi).1
  rw [← numbered_of_collect h facet i m hi] at hid
  cases facet with
  | instances =>
    have hid : m.id.value.toInt = 2 + i := hid
    exact if_pos (decide_eq_true (by omega))
  | statics =>
    have hid : m.id.value.toInt = -1 - i := hid
    exact MemberId.isStatic_iff.mp (decide_eq_true (by omega))

/-- A key leads an object back to its id, unless it is the key of a static member that an
instance member answers to. -/
theorem objectId_key (name : String) {id : MemberId} (h : collect instances statics = .ok ms)
    (fit : ms.Fit) (hkey : (WrapperPlan.ofMembers name ms).keyOf? id = some n) :
    if id.isStatic ∧ ∃ m ∈ ms.methods .instances, m.Answers n then
      ∃ m ∈ ms.methods .instances, m.Answers n ∧ m.id ≠ id ∧
        (WrapperPlan.ofMembers name ms).objectId n = m.id
    else (WrapperPlan.ofMembers name ms).objectId n = id := by
  have hinstance {m : Member} (hm : m ∈ ms.methods .instances) : m.id.isStatic ≠ true := fun h' => by
    have hid := MemberId.isStatic_iff.mp h'
    rw [facet?_of_mem h fit hm] at hid
    cases hid
  have hfirst {m : Member} (hm : m ∈ ms.methods .instances)
      (hfound : (WrapperPlan.ofMembers name ms).findId .instances n = m.id) :
      (WrapperPlan.ofMembers name ms).objectId n = m.id := by
    rw [WrapperPlan.objectId, hfound, MemberId.isDefault_of_facet? (facet?_of_mem h fit hm)]
    rfl
  rcases WrapperPlan.keyOf?_cases name h fit hkey with ⟨rfl, rfl⟩ | ⟨facet, hid, m, hm, rfl, rfl⟩
  · rw [if_neg fun h => Bool.false_ne_true h.1, WrapperPlan.objectId, findId_constructorKey name h]
    rfl
  · have hfound := findId_key name h (List.mem_append_left _ (methods_part ms facet ▸ hm))
    cases facet with
    | instances =>
      rw [if_neg fun h => hinstance hm h.1]
      exact hfirst hm hfound
    | statics =>
      have hstatic : m.id.isStatic = true := MemberId.isStatic_iff.mpr hid
      by_cases hhidden : ∃ m' ∈ ms.methods .instances, m'.Answers m.key
      · obtain ⟨m', hm', hanswers⟩ := hhidden
        obtain ⟨i, first, hi, hanswers', hlead⟩ :=
          findId_member name (numbered_of_collect h) hm' hanswers.symm
        have hmem := List.mem_of_getElem? hi
        rw [← numbered_of_collect h _ i first hi] at hlead
        rw [if_pos ⟨hstatic, m', hm', hanswers⟩]
        exact ⟨first, hmem, hanswers'.symm, fun heq => hinstance hmem (heq ▸ hstatic),
          hfirst hmem hlead⟩
      · have hnone : ∀ m' ∈ ms.methods .instances, ¬m'.Answers m.key :=
          fun m' hm' hanswers => hhidden ⟨m', hm', hanswers⟩
        rw [if_neg fun h => hhidden h.2, WrapperPlan.objectId, findId_unknown name h hm hnone]
        exact hfound

/-- The static side leads the key of an id that is no instance member's back to it, as long as
a constructor goes by its bare name. -/
theorem staticId_key (name : String) {id : MemberId} (h : collect instances statics = .ok ms)
    (fit : ms.Fit) (hkey : (WrapperPlan.ofMembers name ms).keyOf? id = some n)
    (hid : id.isInstance = false) (hconstructor : id = .constructor → n = constructorName) :
    (WrapperPlan.ofMembers name ms).findId .statics n = id := by
  rcases WrapperPlan.keyOf?_cases name h fit hkey with ⟨rfl, -⟩ | ⟨facet, -, m, hm, rfl, rfl⟩
  · rw [hconstructor rfl, findId_statics_constructor name h]
  · cases facet with
    | instances =>
      have hfacet := facet?_of_mem h fit hm
      rw [MemberId.facet?, hid, if_neg Bool.false_ne_true] at hfacet
      split at hfacet <;> cases hfacet
    | statics => exact findId_key name h (List.mem_append_left _ hm)

end Members

theorem Store.idOf?_pair {s : Store} {p : Pair} {c : Wrapper} (hc : s.wrapper? p.wrapper = some c)
    (n : String) : s.idOf? (.pair p) n = some (c.plan.objectId n) := by
  rw [idOf?, hc]
  rfl

namespace Generated

variable {base : HostType} {interfaces : List HostType} {instances : Option Entries} {ms : Members}
  {l : LoadedClass} {s : Store} {id : MemberId} {n : String}

/-- Every object of the class and its static facet read names and ids off one plan. -/
theorem plan (h : Generated base interfaces instances ms l s) : ∃ c name statics,
    s.wrapper? l.wrapper = some c ∧ c.plan = .ofMembers name ms ∧
      Members.collect instances statics = .ok ms := by
  obtain ⟨c, hc, ⟨name, hplan⟩, -⟩ := h.wrapper
  obtain ⟨hcollect, -, -, -⟩ := h
  exact ⟨c, name, _, hc, hplan, hcollect⟩

/-- A key leads an object and the static facet of a class back to the id that it was read
from, as long as the constructor of a static facet goes by its bare name. The key of a static
member that instance members answer to leads an object to one of those. -/
theorem keys_lead_back (h : Generated base interfaces instances ms l s) :
    (∀ p : Pair, p.wrapper = l.wrapper → s.keyOf? (.pair p) id = some n →
      if id.isStatic ∧ ∃ m ∈ ms.methods .instances, m.Answers n then
        ∃ m ∈ ms.methods .instances, m.Answers n ∧ m.id ≠ id ∧ s.idOf? (.pair p) n = some m.id
      else s.idOf? (.pair p) n = some id) ∧
    ∀ f : StaticFacet, f.wrapper = l.wrapper → s.keyOf? (.facet f) id = some n →
      (id = .constructor → n = constructorName) → s.idOf? (.facet f) n = some id := by
  obtain ⟨c, name, statics, hc, hplan, hcollect⟩ := h.plan
  constructor
  · intro p hp hkey
    rw [Store.keyOf?, hp, hc, Option.bind_some, hplan] at hkey
    simp only [Store.idOf?_pair (hp ▸ hc), hplan, Option.some.injEq]
    exact Members.objectId_key name hcollect h.fit hkey
  · intro f hf hkey hconstructor
    rw [Store.idOf?, hf, hc, Option.map_some, hplan]
    rw [Store.keyOf?, hf, hc, Option.bind_some, hplan] at hkey
    split at hkey
    · cases hkey
    next hid =>
      rw [Members.staticId_key name hcollect h.fit hkey (Bool.eq_false_iff.mpr hid) hconstructor]

end Generated

namespace Sample

/-- A function of one name in each half. -/
def runner : ClassRequest where
  instances := some [("run", .function ⟨0, none, none⟩)]
  statics := some [("run", .function ⟨1, none, none⟩)]
  name := some "Runner"

/-- The members of `runner`. -/
def runnerMembers : Members where
  instances := ⟨.instances, [], [⟨"run", ⟨"run", none⟩, ⟨2⟩, ⟨0, none, none⟩⟩], none⟩
  statics := ⟨.statics, [], [⟨"run", ⟨"run", none⟩, ⟨-1⟩, ⟨1, none, none⟩⟩], none⟩

theorem collect_runner : Members.collect runner.instances runner.statics = .ok runnerMembers := rfl

end Sample

set_option maxRecDepth 10000 in
open Sample in
/-- The static facet of a runner finds the static `run`, an object the other one. -/
theorem runner_keys_lead_back : ∃ f p s, object (speaking ["run of objects", "run of Runner"])
    runner = some (f, p, s) ∧ s.keyOf? (.facet f) ⟨-1⟩ = some "run" ∧
      s.idOf? (.facet f) "run" = some ⟨-1⟩ ∧ s.keyOf? (.pair p) ⟨-1⟩ = some "run" ∧
      ∃ m ∈ runnerMembers.methods .instances, m.Answers "run" ∧ m.id ≠ ⟨-1⟩ ∧
        s.idOf? (.pair p) "run" = some m.id := by
  have h : (object (speaking ["run of objects", "run of Runner"]) runner).any (fun (f, p, s) =>
      s.keyOf? (.facet f) ⟨-1⟩ = some "run" ∧ s.keyOf? (.pair p) ⟨-1⟩ = some "run") = true := by
    decide +kernel
  obtain ⟨⟨f, p, s⟩, ho, h⟩ := (Option.any_eq_true _ _).mp h
  obtain ⟨hfacet, hpair⟩ := of_decide_eq_true h
  obtain ⟨s₀, hgen, hp, hlater⟩ := object_some ho
  obtain ⟨ms, hms, hclass⟩ := generate_ok hgen
  rw [collect_runner] at hms
  cases hms
  have hclass := hclass ⟨by decide, by decide⟩
  have hpairs := (hclass.later hlater).keys_lead_back.1 p (hclass.isOf_of_construct hp).2 hpair
  rw [if_pos ⟨by decide, _, List.mem_singleton_self _, .inl rfl⟩] at hpairs
  exact ⟨f, p, s, ho, hfacet, (hclass.later hlater).keys_lead_back.2 f rfl hfacet nofun, hpair,
    hpairs⟩

set_option maxRecDepth 10000 in
open Sample in
/-- An object names a static member that it does not find under that name. -/
theorem static_key_hidden : ∃ f p s, object (speaking ["run of objects", "run of Runner"]) runner =
    some (f, p, s) ∧ p.IsOf f ∧ s.keyOf? (.pair p) ⟨-1⟩ = some "run" ∧
      s.idOf? (.pair p) "run" = some ⟨2⟩ := by
  have h : (object (speaking ["run of objects", "run of Runner"]) runner).any (fun (_, p, s) =>
      s.keyOf? (.pair p) ⟨-1⟩ = some "run") = true := by decide +kernel
  obtain ⟨⟨f, p, s⟩, ho, h⟩ := (Option.any_eq_true _ _).mp h
  have hkey := of_decide_eq_true h
  obtain ⟨s₀, hgen, hp, hlater⟩ := object_some ho
  obtain ⟨ms, hms, hclass⟩ := generate_ok hgen
  rw [collect_runner] at hms
  cases hms
  have hclass := hclass ⟨by decide, by decide⟩
  have hobject := hclass.isOf_of_construct hp
  obtain ⟨c, name, statics, hc, hplan, hcollect⟩ := (hclass.later hlater).plan
  have hrun : (⟨"run", ⟨"run", none⟩, ⟨2⟩, ⟨0, none, none⟩⟩ : Member) ∈
      (runnerMembers.part .instances).callables := List.mem_singleton_self _
  have hfound : c.plan.findId .instances "run" = ⟨2⟩ := by
    rw [hplan, Members.findId_key name hcollect hrun]
  refine ⟨f, p, s, ho, hobject, hkey, ?_⟩
  rw [Store.idOf?_pair (hobject.2 ▸ hc), WrapperPlan.objectId, hfound]
  rfl

end ScriptClass
