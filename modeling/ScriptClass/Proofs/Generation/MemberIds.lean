import ScriptClass.Proofs.Generation.WrapperPlan
import ScriptClass.Proofs.Member.Acceptance
import ScriptClass.Proofs.Member.Key

/-!
# One numbering, read in many ways

Members are numbered once, when they are collected. Their ids are then read by the
collected facets, by the handler table, by the name indexes and by the lists of overloads.
All of them agree (`Members.ids_agree`): an id is read as the same member everywhere, no
handler leads beyond the members, and a key leads to the id of its member.

An id is the default, the constructor's or that of one place of one facet
(`MemberId.eq_ofIndex`, `MemberId.unowned_iff`). The key of a constructor is never the name
of a method, for a name holds no parenthesis (`Member.key_ne_name`).
-/

namespace ScriptClass

namespace MemberId

variable {id : MemberId} {facet : Facet}

/-- The id of a facet is that of one of its places, as far as ids of 32 bits go. -/
theorem eq_ofIndex (h : id.facet? = some facet) :
    ∃ i, id.index? facet = some i ∧ id = ofIndex facet i ∧ id.isConstructor = false ∧
      match facet with
      | .instances => i + 2 < 2 ^ 31
      | .statics => i < 2 ^ 31 := by
  have hlow := id.value.le_toInt
  have hhigh := id.value.toInt_lt
  have hplace (n : Int) (hn : n = id.value.toInt) : id = ⟨Int32.ofInt n⟩ := by
    rw [hn, Int32.ofInt_toInt]
  have hconstructor (h : id.value.toInt ≠ 1) : id.isConstructor = false :=
    beq_false_of_ne fun e => h (congrArg Int32.toInt e)
  unfold facet? at h
  split at h
  next hinstance =>
    cases h
    have hge : 2 ≤ id.value.toInt := by simpa [isInstance] using hinstance
    have hdistance : 0 ≤ id.value.toInt - 2 := by omega
    refine ⟨(id.value.toInt - 2).toNat, if_pos hdistance, hplace _ (by omega),
      hconstructor (by omega), ?_⟩
    show (id.value.toInt - 2).toNat + 2 < 2 ^ 31
    omega
  next =>
    split at h
    next hstatic =>
      cases h
      have hlt : id.value.toInt < 0 := by simpa [isStatic] using hstatic
      have hdistance : 0 ≤ -1 - id.value.toInt := by omega
      refine ⟨(-1 - id.value.toInt).toNat, if_pos hdistance, hplace _ (by omega),
        hconstructor (by omega), ?_⟩
      show (-1 - id.value.toInt).toNat < 2 ^ 31
      omega
    next => cases h

/-- Two ids belong to no facet. -/
theorem unowned_iff : id.facet? = none ↔ id = .default ∨ id = .constructor := by
  have hid (other : MemberId) : id = other ↔ id.value.toInt = other.value.toInt := by
    rw [Int32.toInt_inj]
    exact ⟨fun h => h ▸ rfl, fun h => congrArg MemberId.mk h⟩
  have hnone : id.facet? = none ↔ ¬2 ≤ id.value.toInt ∧ ¬id.value.toInt < 0 := by
    simp only [facet?, isInstance, isStatic, decide_eq_true_eq]
    by_cases hinstance : 2 ≤ id.value.toInt
    · simp [hinstance]
    · simp [hinstance]
  rw [hnone, hid, hid, show default.value.toInt = 0 from rfl,
    show constructor.value.toInt = 1 from rfl]
  omega

end MemberId

/-- The key of a constructor is not the name of a method. -/
theorem MemberKey.key_ne_name {j k : MemberKey} {key : String} (hk : parse key = .ok k)
    (hconstructor : k.name = constructorName) (hj : j.WellFormed) (hname : j.name ≠ constructorName) :
    key ≠ j.name := by
  obtain ⟨-, rfl⟩ := parse_ok.mp hk
  obtain ⟨name, signature⟩ := k
  cases signature with
  | none => exact fun h => hname (h.symm.trans hconstructor)
  | some s =>
    intro h
    have hopen := (validName_iff.mp hj.name).1
    rw [← h, toList_display_some] at hopen
    exact hopen (List.mem_append_right _ List.mem_cons_self)

namespace Entry

/-- Whether the entry is a function of this name. -/
def isNamed (name : String) (e : Entry) : Bool := e.key?.any (·.name == name)

theorem isConstructor_of_isMethod {e : Entry} (h : e.isMethod = true) :
    e.isConstructor = false := by
  rw [isMethod] at h
  rw [isConstructor]
  cases hk : e.key? with
  | none => rfl
  | some k => simpa [hk] using h

end Entry

namespace CollectedFacet

variable {facet : Facet} {entries : Option Entries} {ms : CollectedFacet} {m : Member}

theorem Mirrors.parse {done : Entries} (h : Mirrors facet done ms) (hm : m ∈ ms.callables) :
    MemberKey.parse m.key = .ok m.parsed :=
  (Entry.key?_function (e := m.entry) rfl).mp (h.key hm)

theorem Mirrors.constructor_name {done : Entries} (h : Mirrors facet done ms)
    (hm : ms.constructor = some m) : m.name = constructorName := by
  have hmem : m ∈ ms.constructor.toList := by simp [hm]
  have hentry := h.constructor ▸ List.mem_map_of_mem (f := Member.entry) hmem
  exact (Entry.isConstructor_iff (h.key (List.mem_append_right _ hmem))).mp
    (List.mem_filter.mp hentry).2

/-- No two callables have one key, whether they are methods or the constructor. -/
theorem keys_distinct (h : collect facet entries = .ok ms) :
    ms.callables.Pairwise fun m m' => m.key ≠ m'.key := by
  have hmirrors := mirrors_of_collect h
  have hacceptable := collects_iff_acceptable.mp ⟨ms, h⟩
  have hdistinct : (entries.getD []).Pairwise fun d e => d.1 ≠ e.1 :=
    List.pairwise_map.mp hacceptable.distinct
  have hentries : (ms.callables.map Member.entry).Pairwise fun d e => d.1 ≠ e.1 := by
    rw [hmirrors.callables_entry, List.pairwise_append]
    refine ⟨hdistinct.filter _, hdistinct.filter _, fun d hd e he => ?_⟩
    obtain ⟨hd, hmethod⟩ := List.mem_filter.mp hd
    obtain ⟨he, hconstructor⟩ := List.mem_filter.mp he
    have hne : d ≠ e := by
      rintro rfl
      rw [Entry.isConstructor_of_isMethod hmethod] at hconstructor
      cases hconstructor
    have : Std.Symm fun d e : Entry => d.1 ≠ e.1 := ⟨fun _ _ => Ne.symm⟩
    exact hdistinct.forall hd he hne
  exact (List.pairwise_map.mp hentries).imp fun hne => hne

theorem keyId?_key (h : collect facet entries = .ok ms) (hm : m ∈ ms.callables) :
    ms.keyId? m.key = some m.id := by
  rw [keyId?, find?_of_pairwise Member.key (keys_distinct h) hm]
  rfl

/-- The overloads of a name are the functions of that name, the constructor apart, in the
order written. -/
theorem overloads_eq (h : collect facet entries = .ok ms) (name : String) :
    ms.overloads name = ((entries.getD []).filter fun e =>
      Entry.isNamed name e && Entry.isMethod e).filterMap fun e => ms.keyId? e.1 := by
  have hmirrors := mirrors_of_collect h
  have hwritten : (ms.named name).map Member.entry = (entries.getD []).filter fun e =>
      Entry.isNamed name e && Entry.isMethod e := by
    rw [← List.filter_filter, ← hmirrors.methods, List.filter_map]
    congr 1
    refine List.filter_congr fun m hm => ?_
    rw [Function.comp_apply, Entry.isNamed, hmirrors.key (List.mem_append_left _ hm)]
    rfl
  rw [← hwritten, List.filterMap_map, overloads, ← List.filterMap_eq_map]
  refine List.filterMap_congr fun m hm => ?_
  exact (keyId?_key h (List.mem_append_left _ (List.mem_filter.mp hm).1)).symm

/-- The callable of an id is the one at the place that the id stands for. -/
theorem method?_eq (h : collect facet entries = .ok ms) {id : MemberId} {i : Nat}
    (hindex : id.index? facet = some i) (hplace : id = .ofIndex facet i)
    (hconstructor : id.isConstructor = false) : ms.method? id = ms.methods[i]? := by
  have hcollected := collect_ok h
  rw [method?, hconstructor, if_neg Bool.false_ne_true, hcollected.facet_eq, hindex,
    Option.bind_some]
  cases hm : ms.methods[i]? with
  | none => rfl
  | some m =>
    have hid : (m.id == id) = true := beq_iff_eq.mpr ((hcollected.id hm).trans hplace.symm)
    rw [Option.filter_some, hid, if_pos rfl]

end CollectedFacet

namespace Members

variable {instances statics : Option Entries} {ms : Members} {facet : Facet} {m : Member}

/-- What was collected from a facet. -/
def part (ms : Members) : Facet → CollectedFacet
  | .instances => ms.instances
  | .statics => ms.statics

/-- What a facet is collected from. -/
def given (instances statics : Option Entries) : Facet → Option Entries
  | .instances => instances
  | .statics => statics

theorem methods_part (ms : Members) (facet : Facet) : (ms.part facet).methods = ms.methods facet := by
  cases facet <;> rfl

theorem collect_part (h : collect instances statics = .ok ms) (facet : Facet) :
    CollectedFacet.collect facet (given instances statics facet) = .ok (ms.part facet) := by
  cases facet with
  | instances => exact (collect_ok h).1
  | statics => exact (collect_ok h).2

/-- The static facet has no constructor. -/
theorem statics_constructor (h : collect instances statics = .ok ms) :
    ms.statics.constructor = none := by
  have hmirrors := CollectedFacet.mirrors_of_collect (collect_ok h).2
  refine hmirrors.constructor_none_iff.mpr fun d hd => Bool.eq_false_iff.mpr fun hconstructor => ?_
  cases (hmirrors.admissible d hd).facet hconstructor

theorem findId_eq (name : String) (h : collect instances statics = .ok ms) (facet : Facet)
    (n : String) : (WrapperPlan.ofMembers name ms).findId facet n =
      (((WrapperPlan.nameEntries (ms.methods facet) (ms.part facet).constructor).find?
        (·.1 == n)).map Prod.snd).getD .default := by
  cases facet with
  | instances => exact NameIndex.findWith_buildWith _ _ n
  | statics =>
    have hnone : (ms.part .statics).constructor = none := statics_constructor h
    rw [hnone]
    exact NameIndex.findWith_buildWith _ _ n

/-- The key of a callable leads to its id. -/
theorem findId_key (name : String) (h : collect instances statics = .ok ms)
    (hm : m ∈ (ms.part facet).callables) :
    (WrapperPlan.ofMembers name ms).findId facet m.key = m.id := by
  have hcollect := collect_part h facet
  have hmirrors := CollectedFacet.mirrors_of_collect hcollect
  obtain ⟨hmethods, -, hcross⟩ := List.pairwise_append.mp (CollectedFacet.keys_distinct hcollect)
  rw [findId_eq name h, ← methods_part]
  rcases List.mem_append.mp hm with hm | hconstructor
  · -- The keys of the methods come first.
    have hfirst : ((ms.part facet).methods.map fun m => (m.key, m.id)).find? (·.1 == m.key) =
        some (m.key, m.id) := by
      rw [List.find?_map]
      show ((ms.part facet).methods.find? (Member.key · == m.key)).map _ = _
      rw [find?_of_pairwise Member.key hmethods hm]
      rfl
    rw [WrapperPlan.nameEntries, List.append_assoc, List.append_assoc, List.find?_append, hfirst]
    rfl
  · -- No method has this key, nor its text as a name: names hold no parenthesis.
    have hsome : (ms.part facet).constructor = some m := by simpa using hconstructor
    have hkeys : ((ms.part facet).methods.map fun m => (m.key, m.id)).find? (·.1 == m.key) =
        none := by
      simp only [List.find?_eq_none, List.forall_mem_map, beq_iff_eq]
      exact fun m' hm' => hcross m' hm' m hconstructor
    have hnames : ((ms.part facet).methods.map fun m => (m.name, m.id)).find? (·.1 == m.key) =
        none := by
      simp only [List.find?_eq_none, List.forall_mem_map, beq_iff_eq]
      intro m' hm'
      have hparse := hmirrors.parse (List.mem_append_left _ hm')
      exact (MemberKey.key_ne_name (hmirrors.parse hm) (hmirrors.constructor_name hsome)
        (MemberKey.parse_ok.mp hparse).1 (hmirrors.method_iff.mp ⟨m', hm', rfl⟩).1).symm
    rw [WrapperPlan.nameEntries, List.append_assoc, List.append_assoc, List.find?_append, hkeys,
      Option.none_or, List.find?_append, hnames, Option.none_or, hsome, Option.toList_some,
      List.map_singleton, List.singleton_append, List.find?_cons, beq_self_eq_true]
    rfl

end Members

namespace HandlerTable

variable {statics instances : Nat}

/-- A handler of a member is one of the members counted. -/
theorem member_lt {facet : Facet} {i : Nat}
    (h : Handler.member facet i ∈ (ofCounts statics instances).handlers) :
    i < match facet with
      | .instances => instances
      | .statics => statics := by
  simp only [ofCounts, List.mem_append, List.mem_map, List.mem_reverse, List.mem_range,
    List.mem_cons, List.not_mem_nil, or_false, reduceCtorEq, Handler.member.injEq] at h
  rcases h with ⟨j, hj, rfl, rfl⟩ | ⟨j, hj, rfl, rfl⟩ <;> exact hj

theorem lookup_mem (t : HandlerTable) (id : MemberId) :
    t.lookup id = .default ∨ t.lookup id ∈ t.handlers := by
  simp only [lookup]
  split
  · exact .inl rfl
  · cases hplace : t.handlers[(id.value.toInt - t.firstId.value.toInt).toNat]? with
    | none => exact .inl rfl
    | some handler => exact .inr (List.mem_of_getElem? hplace)

end HandlerTable

namespace WrapperPlan

variable {instances statics : Option Entries} {ms : Members} {facet : Facet}

/-- The handler leads to a member that there is. -/
def InBounds (p : WrapperPlan) (handler : Handler) : Prop :=
  ∀ facet i, handler = .member facet i → i < (p.members facet).length

theorem inBounds_of_mem (name : String) {handler : Handler}
    (h : handler ∈ (ofMembers name ms).handlers.handlers) :
    (ofMembers name ms).InBounds handler := by
  rintro facet i rfl
  have hlt := HandlerTable.member_lt h
  cases facet <;> exact hlt

theorem inBounds_lookup (name : String) (id : MemberId) :
    (ofMembers name ms).InBounds ((ofMembers name ms).handlers.lookup id) := by
  rcases (ofMembers name ms).handlers.lookup_mem id with hdefault | hmem
  · rw [hdefault]
    exact nofun
  · exact inBounds_of_mem name hmem

/-- An id of a facet is dispatched to the member that was collected under it. -/
theorem member?_of_facet (name : String) (h : Members.collect instances statics = .ok ms)
    (fit : ms.Fit) {id : MemberId} (hid : id.facet? = some facet) :
    (ofMembers name ms).member? id = (ms.part facet).method? id := by
  obtain ⟨i, hindex, hplace, hconstructor, hbound⟩ := MemberId.eq_ofIndex hid
  have hlookup : (ofMembers name ms).handlers.lookup id =
      if i < (ms.methods facet).length then .member facet i else .default := by
    rw [hplace]
    cases facet with
    | instances => exact HandlerTable.lookup_instances fit hbound
    | statics => exact HandlerTable.lookup_statics fit hbound
  rw [CollectedFacet.method?_eq (Members.collect_part h facet) hindex hplace hconstructor,
    Members.methods_part, member?, hlookup]
  split
  next => rw [memberOf?, members_ofMembers]
  next hge => exact (List.getElem?_eq_none (Nat.le_of_not_lt hge)).symm

end WrapperPlan

namespace Members

/-- The facets and the plan of a wrapper read ids alike. -/
structure IdsAgree (entries : Facet → Entries) (ms : Members) (p : WrapperPlan) : Prop where
  instanceId {i : Nat} {m : Member} : ms.instances.methods[i]? = some m →
    m.id.value.toInt = 2 + i
  staticId {i : Nat} {m : Member} : ms.statics.methods[i]? = some m →
    m.id.value.toInt = -1 - i
  /-- The id of a facet is read as the callable that the facet has under it. -/
  owned {id : MemberId} {facet : Facet} : id.facet? = some facet →
    p.member? id = (ms.part facet).method? id
  constructor : p.member? .constructor = ms.instances.constructor
  constructorId {m : Member} : ms.instances.constructor = some m → m.id = .constructor
  unowned {id : MemberId} : id.facet? = none → id.isConstructor = false → p.member? id = none
  /-- Neither the table, nor a dispatch, nor the listing leads beyond the members. -/
  inBounds {handler : Handler} : handler ∈ p.handlers.handlers → p.InBounds handler
  dispatch (id : MemberId) : p.InBounds (p.handlers.lookup id)
  listing {line : MemberId × Handler} : line ∈ p.handlers.toList → p.InBounds line.2
  /-- The key of a callable, the constructor's among them, is read as its id. -/
  key {facet : Facet} {m : Member} : m ∈ (ms.part facet).callables →
    (ms.part facet).keyId? m.key = some m.id ∧ p.findId facet m.key = m.id
  /-- The overloads of a name are its functions in the order written, but no constructor. -/
  overloads (facet : Facet) (name : String) : (ms.part facet).overloads name =
    ((entries facet).filter fun e => Entry.isNamed name e && Entry.isMethod e).filterMap
      fun e => (ms.part facet).keyId? e.1

/-- Facets that were collected and the plan made of them agree on ids, as long as the ids fit
into 32 bits. -/
theorem ids_agree {instances statics : Option Entries} {ms : Members}
    (h : collect instances statics = .ok ms) (fit : ms.Fit) (name : String) :
    ms.IdsAgree (fun facet => (given instances statics facet).getD [])
      (WrapperPlan.ofMembers name ms) where
  instanceId {i m} hm := by
    have hlt : i < (ms.methods .instances).length := (List.getElem?_eq_some_iff.mp hm).1
    rw [numbered_of_collect h .instances i m hm, toInt_ofIndex fit hlt]
  staticId {i m} hm := by
    have hlt : i < (ms.methods .statics).length := (List.getElem?_eq_some_iff.mp hm).1
    rw [numbered_of_collect h .statics i m hm, toInt_ofIndex fit hlt]
  owned := WrapperPlan.member?_of_facet name h fit
  constructor := by
    rw [WrapperPlan.member?]
    show WrapperPlan.memberOf? _ ((HandlerTable.ofCounts _ _).lookup _) = _
    rw [HandlerTable.lookup_constructor fit]
    rfl
  constructorId := (CollectedFacet.mirrors_of_collect (collect_part h .instances)).constructorId
  unowned {id} hid hconstructor := by
    obtain rfl : id = .default := (MemberId.unowned_iff.mp hid).resolve_right fun e => by
      rw [e] at hconstructor
      cases hconstructor
    rw [WrapperPlan.member?]
    show WrapperPlan.memberOf? _ ((HandlerTable.ofCounts _ _).lookup _) = _
    rw [HandlerTable.lookup_default fit]
    rfl
  inBounds := WrapperPlan.inBounds_of_mem name
  dispatch := WrapperPlan.inBounds_lookup name
  listing {line} hline := by
    obtain ⟨⟨handler, place⟩, hplace, rfl⟩ := List.mem_map.mp hline
    exact WrapperPlan.inBounds_of_mem name (List.fst_mem_of_mem_zipIdx hplace)
  key hm := ⟨CollectedFacet.keyId?_key (collect_part h _) hm, findId_key name h hm⟩
  overloads facet n := CollectedFacet.overloads_eq (collect_part h facet) n

/-- A constructor and a method beside a static method. -/
theorem sample_ids_agree : ∃ ms, collect (some CollectedFacet.sampleEntries)
    (some [("make", .function ⟨2, none, none⟩)]) = .ok ms ∧ ms.Fit ∧
    ms.IdsAgree (fun facet => (given (some CollectedFacet.sampleEntries)
      (some [("make", .function ⟨2, none, none⟩)]) facet).getD []) (.ofMembers "Sample" ms) := by
  have counts : FitIds 1 1 := ⟨by decide, by decide⟩
  obtain ⟨ms, hcollect, fit⟩ : ∃ ms, collect (some CollectedFacet.sampleEntries)
      (some [("make", .function ⟨2, none, none⟩)]) = .ok ms ∧ ms.Fit := ⟨_, rfl, counts⟩
  exact ⟨ms, hcollect, fit, ids_agree hcollect fit "Sample"⟩

/-- A constructor is a callable of its name and none of the overloads. -/
theorem overloads_omit_constructor : ∃ ms,
    collect (some [("constructor", .function ⟨0, none, none⟩)]) none = .ok ms ∧ ms.Fit ∧
      (ms.instances.callables.filter (·.name == "constructor")).map Member.id = [.constructor] ∧
      ms.instances.overloads "constructor" = [] :=
  have fit : FitIds 0 0 := ⟨by decide, by decide⟩
  ⟨_, rfl, fit, rfl, rfl⟩

end Members

end ScriptClass
