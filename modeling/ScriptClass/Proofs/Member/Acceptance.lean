import ScriptClass.Proofs.Member.Collection
import Mathlib.Data.List.Pairwise
import Mathlib.Data.List.Perm.Basic

/-!
# Which entries are collected

An entry is refused for what it is (`Entry.Admissible`) or for an entry before it
(`Entry.Compatible`), and it does not matter which of the two comes first. A facet mirrors
the entries that it was collected from (`CollectedFacet.Mirrors`), so the checks against
the facet are checks against the entries before (`Mirrors.adds_iff`). One entry keeps this
(`Mirrors.step`), hence a list of entries is collected exactly if each is admissible and any
two are compatible (`Mirrors.run`).

`Entries.Acceptable` says the same as conditions on keys, names and signatures.
-/

namespace ScriptClass

/-- The key and the value of an entry, as written. -/
abbrev Entry := String × ScriptValue

/-- Keys of one name that tell no two callables apart: both are untyped, or both are typed
and fill one slot. -/
def MemberKey.Ambiguous (j k : MemberKey) : Prop :=
  j.name = k.name ∧
    match j.signature, k.signature with
    | none, none => True
    | some a, some b => a.slot = b.slot
    | _, _ => False

theorem MemberKey.Ambiguous.symm {j k : MemberKey} (h : j.Ambiguous k) : k.Ambiguous j := by
  obtain ⟨name, _ | a⟩ := j <;> obtain ⟨name', _ | b⟩ := k
  · exact ⟨h.1.symm, trivial⟩
  · exact h.2.elim
  · exact h.2.elim
  · exact ⟨h.1.symm, h.2.symm⟩

namespace Entry

variable {d e : Entry} {facet : Facet} {k : MemberKey}

/-- Whether the entry is data: its value is no function. -/
def isData (e : Entry) : Bool := e.2.function?.isNone

/-- The key of a function, as read. -/
def key? (e : Entry) : Option MemberKey :=
  if e.isData then none else (MemberKey.parse e.1).toOption

/-- Whether the entry is a function under the constructor's name. -/
def isConstructor (e : Entry) : Bool := e.key?.any (·.name == constructorName)

/-- Whether the entry is a function under another name. -/
def isMethod (e : Entry) : Bool := e.key?.any (·.name != constructorName)

/-- The keys that data may not have: the constructor's name, and what starts like one of
its typed keys. -/
def Reserved (key : String) : Prop :=
  key = constructorName ∨ "constructor(".toList <+: key.toList

/-- The entry can be collected on its own. -/
structure Admissible (facet : Facet) (e : Entry) : Prop where
  readable : e.isData = false → ∃ k, e.key? = some k
  unreserved : e.isData = true → ¬Reserved e.1
  facet : e.isConstructor = true → facet = .instances

/-- The entries can be collected together. -/
structure Compatible (d e : Entry) : Prop where
  distinct : d.1 ≠ e.1
  nameAfter : d.isData = true → ∀ k, e.key? = some k → d.1 ≠ k.name
  nameBefore : e.isData = true → ∀ k, d.key? = some k → e.1 ≠ k.name
  constructors : d.isConstructor = true → e.isConstructor = false
  unambiguous : ∀ j k, d.key? = some j → e.key? = some k → j.name ≠ constructorName →
    ¬j.Ambiguous k

theorem Compatible.symm (h : d.Compatible e) : e.Compatible d where
  distinct := h.distinct.symm
  nameAfter := h.nameBefore
  nameBefore := h.nameAfter
  constructors he := Bool.eq_false_iff.mpr fun hd => Bool.eq_false_iff.mp (h.constructors hd) he
  unambiguous j k hj hk hname hambiguous :=
    h.unambiguous k j hk hj (hambiguous.1 ▸ hname) hambiguous.symm

instance : Std.Symm Compatible := ⟨fun _ _ => Compatible.symm⟩

theorem key?_data (h : e.isData = true) : e.key? = none := if_pos h

theorem key?_function (h : e.isData = false) : e.key? = some k ↔ MemberKey.parse e.1 = .ok k := by
  rw [key?, h, if_neg Bool.false_ne_true]
  cases MemberKey.parse e.1 <;> simp [Except.toOption]

theorem isReserved_iff {key : String} :
    (key == constructorName || "constructor(".toList.isPrefixOf key.toList) = true ↔
      Reserved key := by
  rw [Bool.or_eq_true, beq_iff_eq, List.isPrefixOf_iff_prefix]
  rfl

theorem isData_of_key? (h : e.key? = some k) : e.isData = false := by
  by_contra hdata
  rw [key?_data (Bool.not_eq_false _ ▸ hdata)] at h
  cases h

theorem isConstructor_data (h : e.isData = true) : e.isConstructor = false := by
  rw [isConstructor, key?_data h]
  rfl

theorem isMethod_data (h : e.isData = true) : e.isMethod = false := by
  rw [isMethod, key?_data h]
  rfl

theorem isConstructor_iff (h : e.key? = some k) :
    e.isConstructor = true ↔ k.name = constructorName := by
  rw [isConstructor, h, Option.any_some, beq_iff_eq]

theorem isMethod_iff (h : e.key? = some k) : e.isMethod = true ↔ k.name ≠ constructorName := by
  rw [isMethod, h, Option.any_some, bne_iff_ne]

/-- At most one of the entries is a constructor if no two of them are. -/
theorem countP_isConstructor_le_one {entries : Entries} :
    entries.countP isConstructor ≤ 1 ↔
      entries.Pairwise fun d e => isConstructor d = true → isConstructor e = false := by
  induction entries with
  | nil => simp
  | cons d entries ih =>
    rw [List.pairwise_cons, ← ih, List.countP_cons]
    by_cases hd : isConstructor d = true
    · have hnone : entries.countP isConstructor = 0 ↔ ∀ e ∈ entries, isConstructor e = false := by
        simp only [List.countP_eq_zero, Bool.not_eq_true]
      simp only [hd, if_true, true_implies, ← hnone]
      constructor <;> omega
    · simp [hd]

end Entry

/-- The entries that a facet is collected from. -/
structure Entries.Acceptable (facet : Facet) (entries : Entries) : Prop where
  /-- All keys are distinct. -/
  distinct : (entries.map Prod.fst).Nodup
  /-- The key of a function can be read. -/
  readable : ∀ e ∈ entries, Entry.isData e = false → ∃ k, MemberKey.parse e.1 = .ok k
  /-- No data has the constructor's name or a key that starts like one of its typed keys. -/
  unreserved : ∀ e ∈ entries, Entry.isData e = true → ¬Entry.Reserved e.1
  /-- No data has the name of a function. -/
  apart : ∀ d ∈ entries, Entry.isData d = true → ∀ e ∈ entries, ∀ k, Entry.key? e = some k →
    d.1 ≠ k.name
  /-- No two functions of one name, the constructors apart, are both untyped or both typed
  with one slot. -/
  unambiguous : entries.Pairwise fun d e => ∀ j k, Entry.key? d = some j → Entry.key? e = some k →
    j.name ≠ constructorName → ¬j.Ambiguous k
  /-- The instance facet has at most one constructor, the static facet none. -/
  constructors : entries.countP Entry.isConstructor ≤
    match facet with
    | .instances => 1
    | .statics => 0

open Entry in
/-- What is acceptable is acceptable entry by entry and pair by pair. -/
theorem Entries.acceptable_iff {facet : Facet} {entries : Entries} :
    entries.Acceptable facet ↔
      (∀ e ∈ entries, Admissible facet e) ∧ entries.Pairwise Compatible := by
  constructor
  · intro h
    refine ⟨fun e he => ⟨fun hfunction => ?_, h.unreserved e he, fun hconstructor => ?_⟩, ?_⟩
    · obtain ⟨k, hk⟩ := h.readable e he hfunction
      exact ⟨k, (key?_function hfunction).mpr hk⟩
    · cases facet with
      | instances => rfl
      | statics =>
        have hnone := List.countP_eq_zero.mp (Nat.le_zero.mp h.constructors)
        exact absurd hconstructor (hnone e he)
    · have hone : entries.countP isConstructor ≤ 1 := by
        have hconstructors := h.constructors
        cases facet
        · exact hconstructors
        · exact Nat.le_succ_of_le hconstructors
      have hpairs := ((List.pairwise_map.mp h.distinct).and h.unambiguous).and
        (countP_isConstructor_le_one.mp hone)
      refine (List.Pairwise.and_mem.mp hpairs).imp fun ⟨hd, he, hpair⟩ => ?_
      exact ⟨hpair.1.1, fun hdata => h.apart _ hd hdata _ he, fun hdata => h.apart _ he hdata _ hd,
        hpair.2, hpair.1.2⟩
  · rintro ⟨hadmissible, hcompatible⟩
    refine ⟨List.pairwise_map.mpr (hcompatible.imp Compatible.distinct), fun e he hfunction => ?_,
      fun e he => (hadmissible e he).unreserved, fun d hd hdata e he k hk => ?_,
      hcompatible.imp Compatible.unambiguous, ?_⟩
    · obtain ⟨k, hk⟩ := (hadmissible e he).readable hfunction
      exact ⟨k, (key?_function hfunction).mp hk⟩
    · have hne : d ≠ e := by
        rintro rfl
        rw [isData_of_key? hk] at hdata
        cases hdata
      exact (hcompatible.forall hd he hne).nameAfter hdata k hk
    · cases facet with
      | instances => exact countP_isConstructor_le_one.mpr (hcompatible.imp Compatible.constructors)
      | statics =>
        refine Nat.le_zero.mpr (List.countP_eq_zero.mpr fun e he hconstructor => ?_)
        cases (hadmissible e he).facet hconstructor

/-- The entry that a callable was written as. -/
def Member.entry (m : Member) : Entry := (m.key, .function m.function)

namespace CollectedFacet

variable {ms ms' : CollectedFacet} {facet : Facet} {done : Entries} {e : Entry}

/-- Whatever may be added is added. -/
theorem add_of_adds (h : ms.Adds e ms') : ms.add e = .ok ms' := by
  have htaken : (ms.hasKey e.1 || ms.hasProperty e.1) = false := by
    simpa using h.fresh
  cases h with
  | constructor _ parse name facet first =>
    simp [add, htaken, parse, name, addConstructor, facet, first]
  | method _ parse name data clash =>
    simp [add, htaken, parse, name, addMethod, data, clash]
  | @property key v data _ reserved unnamed =>
    have hadd : ms.add (key, v) = ms.addProperty key v := by
      cases v with
      | function => cases data
      | _ => simp only [add, htaken, Bool.false_eq_true, if_false]
    rw [hadd, addProperty, if_neg reserved, unnamed]
    rfl

/-- The facet holds the entries, each in its place and in their order. -/
structure Mirrors (facet : Facet) (done : Entries) (ms : CollectedFacet) : Prop where
  facet_eq : ms.facet = facet
  properties : ms.properties = done.filter Entry.isData
  methods : ms.methods.map Member.entry = done.filter Entry.isMethod
  constructor : ms.constructor.toList.map Member.entry = done.filter Entry.isConstructor
  constructorId {m : Member} : ms.constructor = some m → m.id = .constructor
  key {m : Member} : m ∈ ms.callables → m.entry.key? = some m.parsed
  admissible : ∀ d ∈ done, Entry.Admissible facet d

theorem filter_snoc_keep {p : Entry → Bool} (h : p e = true) :
    (done ++ [e]).filter p = done.filter p ++ [e] := by
  rw [List.filter_append, List.filter_singleton, h]
  rfl

theorem filter_snoc_skip {p : Entry → Bool} (h : p e = false) :
    (done ++ [e]).filter p = done.filter p := by
  rw [List.filter_append, List.filter_singleton, h]
  exact List.append_nil _

theorem mirrors_empty (facet : Facet) : Mirrors facet [] (empty facet) :=
  ⟨rfl, rfl, rfl, rfl, nofun, nofun, nofun⟩

namespace Mirrors

theorem hasProperty_iff (h : Mirrors facet done ms) {name : String} :
    ms.hasProperty name = true ↔ ∃ d ∈ done, Entry.isData d = true ∧ d.1 = name := by
  simp only [hasProperty, h.properties, List.any_eq_true, List.mem_filter, beq_iff_eq, and_assoc]

theorem callables_entry (h : Mirrors facet done ms) :
    ms.callables.map Member.entry = done.filter Entry.isMethod ++ done.filter Entry.isConstructor := by
  rw [callables, List.map_append, h.methods, h.constructor]

/-- The key of an entry is taken, whatever the entry is. -/
theorem fresh_iff (h : Mirrors facet done ms) {key : String} :
    (¬ms.hasKey key ∧ ¬ms.hasProperty key) ↔ ∀ d ∈ done, d.1 ≠ key := by
  have hkey : ms.hasKey key = true ↔
      ∃ d ∈ done, (Entry.isMethod d = true ∨ Entry.isConstructor d = true) ∧ d.1 = key := by
    have hany : ms.hasKey key = (ms.callables.map Member.entry).any (·.1 == key) := by
      rw [List.any_map]
      rfl
    simp only [hany, h.callables_entry, List.any_append, Bool.or_eq_true, List.any_eq_true,
      List.mem_filter, beq_iff_eq]
    constructor
    · rintro (⟨d, ⟨hd, hkind⟩, hname⟩ | ⟨d, ⟨hd, hkind⟩, hname⟩)
      · exact ⟨d, hd, .inl hkind, hname⟩
      · exact ⟨d, hd, .inr hkind, hname⟩
    · rintro ⟨d, hd, hkind | hkind, hname⟩
      · exact .inl ⟨d, ⟨hd, hkind⟩, hname⟩
      · exact .inr ⟨d, ⟨hd, hkind⟩, hname⟩
  rw [← not_or, hkey, h.hasProperty_iff]
  constructor
  · rintro hfresh d hd rfl
    cases hdata : Entry.isData d with
    | true => exact hfresh (.inr ⟨d, hd, hdata, rfl⟩)
    | false =>
      obtain ⟨k, hk⟩ := (h.admissible d hd).readable hdata
      refine hfresh (.inl ⟨d, hd, ?_, rfl⟩)
      rw [Entry.isMethod_iff hk, Entry.isConstructor_iff hk]
      exact (em _).symm
  · rintro hfresh (⟨d, hd, -, rfl⟩ | ⟨d, hd, -, rfl⟩) <;> exact hfresh d hd rfl

/-- The methods are the functions that are read so, the constructor apart. -/
theorem method_iff (h : Mirrors facet done ms) {k : MemberKey} :
    (∃ m ∈ ms.methods, m.parsed = k) ↔
      k.name ≠ constructorName ∧ ∃ d ∈ done, Entry.key? d = some k := by
  constructor
  · rintro ⟨m, hm, rfl⟩
    have hkey := h.key (List.mem_append_left _ hm)
    have hmem := h.methods ▸ List.mem_map_of_mem (f := Member.entry) hm
    obtain ⟨hd, hmethod⟩ := List.mem_filter.mp hmem
    exact ⟨(Entry.isMethod_iff hkey).mp hmethod, _, hd, hkey⟩
  · rintro ⟨hname, d, hd, hk⟩
    have hmem := List.mem_filter.mpr ⟨hd, (Entry.isMethod_iff hk).mpr hname⟩
    obtain ⟨m, hm, rfl⟩ := List.mem_map.mp (h.methods ▸ hmem)
    rw [h.key (List.mem_append_left _ hm)] at hk
    exact ⟨m, hm, Option.some.inj hk⟩

theorem named_nil_iff (h : Mirrors facet done ms) {name : String} :
    ms.named name = [] ↔
      ∀ d ∈ done, ∀ k, Entry.key? d = some k → k.name ≠ constructorName → name ≠ k.name := by
  simp only [named, List.filter_eq_nil_iff, beq_iff_eq]
  constructor
  · rintro hnone d hd k hk hname rfl
    obtain ⟨m, hm, rfl⟩ := h.method_iff.mpr ⟨hname, d, hd, hk⟩
    exact hnone m hm rfl
  · rintro hnone m hm rfl
    obtain ⟨hname, d, hd, hk⟩ := h.method_iff.mp ⟨m, hm, rfl⟩
    exact hnone d hd _ hk hname rfl

theorem clashes_iff (h : Mirrors facet done ms) {k : MemberKey} :
    ms.clashes k = true ↔
      ∃ d ∈ done, ∃ j, Entry.key? d = some j ∧ j.name ≠ constructorName ∧ j.Ambiguous k := by
  have hclash : ms.clashes k = true ↔ ∃ m ∈ ms.methods, m.parsed.Ambiguous k := by
    simp only [clashes, named, List.any_filter, List.any_eq_true, Bool.and_eq_true, beq_iff_eq,
      MemberKey.Ambiguous, Member.name, Member.signature]
    refine exists_congr fun m => and_congr_right fun _ => and_congr_right fun _ => ?_
    cases m.parsed.signature <;> cases k.signature <;> simp
  rw [hclash]
  constructor
  · rintro ⟨m, hm, hambiguous⟩
    obtain ⟨hname, d, hd, hk⟩ := h.method_iff.mp ⟨m, hm, rfl⟩
    exact ⟨d, hd, _, hk, hname, hambiguous⟩
  · rintro ⟨d, hd, j, hj, hname, hambiguous⟩
    obtain ⟨m, hm, rfl⟩ := h.method_iff.mpr ⟨hname, d, hd, hj⟩
    exact ⟨m, hm, hambiguous⟩

theorem constructor_none_iff (h : Mirrors facet done ms) :
    ms.constructor = none ↔ ∀ d ∈ done, Entry.isConstructor d = false := by
  rw [← Option.toList_eq_nil_iff, ← List.map_eq_nil_iff (f := Member.entry), h.constructor,
    List.filter_eq_nil_iff]
  simp only [Bool.not_eq_true]

/-- The key of a function can be added if it is compatible with the entries before it. -/
theorem adds_function_iff (h : Mirrors facet done ms) {key : String} {f : FunctionRef}
    {k : MemberKey} (hk : Entry.key? (key, .function f) = some k) :
    (∃ ms', ms.Adds (key, .function f) ms') ↔ Entry.Admissible facet (key, .function f) ∧
      ∀ d ∈ done, Entry.Compatible d (key, .function f) := by
  have hparse : MemberKey.parse key = .ok k := (Entry.key?_function rfl).mp hk
  have hconstructor := Entry.isConstructor_iff hk
  constructor
  · rintro ⟨ms', hadds⟩
    have hfresh := h.fresh_iff.mp hadds.fresh
    have hkeys {k' : MemberKey} (hk' : Entry.key? (key, .function f) = some k') : k = k' :=
      Option.some.inj (hk.symm.trans hk')
    cases hadds with
    | constructor _ parse name isInstance first =>
      obtain rfl : _ = k := Except.ok.inj (parse.symm.trans hparse)
      have hfirst := h.constructor_none_iff.mp first
      refine ⟨⟨fun _ => ⟨_, hk⟩, nofun, fun _ => h.facet_eq.symm.trans isInstance⟩,
        fun d hd => ⟨hfresh d hd, fun hdata k' hk' heq => ?_, nofun, fun hd' => ?_,
          fun j k' _ hk' hj hambiguous => ?_⟩⟩
      · obtain rfl := hkeys hk'
        exact (h.admissible d hd).unreserved hdata (.inl (heq.trans name))
      · rw [hfirst d hd] at hd'
        cases hd'
      · obtain rfl := hkeys hk'
        exact hj (hambiguous.1.trans name)
    | method _ parse name data clash =>
      obtain rfl : _ = k := Except.ok.inj (parse.symm.trans hparse)
      have hother := Bool.eq_false_iff.mpr (mt hconstructor.mp name)
      refine ⟨⟨fun _ => ⟨_, hk⟩, nofun, fun h' => absurd (hconstructor.mp h') name⟩,
        fun d hd => ⟨hfresh d hd, fun hdata k' hk' heq => ?_, nofun, fun _ => hother,
          fun j k' hj hk' hname hambiguous => ?_⟩⟩
      · obtain rfl := hkeys hk'
        exact data (h.hasProperty_iff.mpr ⟨d, hd, hdata, heq⟩)
      · obtain rfl := hkeys hk'
        exact clash (h.clashes_iff.mpr ⟨d, hd, j, hj, hname, hambiguous⟩)
    | property data => cases data
  · rintro ⟨hadmissible, hcompatible⟩
    have hfresh := h.fresh_iff.mpr fun d hd => (hcompatible d hd).distinct
    by_cases hname : k.name = constructorName
    · refine ⟨_, .constructor hfresh hparse hname ?_ (h.constructor_none_iff.mpr fun d hd => ?_)⟩
      · exact h.facet_eq.trans (hadmissible.facet (hconstructor.mpr hname))
      · exact (hcompatible d hd).symm.constructors (hconstructor.mpr hname)
    · refine ⟨_, .method hfresh hparse hname (fun hproperty => ?_) fun hclash => ?_⟩
      · obtain ⟨d, hd, hdata, heq⟩ := h.hasProperty_iff.mp hproperty
        exact (hcompatible d hd).nameAfter hdata k hk heq
      · obtain ⟨d, hd, j, hj, hj', hambiguous⟩ := h.clashes_iff.mp hclash
        exact (hcompatible d hd).unambiguous j k hj hk hj' hambiguous

/-- Data can be added if it is admissible and compatible with the entries before it. -/
theorem adds_data_iff (h : Mirrors facet done ms) (hdata : e.isData = true) :
    (∃ ms', ms.Adds e ms') ↔ e.Admissible facet ∧ ∀ d ∈ done, Entry.Compatible d e := by
  have hk : e.key? = none := Entry.key?_data hdata
  have hconstructor := Entry.isConstructor_data hdata
  constructor
  · rintro ⟨ms', hadds⟩
    have hfresh := h.fresh_iff.mp hadds.fresh
    cases hadds with
    | constructor | method => cases hdata
    | @property key v _ _ reserved unnamed =>
      rw [Entry.isReserved_iff] at reserved
      refine ⟨⟨fun hfunction => ?_, fun _ => reserved, fun h' => ?_⟩, fun d hd =>
        ⟨hfresh d hd, fun _ k hk' => ?_, fun _ k hk' heq => ?_, fun _ => hconstructor,
          fun j k _ hk' => ?_⟩⟩
      · rw [hdata] at hfunction
        cases hfunction
      · rw [hconstructor] at h'
        cases h'
      · rw [hk] at hk'
        cases hk'
      · by_cases hname : k.name = constructorName
        · exact reserved (.inl (heq.trans hname))
        · exact h.named_nil_iff.mp unnamed d hd k hk' hname heq
      · rw [hk] at hk'
        cases hk'
  · rintro ⟨hadmissible, hcompatible⟩
    refine ⟨_, .property (Option.isNone_iff_eq_none.mp hdata)
      (h.fresh_iff.mpr fun d hd => (hcompatible d hd).distinct)
      (mt Entry.isReserved_iff.mp (hadmissible.unreserved hdata))
      (h.named_nil_iff.mpr fun d hd k hk _ => (hcompatible d hd).nameBefore hdata k hk)⟩

/-- An entry can be added if it is admissible and compatible with those before it. -/
theorem adds_iff (h : Mirrors facet done ms) :
    (∃ ms', ms.Adds e ms') ↔ e.Admissible facet ∧ ∀ d ∈ done, Entry.Compatible d e := by
  obtain ⟨key, v⟩ := e
  by_cases hreadable : Entry.isData (key, v) = false → ∃ k, Entry.key? (key, v) = some k
  · cases v with
    | function f =>
      obtain ⟨k, hk⟩ := hreadable rfl
      exact h.adds_function_iff hk
    | _ => exact h.adds_data_iff rfl
  · -- A function whose key cannot be read is neither added nor admissible.
    refine ⟨fun ⟨ms', hadds⟩ => absurd (fun hfunction => ?_) hreadable,
      fun hadds => absurd hadds.1.readable hreadable⟩
    cases hadds with
    | constructor _ parse | method _ parse =>
      exact ⟨_, (Entry.key?_function hfunction).mpr parse⟩
    | property data =>
      rw [Entry.isData, data] at hfunction
      cases hfunction

/-- Adding an entry puts it in its place. -/
theorem step (h : Mirrors facet done ms) (hadds : ms.Adds e ms') :
    Mirrors facet (done ++ [e]) ms' := by
  have hadmissible : ∀ d ∈ done ++ [e], Entry.Admissible facet d := by
    rw [List.forall_mem_append, List.forall_mem_singleton]
    exact ⟨h.admissible, (h.adds_iff.mp ⟨ms', hadds⟩).1⟩
  cases hadds with
  | @constructor key parsed f _ parse name _ first =>
    have hk : Entry.key? (key, .function f) = some parsed := (Entry.key?_function rfl).mpr parse
    have hconstructor := (Entry.isConstructor_iff hk).mpr name
    have hmethod := Bool.eq_false_iff.mpr fun h' => (Entry.isMethod_iff hk).mp h' name
    have hnone := h.constructor
    rw [first] at hnone
    refine ⟨h.facet_eq, ?_, ?_, ?_, fun hm => Option.some.inj hm ▸ rfl, fun {m} hm => ?_,
      hadmissible⟩
    · rw [filter_snoc_skip rfl, h.properties]
    · rw [filter_snoc_skip hmethod, h.methods]
    · rw [filter_snoc_keep hconstructor, ← hnone]
      rfl
    · rcases List.mem_append.mp hm with hm | hm
      · exact h.key (List.mem_append_left _ hm)
      · obtain rfl := List.mem_singleton.mp hm
        exact hk
  | @method key parsed f _ parse name =>
    have hk : Entry.key? (key, .function f) = some parsed := (Entry.key?_function rfl).mpr parse
    have hmethod := (Entry.isMethod_iff hk).mpr name
    have hconstructor := Bool.eq_false_iff.mpr (mt (Entry.isConstructor_iff hk).mp name)
    refine ⟨h.facet_eq, ?_, ?_, ?_, h.constructorId, fun {m} hm => ?_, hadmissible⟩
    · rw [filter_snoc_skip rfl, h.properties]
    · rw [filter_snoc_keep hmethod, List.map_append, h.methods]
      rfl
    · rw [filter_snoc_skip hconstructor, h.constructor]
    · rcases List.mem_append.mp hm with hm | hm
      · rcases List.mem_append.mp hm with hm | hm
        · exact h.key (List.mem_append_left _ hm)
        · obtain rfl := List.mem_singleton.mp hm
          exact hk
      · exact h.key (List.mem_append_right _ hm)
  | @property key v data =>
    have hdata : Entry.isData (key, v) = true := Option.isNone_iff_eq_none.mpr data
    refine ⟨h.facet_eq, ?_, ?_, ?_, h.constructorId, h.key, hadmissible⟩
    · rw [filter_snoc_keep hdata, h.properties]
    · rw [filter_snoc_skip (Entry.isMethod_data hdata), h.methods]
    · rw [filter_snoc_skip (Entry.isConstructor_data hdata), h.constructor]

/-- The entries that follow are added exactly if each is admissible and compatible with the
others and with those before. The facet mirrors them all then. -/
theorem run (h : Mirrors facet done ms) (entries : Entries) :
    ((∃ ms', entries.foldlM add ms = .ok ms') ↔ (∀ e ∈ entries, Entry.Admissible facet e) ∧
      entries.Pairwise Entry.Compatible ∧ ∀ d ∈ done, ∀ e ∈ entries, Entry.Compatible d e) ∧
    ∀ ms', entries.foldlM add ms = .ok ms' → Mirrors facet (done ++ entries) ms' := by
  induction entries generalizing ms done with
  | nil =>
    refine ⟨⟨fun _ => ⟨nofun, .nil, nofun⟩, fun _ => ⟨ms, rfl⟩⟩, fun ms' hms' => ?_⟩
    cases hms'
    rwa [List.append_nil]
  | cons e entries ih =>
    rw [List.foldlM_cons]
    cases hadd : ms.add e with
    | error fault =>
      have hrefused : ¬∃ ms', ms.Adds e ms' := by
        rintro ⟨ms', hadds⟩
        rw [add_of_adds hadds] at hadd
        cases hadd
      refine ⟨⟨nofun, fun ⟨hadmissible, _, hbefore⟩ => absurd (h.adds_iff.mpr ⟨?_, ?_⟩) hrefused⟩,
        nofun⟩
      · exact hadmissible e List.mem_cons_self
      · exact fun d hd => hbefore d hd e List.mem_cons_self
    | ok next =>
      -- The pairs with `e` are those with the entries before it and, in the rest of the run,
      -- those with the entries after it.
      have hadds := adds_of_add hadd
      obtain ⟨hself, hbefore⟩ := h.adds_iff.mp ⟨next, hadds⟩
      obtain ⟨hrun, hmirrors⟩ := ih (h.step hadds)
      refine ⟨hrun.trans ?_, fun ms' hms' => ?_⟩
      · simp only [List.forall_mem_cons, List.pairwise_cons, List.forall_mem_append]
        constructor
        · rintro ⟨hadmissible, hpairs, hdone, hafter, -⟩
          exact ⟨⟨hself, hadmissible⟩, ⟨hafter, hpairs⟩, fun d hd => ⟨hbefore d hd, hdone d hd⟩⟩
        · rintro ⟨⟨-, hadmissible⟩, ⟨hafter, hpairs⟩, hdone⟩
          exact ⟨hadmissible, hpairs, fun d hd => (hdone d hd).2, hafter, nofun⟩
      · have hall := hmirrors ms' hms'
        rwa [List.append_assoc] at hall

end Mirrors

/-- What was collected mirrors the entries. -/
theorem mirrors_of_collect {entries : Option Entries} (h : collect facet entries = .ok ms) :
    Mirrors facet (entries.getD []) ms :=
  ((mirrors_empty facet).run _).2 ms h

theorem collects_iff_acceptable {entries : Option Entries} :
    (∃ ms, collect facet entries = .ok ms) ↔ (entries.getD []).Acceptable facet := by
  rw [Entries.acceptable_iff]
  refine ((mirrors_empty facet).run _).1.trans ?_
  exact and_congr_right fun _ => and_iff_left nofun

/-- A facet is collected from its entries exactly if they are acceptable, and then from
the same entries in any other order. -/
theorem acceptance_ignores_order {entries : Entries} :
    ((∃ ms, collect facet (some entries) = .ok ms) ↔ entries.Acceptable facet) ∧
    ∀ entries' : Entries, entries.Perm entries' →
      ((∃ ms, collect facet (some entries) = .ok ms) ↔
        ∃ ms, collect facet (some entries') = .ok ms) := by
  refine ⟨collects_iff_acceptable, fun entries' hperm => ?_⟩
  rw [collects_iff_acceptable, collects_iff_acceptable, Option.getD_some, Option.getD_some,
    Entries.acceptable_iff, Entries.acceptable_iff]
  refine and_congr (forall_congr' fun e => imp_congr_left hperm.mem_iff) ?_
  exact hperm.pairwise_iff fun h => h.symm

/-- A constructor, a method and data. -/
def sampleEntries : Entries :=
  [("constructor", .function ⟨0, none, none⟩), ("run", .function ⟨1, none, none⟩), ("size", .int 3)]

theorem sample_collected_reversed : sampleEntries.Perm sampleEntries.reverse ∧
    ∃ ms, collect .instances (some sampleEntries.reverse) = .ok ms :=
  have hperm := sampleEntries.reverse_perm.symm
  ⟨hperm, (acceptance_ignores_order.2 _ hperm).mp ⟨_, rfl⟩⟩

end CollectedFacet

end ScriptClass
