import ScriptClass.Proofs.ObjectData

/-!
# Reading members

What the name or key of a member is read as on an object of its class or on the static facet. The
bare name of callables is read as a function that picks one of them at each call, the key of a typed
callable as one that always dispatches that callable, and for other names than these the class makes
no function, unless they are the constructor's (`Store.memberFunction_name`,
`Store.memberFunction_key`, `Store.memberFunction_unknown`). No data of an object in use hide them
(`Generated.data?_member`).
-/

namespace ScriptClass

open Event

/-- A key that is a name is read as that name. -/
theorem MemberKey.name_of_parse {k : MemberKey} {key : String} (hk : parse key = .ok k)
    (hname : ValidName key) : k.name = key := by
  obtain ⟨-, rfl⟩ := parse_ok.mp hk
  obtain ⟨name, signature⟩ := k
  cases signature with
  | none => rfl
  | some s =>
    have hopen := (validName_iff.mp hname).1
    rw [toList_display_some] at hopen
    exact absurd (List.mem_append_right _ List.mem_cons_self) hopen

/-- A typed key is more than its name. -/
theorem MemberKey.name_ne_of_typed {k : MemberKey} {key : String} (hk : parse key = .ok k)
    (htyped : k.isTyped = true) : k.name ≠ key := by
  obtain ⟨hformed, rfl⟩ := parse_ok.mp hk
  obtain ⟨name, signature⟩ := k
  cases signature with
  | none => cases htyped
  | some s =>
    intro h
    have hopen := (validName_iff.mp hformed.name).1
    rw [h, toList_display_some] at hopen
    exact hopen (List.mem_append_right _ List.mem_cons_self)

namespace Members

variable {instances statics : Option Entries} {ms : Members} {facet : Facet} {m c : Member}
  {n : String}

/-- A callable whose key is the name of another has that name itself. -/
theorem name_of_key (h : collect instances statics = .ok ms) (hm : m ∈ ms.methods facet)
    (hc : c ∈ ms.methods facet) (hkey : m.key = c.name) : m.name = c.name := by
  have hname : MemberKey.ValidName m.key := by
    rw [hkey]
    exact (MemberKey.parse_ok.mp (parse_member h hc).1).1.name
  rw [← hkey]
  exact MemberKey.name_of_parse (parse_member h hm).1 hname

/-- The callables of a facet are the functions written in it, in the order written, the constructor
apart. -/
theorem methods_written (h : collect instances statics = .ok ms) (facet : Facet) :
    (ms.methods facet).map Member.entry =
      ((given instances statics facet).getD []).filter Entry.isMethod := by
  rw [← methods_part]
  exact (CollectedFacet.mirrors_of_collect (collect_part h facet)).methods

/-- Callables of one key are one callable. -/
theorem eq_of_key (h : collect instances statics = .ok ms) (hm : m ∈ ms.methods facet)
    (hc : c ∈ ms.methods facet) (hkey : m.key = c.key) : m = c := by
  have hdistinct := CollectedFacet.keys_distinct (collect_part h facet)
  rw [← methods_part] at hm hc
  exact List.inj_on_of_nodup_map (List.pairwise_map.mpr hdistinct) (List.mem_append_left _ hm)
    (List.mem_append_left _ hc) hkey

end Members

namespace Store

variable {s : Store} {w : WrapperRef} {facet : Facet} {n : String} {ms : Members} {m : Member}
  {instances statics : Option Entries}

/-- The bare name of callables is read as a function that picks one of them at each call. -/
theorem memberFunction_name (hms : s.HasMembers w ms)
    (hcollect : Members.collect instances statics = .ok ms)
    (hn : ∃ m ∈ ms.methods facet, m.name = n) : ∃ i, i < (ms.methods facet).length ∧
      s.memberFunction w facet n = (some ⟨s.functions.size, some n, none⟩,
        (s.newFunction (.member w facet n (.ofIndex facet i) false) (some n) none).2) := by
  obtain ⟨c, hc, hname⟩ := hn
  obtain ⟨i, m, hi, hm, hread⟩ := memberFunction_member hms ⟨c, hc, .inl hname⟩
  have hname' : m.name = n := hm.elim id fun hkey =>
    (Members.name_of_key hcollect (List.mem_of_getElem? hi) hc (hkey.trans hname.symm)).trans hname
  rw [hname', bne_self_eq_false, Bool.and_false] at hread
  exact ⟨i, (List.getElem?_eq_some_iff.mp hi).1, hread⟩

/-- The key of a typed callable is read as a function for just that callable. -/
theorem memberFunction_key (hms : s.HasMembers w ms)
    (hcollect : Members.collect instances statics = .ok ms) (hm : m ∈ ms.methods facet)
    (htyped : m.isTyped = true) : ∃ i, (ms.methods facet)[i]? = some m ∧
      s.memberFunction w facet m.key = (some ⟨s.functions.size, some m.key, none⟩,
        (s.newFunction (.member w facet m.key (.ofIndex facet i) true) (some m.key) none).2) := by
  have hname : m.name ≠ m.key := MemberKey.name_ne_of_typed (Members.parse_member hcollect hm).1 htyped
  obtain ⟨i, c, hi, hc, hread⟩ := memberFunction_member hms ⟨m, hm, .inr rfl⟩
  have hmem := List.mem_of_getElem? hi
  -- a name is no typed key, so the callable is found by its key
  have hcm : c = m := hc.elim
    (fun h => absurd ((Members.name_of_key hcollect hm hmem h.symm).trans h) hname)
    (Members.eq_of_key hcollect hmem hm)
  subst hcm
  rw [beq_self_eq_true, Bool.true_and, bne_iff_ne.mpr hname] at hread
  exact ⟨i, hi, hread⟩

/-- Other names are read as no function of the class. -/
theorem memberFunction_unknown (hms : s.HasMembers w ms)
    (hcollect : Members.collect instances statics = .ok ms)
    (hnone : ∀ m ∈ ms.methods facet, ¬m.Answers n) (hname : n ≠ constructorName)
    (hkey : facet = .instances → n ≠ ms.constructorKey) :
    s.memberFunction w facet n = (none, s) := by
  obtain ⟨c, hc, name, hplan⟩ := hms.wrapper
  have hid := Members.findId_default name hcollect hnone hname hkey
  simp only [memberFunction, hc, hplan, hid]
  rfl

end Store

/-- No data of an object in use, nor of the class, go by the name or key of a callable. -/
theorem Generated.data?_member {base : HostType} {interfaces : List HostType}
    {instances : Option Entries} {ms : Members} {l : LoadedClass} {s : Store} {es : List Event}
    {o : ScriptObject} {facet : Facet} {n : String}
    (h : Generated base interfaces instances ms l s) (hes : s.Chronicle es)
    (ho : o.holding ∈ Known es) (hside : o.side? = some (l.wrapper, facet))
    (hn : ∃ m ∈ ms.methods facet, m.Answers n) : s.data? o n = none := by
  obtain ⟨m, hm, hanswers⟩ := hn
  cases o with
  | plain id => cases hside
  | pair p =>
    obtain ⟨hw, rfl⟩ := Prod.mk.inj (Option.some.inj hside)
    show (s.properties p).get? n = none
    rw [← Option.not_isSome_iff_eq_none, Entries.isSome_get?]
    exact fun hmem => h.data_apart hes (pair_mem_known.mp ho) hw hmem
      (.inr ⟨m, List.mem_append_left _ hm, hanswers⟩)
  | facet g =>
    obtain ⟨hw, rfl⟩ := Prod.mk.inj (Option.some.inj hside)
    obtain ⟨c, name, statics, hc, hplan, hcollect⟩ := h.plan
    have hapart : ∀ e ∈ c.plan.staticProperties, ¬(e.1 == n) = true := by
      rw [hplan]
      intro e he hen
      have hname : n ∈ ms.statics.properties.map Prod.fst :=
        beq_iff_eq.mp hen ▸ List.mem_map_of_mem he
      exact (CollectedFacet.property_apart (Members.collect_ok hcollect).2 hname).2 m
        (List.mem_append_left _ hm) hanswers
    show (s.wrapper? g.wrapper).bind (·.plan.classData? n) = none
    rw [hw, hc, Option.bind_some, WrapperPlan.classData?, List.find?_eq_none.mpr hapart]
    rfl

end ScriptClass
