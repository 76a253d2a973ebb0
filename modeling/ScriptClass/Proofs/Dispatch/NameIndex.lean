import ScriptClass.Dispatch.NameIndex
import ScriptClass.Proofs.Firsts

/-!
# Searching name indexes

The entries of an index ascend by hash, so halving leads to the first entry whose
hash is not below the one sought (`firstNotBelow_spec`), and all entries of that
hash follow. The search therefore finds the id that was first given for a name,
whether or not names collide (`findWith_buildWith`).

Entries are equal in the order of the index only if they have one name, and no two
of them have. So names that are given once each make one index, in whatever order
they are given (`buildWith_perm`, `first_ids_found_in_any_order`).
-/

namespace ScriptClass

namespace NameEntry

variable {a b c : NameEntry}

theorem le_iff : le a b = true ↔ a.hash.value.toNat < b.hash.value.toNat ∨
    a.hash.value.toNat = b.hash.value.toNat ∧ a.name ≤ b.name := by
  unfold le
  split
  next h =>
    have heq : a.hash.value.toNat = b.hash.value.toNat := congrArg _ (beq_iff_eq.mp h)
    simp only [heq, Nat.lt_irrefl, false_or, true_and, Bool.not_eq_true', decide_eq_false_iff_not,
      String.not_lt]
  next h =>
    have hne : a.hash.value.toNat ≠ b.hash.value.toNat := fun e =>
      h (beq_iff_eq.mpr (UInt64.toNat_inj.mp e))
    simp only [decide_eq_true_eq, UInt64.lt_iff_toNat_lt, hne, false_and, or_false]

theorem le_trans (h : le a b = true) (h' : le b c = true) : le a c = true := by
  rw [le_iff] at *
  rcases h with h | ⟨h, hn⟩ <;> rcases h' with h' | ⟨h', hn'⟩
  · exact .inl (by omega)
  · exact .inl (by omega)
  · exact .inl (by omega)
  · exact .inr ⟨by omega, String.le_trans hn hn'⟩

theorem le_total (a b : NameEntry) : (le a b || le b a) = true := by
  rw [Bool.or_eq_true, le_iff, le_iff]
  rcases Nat.lt_trichotomy a.hash.value.toNat b.hash.value.toNat with h | h | h
  · exact .inl (.inl h)
  · rcases String.le_total a.name b.name with hn | hn
    · exact .inl (.inr ⟨h, hn⟩)
    · exact .inr (.inr ⟨h.symm, hn⟩)
  · exact .inr (.inl h)

theorem name_eq_of_le (h : le a b = true) (h' : le b a = true) : a.name = b.name := by
  rw [le_iff] at h h'
  rcases h with h | ⟨h, hn⟩ <;> rcases h' with h' | ⟨h', hn'⟩
  · omega
  · omega
  · omega
  · exact String.le_antisymm hn hn'

theorem pairwise_mergeSort (es : List NameEntry) :
    (es.mergeSort le).Pairwise fun a b => le a b = true :=
  @List.pairwise_mergeSort _ le (fun _ _ _ => le_trans) le_total es

end NameEntry

namespace NameIndex

/-- The hashes of the entries ascend. -/
def Ascends (s : NameIndex) : Prop :=
  ∀ i j (hi : i < s.entries.size) (hj : j < s.entries.size), i ≤ j →
    s.entries[i].hash.value.toNat ≤ s.entries[j].hash.value.toNat

/-- Halving ends at the first place whose hash is not below `h`, provided that the
place lies between the bounds. -/
theorem firstNotBelow_spec {s : NameIndex} (asc : s.Ascends) (h : TypeHash) (low high : Nat)
    (hsize : high ≤ s.entries.size)
    (hlow : ∀ i (hi : i < s.entries.size), i < low → s.entries[i].hash.value.toNat < h.value.toNat)
    (hhigh : ∀ i (hi : i < s.entries.size), high ≤ i → h.value.toNat ≤ s.entries[i].hash.value.toNat)
    (hle : low ≤ high) :
    (∀ i (hi : i < s.entries.size), i < s.firstNotBelow h low high →
      s.entries[i].hash.value.toNat < h.value.toNat) ∧
    ∀ i (hi : i < s.entries.size), s.firstNotBelow h low high ≤ i →
      h.value.toNat ≤ s.entries[i].hash.value.toNat := by
  induction low, high using firstNotBelow.induct s h with
  | case1 low high hlt middle c hc hbelow ih =>
    rw [firstNotBelow, if_pos hlt]
    simp only [show (low + high) / 2 = middle from rfl, hc, if_pos hbelow]
    obtain ⟨hm, rfl⟩ := Array.getElem?_eq_some_iff.mp hc
    refine ih hsize (fun i hi hlt' => ?_) hhigh (by omega)
    have := asc i middle hi hm (by omega)
    have := UInt64.lt_iff_toNat_lt.mp hbelow
    omega
  | case2 low high hlt middle c hc hbelow ih =>
    rw [firstNotBelow, if_pos hlt]
    simp only [show (low + high) / 2 = middle from rfl, hc, if_neg hbelow]
    obtain ⟨hm, rfl⟩ := Array.getElem?_eq_some_iff.mp hc
    refine ih (by omega) hlow (fun i hi hge => ?_) (by omega)
    have := asc middle i hm hi hge
    have := mt UInt64.lt_iff_toNat_lt.mpr hbelow
    omega
  | case3 low high hlt middle hc =>
    have := Array.getElem?_eq_none_iff.mp hc
    omega
  | case4 low high hge =>
    rw [firstNotBelow, if_neg hge]
    exact ⟨hlow, fun i hi hge' => hhigh i hi (by omega)⟩

/-- What a prefix of a list is taken for holds up to a place, so the place is in it. -/
theorem mem_takeWhile_of_getElem? {α : Type} {p : α → Bool} {l : List α} {j : Nat} {a : α}
    (h : l[j]? = some a) (hp : ∀ i x, i ≤ j → l[i]? = some x → p x = true) :
    a ∈ l.takeWhile p := by
  induction l generalizing j with
  | nil => cases h
  | cons b l ih =>
    rw [List.takeWhile_cons, if_pos (hp 0 b (Nat.zero_le _) rfl)]
    cases j with
    | zero =>
      cases h
      exact List.mem_cons_self
    | succ j =>
      refine List.mem_cons_of_mem _ (ih h fun i x hi hx => ?_)
      exact hp (i + 1) x (Nat.succ_le_succ hi) hx

/-- The entries that are searched: from the first whose hash is not below, as long
as the hash is the one sought. -/
def run (s : NameIndex) (h : TypeHash) : List NameEntry :=
  (s.entries.toList.drop (s.firstNotBelow h 0 s.entries.size)).takeWhile (·.hash == h)

theorem mem_of_mem_run {s : NameIndex} {h : TypeHash} {e : NameEntry} (he : e ∈ s.run h) :
    e ∈ s.entries.toList :=
  List.mem_of_mem_drop ((List.takeWhile_prefix _).subset he)

/-- Every entry of the hash is searched. -/
theorem mem_run {s : NameIndex} (asc : s.Ascends) {e : NameEntry} (he : e ∈ s.entries.toList) :
    e ∈ s.run e.hash := by
  obtain ⟨j, hj⟩ := List.mem_iff_getElem?.mp he
  rw [Array.getElem?_toList] at hj
  obtain ⟨hlt, hje⟩ := Array.getElem?_eq_some_iff.mp hj
  obtain ⟨hbelow, habove⟩ := firstNotBelow_spec asc e.hash 0 s.entries.size (Nat.le_refl _)
    (fun i _ hi => absurd hi (Nat.not_lt_zero i)) (fun i hi hge => absurd hi (by omega))
    (Nat.zero_le _)
  have hk : s.firstNotBelow e.hash 0 s.entries.size ≤ j := by
    by_contra hlt'
    have := hbelow j hlt (by omega)
    rw [hje] at this
    omega
  refine mem_takeWhile_of_getElem? (j := j - s.firstNotBelow e.hash 0 s.entries.size) ?_
    fun i x hi hx => ?_
  · rw [List.getElem?_drop, Array.getElem?_toList, Nat.add_sub_cancel' hk, hj]
  · rw [List.getElem?_drop, Array.getElem?_toList] at hx
    obtain ⟨hi', rfl⟩ := Array.getElem?_eq_some_iff.mp hx
    have hge := habove _ hi' (Nat.le_add_right _ i)
    have hle := asc _ j hi' hlt (by omega)
    rw [hje] at hle
    have heq := UInt64.toNat_inj.mp (Nat.le_antisymm hle hge)
    exact beq_iff_eq.mpr (congrArg TypeHash.mk heq)

section Hash

variable (hash : String → TypeHash)

theorem distinctEntries_eq (names : List (String × MemberId)) :
    distinctEntries hash names = (firstsBy Prod.fst names).map fun e => ⟨hash e.1, e.1, e.2⟩ := by
  suffices h : ∀ seen : List (String × MemberId),
      names.foldl (fun out d =>
        if out.any (·.name == d.1) then out else out ++ [(⟨hash d.1, d.1, d.2⟩ : NameEntry)])
        (seen.map fun e => ⟨hash e.1, e.1, e.2⟩) =
      (names.foldl (fun seen d => if seen.any (Prod.fst · == d.1) then seen else seen ++ [d])
        seen).map fun e => ⟨hash e.1, e.1, e.2⟩ from h []
  intro seen
  induction names generalizing seen with
  | nil => rfl
  | cons d names ih =>
    rw [List.foldl_cons, List.foldl_cons, ← ih]
    congr 1
    simp only [List.any_map, Function.comp_def]
    split
    · rfl
    · rw [List.map_append, List.map_singleton]

theorem pairwise_distinctEntries (names : List (String × MemberId)) :
    (distinctEntries hash names).Pairwise fun a b => a.name ≠ b.name := by
  rw [distinctEntries_eq]
  exact (pairwise_firstsBy Prod.fst names).map _ fun _ _ h => h

theorem ascends_buildWith (names : List (String × MemberId)) : (buildWith hash names).Ascends := by
  intro i j hi hj hij
  have hsorted := NameEntry.pairwise_mergeSort (distinctEntries hash names)
  rcases Nat.eq_or_lt_of_le hij with rfl | hlt
  · exact Nat.le_refl _
  · have := NameEntry.le_iff.mp (List.pairwise_iff_getElem.mp hsorted i j hi hj hlt)
    show ((distinctEntries hash names).mergeSort NameEntry.le)[i].hash.value.toNat ≤
      ((distinctEntries hash names).mergeSort NameEntry.le)[j].hash.value.toNat
    omega

/-- A search finds the first id that was given for a name. -/
theorem findWith_buildWith (names : List (String × MemberId)) (name : String) :
    (buildWith hash names).findWith hash name =
      ((names.find? (·.1 == name)).map Prod.snd).getD .default := by
  have hmem (e : NameEntry) : e ∈ (buildWith hash names).entries.toList ↔
      e ∈ distinctEntries hash names := List.mem_mergeSort
  have hhash {e : NameEntry} (he : e ∈ distinctEntries hash names) : e.hash = hash e.name := by
    rw [distinctEntries_eq] at he
    obtain ⟨d, -, rfl⟩ := List.mem_map.mp he
    rfl
  have hdistinct := pairwise_distinctEntries hash names
  have hrun : ((buildWith hash names).run (hash name)).find? (·.name == name) =
      (distinctEntries hash names).find? (·.name == name) := by
    cases h : (distinctEntries hash names).find? (·.name == name) with
    | none =>
      rw [List.find?_eq_none] at h ⊢
      exact fun e he => h e ((hmem e).mp (mem_of_mem_run he))
    | some e =>
      have he := List.mem_of_find?_eq_some h
      have hname : e.name = name := by simpa using List.find?_some h
      have hrun : e ∈ (buildWith hash names).run (hash name) := by
        rw [← hname, ← hhash he]
        exact mem_run (ascends_buildWith hash names) ((hmem e).mpr he)
      cases h' : ((buildWith hash names).run (hash name)).find? (·.name == name) with
      | none => exact absurd (beq_iff_eq.mpr hname) (List.find?_eq_none.mp h' e hrun)
      | some e' =>
        have he' := (hmem e').mp (mem_of_mem_run (List.mem_of_find?_eq_some h'))
        have hname' : e'.name = name := by simpa using List.find?_some h'
        rw [← h, ← hname', find?_of_pairwise NameEntry.name hdistinct he']
  show ((((buildWith hash names).run (hash name)).find? (·.name == name)).map
    NameEntry.id).getD .default = _
  rw [hrun, distinctEntries_eq, List.find?_map]
  show ((((firstsBy Prod.fst names).find? (·.1 == name)).map _).map _).getD _ = _
  rw [find?_firstsBy, Option.map_map]
  rfl

section Order

variable {cases cases' : List (String × MemberId)}

/-- Cases of distinct names all become entries. -/
theorem distinctEntries_of_nodup (h : (cases.map Prod.fst).Nodup) :
    distinctEntries hash cases = cases.map fun e => ⟨hash e.1, e.1, e.2⟩ := by
  rw [distinctEntries_eq, firstsBy_of_pairwise Prod.fst (List.pairwise_map.mp h)]

/-- Cases of distinct names make one index, in whatever order they are given. -/
theorem buildWith_perm (h : cases.Perm cases') (hdistinct : (cases.map Prod.fst).Nodup) :
    buildWith hash cases = buildWith hash cases' := by
  have hentries : (distinctEntries hash cases).Perm (distinctEntries hash cases') := by
    rw [distinctEntries_of_nodup hash hdistinct,
      distinctEntries_of_nodup hash ((h.map Prod.fst).nodup_iff.mp hdistinct)]
    exact h.map _
  have hsorted : ((distinctEntries hash cases).mergeSort NameEntry.le).Perm
      ((distinctEntries hash cases').mergeSort NameEntry.le) :=
    (List.mergeSort_perm _ _).trans (hentries.trans (List.mergeSort_perm _ _).symm)
  have hunique {a b : NameEntry} (ha : a ∈ distinctEntries hash cases)
      (hb : b ∈ distinctEntries hash cases) (hname : a.name = b.name) : a = b := by
    have hfound := find?_of_pairwise NameEntry.name (pairwise_distinctEntries hash cases) ha
    rw [hname, find?_of_pairwise NameEntry.name (pairwise_distinctEntries hash cases) hb] at hfound
    exact (Option.some.inj hfound).symm
  have heq := hsorted.eq_of_pairwise
    (fun a b ha hb hab hba => hunique (List.mem_mergeSort.mp ha)
      (hentries.mem_iff.mpr (List.mem_mergeSort.mp hb)) (NameEntry.name_eq_of_le hab hba))
    (NameEntry.pairwise_mergeSort _) (NameEntry.pairwise_mergeSort _)
  rw [buildWith, buildWith, heq]

end Order

/-- Under any hash a search finds the id of the first case that has just the name, and the default
id if there is none. Cases of distinct names are searched and listed alike in whatever order they are
given. -/
theorem first_ids_found_in_any_order (cases : List (String × MemberId)) :
    (∀ before name id after, cases = before ++ (name, id) :: after → name ∉ before.map Prod.fst →
      (buildWith hash cases).findWith hash name = id) ∧
    (∀ name, name ∉ cases.map Prod.fst →
      (buildWith hash cases).findWith hash name = .default) ∧
    ∀ cases', cases.Perm cases' → (cases.map Prod.fst).Nodup →
      (∀ name, (buildWith hash cases').findWith hash name =
        (buildWith hash cases).findWith hash name) ∧
      (buildWith hash cases').names = (buildWith hash cases).names := by
  have hnone {ds : List (String × MemberId)} {name : String} (h : name ∉ ds.map Prod.fst) :
      ds.find? (·.1 == name) = none := by
    refine List.find?_eq_none.mpr fun d hd hname => h ?_
    exact beq_iff_eq.mp hname ▸ List.mem_map_of_mem hd
  refine ⟨?_, fun name hname => ?_, fun cases' hperm hdistinct => ?_⟩
  · rintro before name id after rfl hbefore
    rw [findWith_buildWith, List.find?_append, hnone hbefore, Option.none_or, List.find?_cons,
      beq_self_eq_true]
    rfl
  · rw [findWith_buildWith, hnone hname]
    rfl
  · rw [buildWith_perm hash hperm hdistinct]
    exact ⟨fun _ => rfl, rfl⟩

end Hash

namespace Sample

/-- A hash under which all names collide. -/
def blunt : String → TypeHash := fun _ => .empty

/-- Names of one hash, not in the order of names. -/
def crowd : List (String × MemberId) := [("beta", ⟨3⟩), ("alpha", ⟨2⟩)]

end Sample

open Sample in
/-- Names that collide are told apart and put in order. -/
theorem crowd_found_in_any_order :
    (buildWith blunt crowd).findWith blunt "alpha" = ⟨2⟩ ∧
    (buildWith blunt crowd).findWith blunt "gamma" = .default ∧
    (buildWith blunt crowd.reverse).findWith blunt "alpha" =
      (buildWith blunt crowd).findWith blunt "alpha" ∧
    (buildWith blunt crowd.reverse).names = (buildWith blunt crowd).names := by
  obtain ⟨hfirst, hnone, hperm⟩ := first_ids_found_in_any_order blunt crowd
  obtain ⟨hfind, hnames⟩ := hperm crowd.reverse (List.reverse_perm crowd).symm (by decide)
  exact ⟨hfirst [("beta", ⟨3⟩)] "alpha" ⟨2⟩ [] rfl (by decide), hnone "gamma" (by decide),
    hfind "alpha", hnames⟩

end NameIndex

end ScriptClass
