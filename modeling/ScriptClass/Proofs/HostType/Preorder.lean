import ScriptClass.Proofs.HostType.Ancestors

/-!
# Visits in preorder

A visit of interfaces skips what it has met before, with all above it. As long as names tell
the types apart nothing is missed by that, for what was met before was visited to its end: a
type is never above itself. So the types that a class inherits from are its classes and then
the interfaces in preorder (`HostType.preorder`), the first of each name
(`HostType.ancestors_preorder`), and what is searched for among them is found interface by
interface (`HostType.findSome?_ancestors`).
-/

namespace ScriptClass

namespace HostType

mutual

/-- An interface and all above it, each followed by its parents and as often as it is
inherited. A class that stands among them is left out with all above it. -/
def preorder (classes : List HostType) : HostType → List HostType
  | .mk own superclass interfaces =>
    if classes.any (·.hash == TypeHash.ofName own.name) then []
    else .mk own superclass interfaces :: preorders classes interfaces

def preorders (classes : List HostType) : List HostType → List HostType
  | [] => []
  | t :: ts => preorder classes t ++ preorders classes ts

end

/-- A type of this name has been visited. -/
def Visited (visited : List HostType) (t : HostType) : Prop := ∃ u ∈ visited, u.hash = t.hash

/-- Types of one name are one type. -/
def Apart (ts : List HostType) : Prop := ∀ t ∈ ts, ∀ u ∈ ts, t.hash = u.hash → t = u

/-- The classes of a base, the first of each name. -/
def classes (base : HostType) : List HostType := firstsBy HostType.hash base.chain

/-- The interfaces that a class of this base and these interfaces declares or takes over. -/
def declaredInterfaces (base : HostType) (interfaces : List HostType) : List HostType :=
  interfaces ++ base.chain.flatMap HostType.interfaces

section Preorder

variable {classes visited : List HostType} {t u v : HostType} {ts us : List HostType}

theorem visited_iff : visited.any (·.hash == t.hash) = true ↔ Visited visited t := by
  simp only [List.any_eq_true, beq_iff_eq, Visited]

theorem Visited.mono (h : Visited visited t) (hsub : visited ⊆ ts) : Visited ts t := by
  obtain ⟨u, hu, hhash⟩ := h
  exact ⟨u, hsub hu, hhash⟩

theorem Visited.of_hash (h : Visited visited t) (hhash : t.hash = u.hash) : Visited visited u := by
  obtain ⟨v, hv, hvt⟩ := h
  exact ⟨v, hv, hvt.trans hhash⟩

theorem preorder_eq (classes : List HostType) (t : HostType) : preorder classes t =
    if classes.any (·.hash == t.hash) then [] else t :: preorders classes t.interfaces := by
  obtain ⟨own, superclass, interfaces⟩ := t
  rw [preorder]
  rfl

theorem mem_preorders : u ∈ preorders classes ts ↔ ∃ t ∈ ts, u ∈ preorder classes t := by
  induction ts with
  | nil => simp [preorders]
  | cons t ts ih => simp [preorders, ih]

theorem findSome?_preorders {β : Type} (f : HostType → Option β) :
    (preorders classes ts).findSome? f =
      ts.findSome? fun t => (preorder classes t).findSome? f := by
  induction ts with
  | nil => rw [preorders, List.findSome?_nil, List.findSome?_nil]
  | cons t ts ih =>
    rw [preorders, List.findSome?_append, List.findSome?_cons, ih]
    cases (preorder classes t).findSome? f <;> rfl

mutual

theorem sizeOf_of_mem_preorder (t : HostType) (h : u ∈ preorder classes t) : sizeOf u ≤ sizeOf t := by
  obtain ⟨own, superclass, interfaces⟩ := t
  rw [preorder] at h
  split at h
  · cases h
  · rcases List.mem_cons.mp h with rfl | h
    · exact Nat.le_refl _
    · have hlt := sizeOf_of_mem_preorders interfaces h
      simp only [mk.sizeOf_spec]
      omega
termination_by structural t

/-- What is above the parents of a type is smaller. -/
theorem sizeOf_of_mem_preorders (ts : List HostType) (h : u ∈ preorders classes ts) :
    sizeOf u < sizeOf ts := by
  cases ts with
  | nil => cases (show u ∈ [] from h)
  | cons t ts =>
    rw [preorders] at h
    rw [List.cons.sizeOf_spec]
    rcases List.mem_append.mp h with h | h
    · have hle := sizeOf_of_mem_preorder t h
      omega
    · have hlt := sizeOf_of_mem_preorders ts h
      omega
termination_by structural ts

end

mutual

/-- What is above a type is above all that are below it. -/
theorem preorder_subset (t : HostType) (h : u ∈ preorder classes t) :
    preorder classes u ⊆ preorder classes t := by
  obtain ⟨own, superclass, interfaces⟩ := t
  rw [preorder] at h ⊢
  split at h
  · cases h
  next hclass =>
    rw [if_neg hclass]
    rcases List.mem_cons.mp h with rfl | h
    · rw [preorder, if_neg hclass]
      exact List.Subset.refl _
    · exact List.Subset.trans (preorders_subset interfaces h) (List.subset_cons_self _ _)
termination_by structural t

theorem preorders_subset (ts : List HostType) (h : u ∈ preorders classes ts) :
    preorder classes u ⊆ preorders classes ts := by
  cases ts with
  | nil => cases (show u ∈ [] from h)
  | cons t ts =>
    rw [preorders] at h ⊢
    rcases List.mem_append.mp h with h | h
    · exact List.Subset.trans (preorder_subset t h) (List.subset_append_left _ _)
    · exact List.Subset.trans (preorders_subset ts h) (List.subset_append_right _ _)
termination_by structural ts

end

/-! ## Visits one by one -/

theorem visitClass_visited (h : Visited visited t) : visitClass visited t = visited :=
  if_pos (visited_iff.mpr h)

theorem visitClass_fresh (h : ¬Visited visited t) : visitClass visited t = visited ++ [t] :=
  if_neg (mt visited_iff.mp h)

/-- What has been visited is not visited again. -/
theorem foldl_visitClass_visited (h : ∀ t ∈ ts, Visited visited t) :
    ts.foldl visitClass visited = visited := by
  induction ts with
  | nil => rfl
  | cons t ts ih =>
    obtain ⟨ht, hts⟩ := List.forall_mem_cons.mp h
    rw [List.foldl_cons, visitClass_visited ht, ih hts]

theorem visited_foldl_visitClass : Visited (ts.foldl visitClass visited) u ↔
    Visited visited u ∨ Visited ts u := by
  induction ts generalizing visited with
  | nil => simp [Visited]
  | cons t ts ih =>
    have hcons : Visited (t :: ts) u ↔ t.hash = u.hash ∨ Visited ts u := by
      simp only [Visited, List.mem_cons, exists_eq_or_imp]
    have hclass : Visited (visitClass visited t) u ↔ Visited visited u ∨ t.hash = u.hash := by
      by_cases h : Visited visited t
      · rw [visitClass_visited h]
        exact (or_iff_left_of_imp h.of_hash).symm
      · rw [visitClass_fresh h]
        simp only [Visited, List.mem_append, List.mem_singleton, or_and_right, exists_or,
          exists_eq_left]
    rw [List.foldl_cons, ih, hclass, hcons, or_assoc]

/-! ## Visits of interfaces -/

/-- What has been visited of some types was visited to its end. -/
def Settled (classes visited ts : List HostType) : Prop :=
  ∀ t ∈ ts, Visited visited t → ∀ u ∈ preorder classes t, Visited visited u

theorem Apart.subset (h : Apart us) (hsub : ts ⊆ us) : Apart ts :=
  fun t ht u hu => h t (hsub ht) u (hsub hu)

theorem Settled.subset (h : Settled classes visited us) (hsub : ts ⊆ us) :
    Settled classes visited ts := fun t ht => h t (hsub ht)

mutual

/-- A visit of an interface adds what is above it, in preorder and once. -/
theorem visitInterface_eq (t : HostType) {visited : List HostType}
    (hclasses : ∀ u, Visited classes u → Visited visited u)
    (hsettled : Settled classes visited (preorder classes t)) (hapart : Apart (preorder classes t)) :
    visitInterface visited t = (preorder classes t).foldl visitClass visited := by
  obtain ⟨own, superclass, interfaces⟩ := t
  by_cases hclass : Visited classes (.mk own superclass interfaces)
  · rw [preorder_eq, if_pos (visited_iff.mpr hclass), visitInterface]
    exact if_pos (visited_iff.mpr (hclasses _ hclass))
  have hpreorder := preorder_eq classes (.mk own superclass interfaces)
  rw [if_neg (mt visited_iff.mp hclass)] at hpreorder
  have hself : HostType.mk own superclass interfaces ∈
      preorder classes (.mk own superclass interfaces) :=
    hpreorder ▸ List.mem_cons_self
  have hparents : preorders classes interfaces ⊆ preorder classes (.mk own superclass interfaces) :=
    hpreorder ▸ List.subset_cons_self _ _
  by_cases hvisited : Visited visited (.mk own superclass interfaces)
  · rw [foldl_visitClass_visited (hsettled _ hself hvisited), visitInterface]
    exact if_pos (visited_iff.mpr hvisited)
  · have hvisit : visitInterface visited (.mk own superclass interfaces) =
        visitInterfaces (visited ++ [.mk own superclass interfaces]) interfaces := by
      rw [visitInterface]
      exact if_neg (mt visited_iff.mp hvisited)
    rw [hvisit, hpreorder, List.foldl_cons, visitClass_fresh hvisited]
    refine visitInterfaces_eq interfaces (fun u hu => (hclasses u hu).mono (List.subset_append_left _ _))
      (fun u hu hu' v hv => ?_) (hapart.subset hparents)
    -- No type above the parents has the name of the type itself.
    have hbefore : Visited visited u := by
      obtain ⟨w, hw, hhash⟩ := hu'
      rcases List.mem_append.mp hw with hw | hw
      · exact ⟨w, hw, hhash⟩
      · rw [List.mem_singleton.mp hw] at hhash
        have hsame := hapart _ hself _ (hparents hu) hhash
        have hlt := sizeOf_of_mem_preorders interfaces hu
        rw [← hsame] at hlt
        simp only [mk.sizeOf_spec] at hlt
        omega
    exact (hsettled u (hparents hu) hbefore v hv).mono (List.subset_append_left _ _)
termination_by structural t

theorem visitInterfaces_eq (ts : List HostType) {visited : List HostType}
    (hclasses : ∀ u, Visited classes u → Visited visited u)
    (hsettled : Settled classes visited (preorders classes ts))
    (hapart : Apart (preorders classes ts)) :
    visitInterfaces visited ts = (preorders classes ts).foldl visitClass visited := by
  cases ts with
  | nil =>
    rw [visitInterfaces, preorders]
    rfl
  | cons t ts =>
    rw [preorders] at hsettled hapart ⊢
    have hhead : preorder classes t ⊆ preorder classes t ++ preorders classes ts :=
      List.subset_append_left _ _
    have htail : preorders classes ts ⊆ preorder classes t ++ preorders classes ts :=
      List.subset_append_right _ _
    have hfirst := visitInterface_eq t hclasses (hsettled.subset hhead) (hapart.subset hhead)
    rw [visitInterfaces, List.foldl_append, ← hfirst]
    have hvisited {u : HostType} : Visited (visitInterface visited t) u ↔
        Visited visited u ∨ Visited (preorder classes t) u := by
      rw [hfirst, visited_foldl_visitClass]
    refine visitInterfaces_eq ts (fun u hu => hvisited.mpr (.inl (hclasses u hu)))
      (fun u hu hu' v hv => ?_) (hapart.subset htail)
    rcases hvisited.mp hu' with hu' | ⟨w, hw, hhash⟩
    · exact hvisited.mpr (.inl (hsettled u (htail hu) hu' v hv))
    · obtain rfl := hapart w (hhead hw) u (htail hu) hhash
      exact hvisited.mpr (.inr ⟨v, preorder_subset t hw hv, rfl⟩)
termination_by structural ts

end

/-! ## What a class inherits from -/

mutual

theorem not_visited_of_mem_preorder (t : HostType) (h : u ∈ preorder classes t) :
    ¬Visited classes u := by
  obtain ⟨own, superclass, interfaces⟩ := t
  rw [preorder] at h
  split at h
  · cases h
  next hclass =>
    rcases List.mem_cons.mp h with rfl | h
    · exact mt visited_iff.mpr hclass
    · exact not_visited_of_mem_preorders interfaces h
termination_by structural t

theorem not_visited_of_mem_preorders (ts : List HostType) (h : u ∈ preorders classes ts) :
    ¬Visited classes u := by
  cases ts with
  | nil => cases (show u ∈ [] from h)
  | cons t ts =>
    rw [preorders] at h
    rcases List.mem_append.mp h with h | h
    · exact not_visited_of_mem_preorder t h
    · exact not_visited_of_mem_preorders ts h
termination_by structural ts

end

/-- A search finds what it finds among those visited and, once they are used up, among those
that are met then. -/
theorem findSome?_foldl_visitClass {β : Type} (f : HostType → Option β)
    (hvisited : ∀ t ∈ ts, ∀ u ∈ visited, u.hash = t.hash → u = t) (hapart : Apart ts) :
    (ts.foldl visitClass visited).findSome? f = (visited.findSome? f).or (ts.findSome? f) := by
  induction ts generalizing visited with
  | nil => rw [List.foldl_nil, List.findSome?_nil, Option.or_none]
  | cons t ts ih =>
    obtain ⟨ht, hts⟩ := List.forall_mem_cons.mp hvisited
    have hrest : Apart ts := hapart.subset (List.subset_cons_self _ _)
    rw [List.foldl_cons, List.findSome?_cons]
    by_cases h : Visited visited t
    · obtain ⟨u, hu, hhash⟩ := h
      rw [visitClass_visited ⟨u, hu, hhash⟩, ih hts hrest]
      cases hfound : visited.findSome? f with
      | some x => rfl
      | none =>
        have hnone := List.findSome?_eq_none_iff.mp hfound u hu
        rw [ht u hu hhash] at hnone
        rw [hnone]
    · rw [visitClass_fresh h, ih _ hrest, List.findSome?_append, Option.or_assoc,
        List.findSome?_singleton]
      · cases f t <;> rfl
      · intro v hv u hu hhash
        rcases List.mem_append.mp hu with hu | hu
        · exact hts v hv u hu hhash
        · rw [List.mem_singleton.mp hu] at hhash ⊢
          exact hapart t List.mem_cons_self v (List.mem_cons_of_mem _ hv) hhash

theorem ancestors_preorder {base : HostType} {interfaces : List HostType}
    (hapart : Apart (preorders base.classes (base.declaredInterfaces interfaces))) :
    base.ancestors interfaces =
      (preorders base.classes (base.declaredInterfaces interfaces)).foldl visitClass base.classes := by
  rw [ancestors_eq]
  exact visitInterfaces_eq _ (fun _ h => h)
    (fun u hu hvisited => absurd hvisited (not_visited_of_mem_preorders _ hu)) hapart

/-- What is searched for is found in the classes, or else interface by interface. -/
theorem findSome?_ancestors {β : Type} {base : HostType} {interfaces : List HostType}
    (hapart : Apart (preorders base.classes (base.declaredInterfaces interfaces)))
    (f : HostType → Option β) : (base.ancestors interfaces).findSome? f =
      (base.classes.findSome? f).or ((base.declaredInterfaces interfaces).findSome? fun i =>
        (preorder base.classes i).findSome? f) := by
  rw [ancestors_preorder hapart, findSome?_foldl_visitClass f _ hapart, findSome?_preorders]
  exact fun t ht u hu hhash => absurd ⟨u, hu, hhash⟩ (not_visited_of_mem_preorders _ ht)

end Preorder

end HostType

end ScriptClass
