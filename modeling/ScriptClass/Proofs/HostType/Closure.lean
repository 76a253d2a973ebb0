import ScriptClass.Proofs.HostType.Preorder

/-!
# All that a class inherits from

A class inherits from its base and the superclasses of that, from the interfaces that it is asked
to implement and from those of its superclasses, with all above them (`HostType.closure`). Visits
meet these types and no others (`HostType.mem_ancestors`), in this order and each where it comes
first, except that a class among the interfaces is passed over with all above it
(`HostType.ancestors_eq_lineage`). Nothing is missed by that, as the parents of a class are met
among the interfaces of the base and its superclasses (`HostType.mem_lineage_iff`).
-/

namespace ScriptClass

namespace HostType

variable {classes : List HostType} {t u : HostType} {ts : List HostType} {base : HostType}
  {interfaces : List HostType}

/-- Interfaces and all above them, each followed by its parents and as often as it is
inherited. -/
def expansion (ts : List HostType) : List HostType := preorders [] ts

/-- All that a class of this base and these interfaces inherits from: the base and its
superclasses, then the interfaces requested and those of the base and of its superclasses. -/
def closure (base : HostType) (interfaces : List HostType) : List HostType :=
  base.chain ++ expansion (base.declaredInterfaces interfaces)

/-- The same, without the classes that stand among the interfaces and all above them there. -/
def lineage (base : HostType) (interfaces : List HostType) : List HostType :=
  base.chain ++ preorders base.classes (base.declaredInterfaces interfaces)

theorem preorder_nil (t : HostType) : preorder [] t = t :: expansion t.interfaces :=
  preorder_eq [] t

theorem forall_mem_preorders {p : HostType → Prop} :
    (∀ u ∈ preorders classes ts, p u) ↔ ∀ t ∈ ts, ∀ u ∈ preorder classes t, p u := by
  simp only [mem_preorders]
  exact ⟨fun h t ht u hu => h u ⟨t, ht, hu⟩, fun h u ⟨t, ht, hu⟩ => h t ht u hu⟩

theorem mem_expansion : u ∈ expansion ts ↔ ∃ t ∈ ts, u = t ∨ u ∈ expansion t.interfaces := by
  rw [expansion, mem_preorders]
  simp only [preorder_nil, List.mem_cons]

theorem mem_expansion_self (h : t ∈ ts) : t ∈ expansion ts := mem_expansion.mpr ⟨t, h, .inl rfl⟩

/-- What is above an interface that is met is met. -/
theorem expansion_interfaces_subset (h : t ∈ expansion ts) : expansion t.interfaces ⊆ expansion ts := by
  refine List.Subset.trans ?_ (preorders_subset ts h)
  rw [preorder_nil]
  exact List.subset_cons_self _ _

mutual

theorem preorder_subset_full (t : HostType) : preorder classes t ⊆ preorder [] t := by
  obtain ⟨own, superclass, interfaces⟩ := t
  rw [preorder, preorder_nil]
  split
  · exact List.nil_subset _
  · exact List.cons_subset_cons _ (preorders_subset_expansion interfaces)
termination_by structural t

theorem preorders_subset_expansion (ts : List HostType) : preorders classes ts ⊆ expansion ts := by
  cases ts with
  | nil => exact List.Subset.refl _
  | cons t ts =>
    rw [preorders, expansion, preorders]
    exact List.append_subset.mpr
      ⟨List.subset_append_of_subset_left _ (preorder_subset_full t),
        List.subset_append_of_subset_right _ (preorders_subset_expansion ts)⟩
termination_by structural ts

end

mutual

theorem preorder_eq_full (t : HostType) (h : ∀ u ∈ preorder [] t, ¬Visited classes u) :
    preorder classes t = preorder [] t := by
  obtain ⟨own, superclass, interfaces⟩ := t
  rw [preorder_nil, List.forall_mem_cons] at h
  rw [preorder_eq, if_neg (mt visited_iff.mp h.1), preorder_nil]
  exact congrArg _ (preorders_eq_expansion interfaces h.2)
termination_by structural t

/-- Nothing is passed over where no class stands among the interfaces. -/
theorem preorders_eq_expansion (ts : List HostType) (h : ∀ t ∈ expansion ts, ¬Visited classes t) :
    preorders classes ts = expansion ts := by
  cases ts with
  | nil => rfl
  | cons t ts =>
    rw [expansion, preorders] at h ⊢
    rw [preorders, preorder_eq_full t fun u hu => h u (List.mem_append_left _ hu)]
    exact congrArg _ (preorders_eq_expansion ts fun u hu => h u (List.mem_append_right _ hu))
termination_by structural ts

end

/-! ## What visits meet -/

theorem classes_subset_chain (base : HostType) : base.classes ⊆ base.chain := fun _ h =>
  List.mem_of_find?_eq_some ((mem_firstsBy HostType.hash).mp h)

theorem lineage_subset_closure : base.lineage interfaces ⊆ base.closure interfaces :=
  List.append_subset.mpr ⟨List.subset_append_left _ _,
    List.subset_append_of_subset_right _ (preorders_subset_expansion _)⟩

/-- A type of the name of a base or superclass is that base or superclass. -/
theorem mem_chain_of_visited (hapart : Apart (base.closure interfaces))
    (hu : u ∈ base.closure interfaces) (h : Visited base.classes u) : u ∈ base.chain := by
  obtain ⟨v, hv, hhash⟩ := h
  have hv := classes_subset_chain base hv
  exact hapart v (List.mem_append_left _ hv) u hu hhash ▸ hv

/-- A type is not missed unless it is passed over for being a class. -/
theorem mem_lineage (hapart : Apart (base.closure interfaces)) (hu : u ∈ base.closure interfaces)
    (h : ¬Visited base.classes u →
      u ∈ preorders base.classes (base.declaredInterfaces interfaces)) :
    u ∈ base.lineage interfaces := by
  by_cases hvisited : Visited base.classes u
  · exact List.mem_append_left _ (mem_chain_of_visited hapart hu hvisited)
  · exact List.mem_append_right _ (h hvisited)

theorem mem_preorder_self (h : ¬Visited classes t) : t ∈ preorder classes t := by
  rw [preorder_eq, if_neg (mt visited_iff.mp h)]
  exact List.mem_cons_self

theorem mem_lineage_of_declared (hapart : Apart (base.closure interfaces))
    (hu : u ∈ base.declaredInterfaces interfaces) : u ∈ base.lineage interfaces :=
  mem_lineage hapart (List.mem_append_right _ (mem_expansion_self hu)) fun h =>
    mem_preorders.mpr ⟨u, hu, mem_preorder_self h⟩

/-- The parents of what is met are met: those of a class among the declared interfaces. -/
theorem mem_lineage_of_parent (hapart : Apart (base.closure interfaces))
    (ht : t ∈ base.lineage interfaces) (hu : u ∈ t.interfaces) : u ∈ base.lineage interfaces := by
  rcases List.mem_append.mp ht with hclass | ht
  · exact mem_lineage_of_declared hapart
      (List.mem_append_right _ (List.mem_flatMap.mpr ⟨t, hclass, hu⟩))
  · have hexpansion := preorders_subset_expansion _ ht
    refine mem_lineage hapart (List.mem_append_right _ ?_) fun h => ?_
    · exact expansion_interfaces_subset hexpansion (mem_expansion_self hu)
    · refine preorders_subset _ ht ?_
      rw [preorder_eq, if_neg (mt visited_iff.mp (not_visited_of_mem_preorders _ ht))]
      exact List.mem_cons_of_mem _ (mem_preorders.mpr ⟨u, hu, mem_preorder_self h⟩)

mutual

theorem preorder_subset_lineage (hapart : Apart (base.closure interfaces)) (t : HostType)
    (ht : t ∈ base.lineage interfaces) : preorder [] t ⊆ base.lineage interfaces := by
  have hparents {u : HostType} := mem_lineage_of_parent (u := u) hapart ht
  obtain ⟨own, superclass, parents⟩ := t
  rw [preorder_nil]
  exact List.cons_subset.mpr ⟨ht, expansion_subset_lineage hapart parents fun u => hparents⟩
termination_by structural t

theorem expansion_subset_lineage (hapart : Apart (base.closure interfaces)) (ts : List HostType)
    (hts : ∀ t ∈ ts, t ∈ base.lineage interfaces) : expansion ts ⊆ base.lineage interfaces := by
  cases ts with
  | nil => exact List.nil_subset _
  | cons t ts =>
    obtain ⟨ht, hts⟩ := List.forall_mem_cons.mp hts
    rw [expansion, preorders]
    exact List.append_subset.mpr
      ⟨preorder_subset_lineage hapart t ht, expansion_subset_lineage hapart ts hts⟩
termination_by structural ts

end

/-- Nothing is missed by passing over classes: what is above them is met again. -/
theorem mem_lineage_iff (hapart : Apart (base.closure interfaces)) :
    t ∈ base.lineage interfaces ↔ t ∈ base.closure interfaces := by
  refine ⟨fun h => lineage_subset_closure h, fun h => ?_⟩
  rcases List.mem_append.mp h with hclass | hexpansion
  · exact List.mem_append_left _ hclass
  · exact expansion_subset_lineage hapart _ (fun u => mem_lineage_of_declared hapart) hexpansion

/-- Visits meet what a class inherits from in this order, each type where it comes first. -/
theorem ancestors_eq_lineage (hapart : Apart (base.closure interfaces)) :
    base.ancestors interfaces = firstsBy hash (base.lineage interfaces) := by
  have hinterfaces : preorders base.classes (base.declaredInterfaces interfaces) ⊆
      base.closure interfaces :=
    List.subset_append_of_subset_right _ (preorders_subset_expansion _)
  rw [ancestors_preorder (hapart.subset hinterfaces)]
  exact List.foldl_append.symm

theorem mem_firstsBy_hash (hapart : Apart ts) : t ∈ firstsBy hash ts ↔ t ∈ ts := by
  rw [mem_firstsBy]
  refine ⟨List.mem_of_find?_eq_some, fun ht => ?_⟩
  have hfound : (ts.find? (·.hash == t.hash)).isSome :=
    List.find?_isSome.mpr ⟨t, ht, beq_self_eq_true _⟩
  obtain ⟨u, hu⟩ := Option.isSome_iff_exists.mp hfound
  have hhash : u.hash = t.hash := by simpa using List.find?_some hu
  rw [hu, hapart u (List.mem_of_find?_eq_some hu) t ht hhash]

/-- What is visited is all that a class inherits from. -/
theorem mem_ancestors (hapart : Apart (base.closure interfaces)) :
    t ∈ base.ancestors interfaces ↔ t ∈ base.closure interfaces := by
  rw [ancestors_eq_lineage hapart, mem_firstsBy_hash (hapart.subset lineage_subset_closure),
    mem_lineage_iff hapart]

/-- No class is passed over if none stands among the interfaces. -/
theorem lineage_eq_closure (hapart : Apart (base.closure interfaces))
    (h : ∀ t ∈ base.chain, t ∉ expansion (base.declaredInterfaces interfaces)) :
    base.lineage interfaces = base.closure interfaces := by
  refine congrArg _ (preorders_eq_expansion _ fun t ht hvisited => ?_)
  exact h t (mem_chain_of_visited hapart (List.mem_append_right _ ht) hvisited) ht

end HostType

end ScriptClass
