import ScriptClass.Override.Candidates
import ScriptClass.Proofs.HostType.Lookup
import ScriptClass.Proofs.Firsts

/-!
# Visits and lookups

The override resolver visits the types that a class inherits from one after the
other and asks the first that declares a signature; a virtual call looks the
signature up afresh. Among interfaces the two agree: where the first declaration
that is visited has an implementation, the lookup finds an implementation
(`virtualInInterfaces?_of_ancestors`). In the chain of classes they agree as long
as the class that the lookup ends at is visited (`virtualInChain?_of_ancestors`), for
of two types of one name only the first is.
-/

namespace ScriptClass

namespace HostType

/-! ## What is visited -/

mutual

theorem prefix_visitInterface (visited : List HostType) (t : HostType) :
    visited <+: visitInterface visited t := by
  obtain ⟨own, superclass, interfaces⟩ := t
  rw [visitInterface]
  split
  · exact List.prefix_refl visited
  · exact (List.prefix_append visited _).trans (prefix_visitInterfaces _ interfaces)

theorem prefix_visitInterfaces (visited ts : List HostType) :
    visited <+: visitInterfaces visited ts := by
  cases ts with
  | nil => simp only [visitInterfaces, List.prefix_refl]
  | cons t ts =>
    rw [visitInterfaces]
    exact (prefix_visitInterface visited t).trans (prefix_visitInterfaces _ ts)

end

theorem visitInterfaces_append (visited ts us : List HostType) :
    visitInterfaces visited (ts ++ us) = visitInterfaces (visitInterfaces visited ts) us := by
  induction ts generalizing visited with
  | nil => rw [List.nil_append, visitInterfaces]
  | cons t ts ih => rw [List.cons_append, visitInterfaces, ih, ← visitInterfaces]

/-- One more type of a new name. -/
theorem pairwise_snoc {visited : List HostType} (h : visited.Pairwise fun a b => a.hash ≠ b.hash)
    {t : HostType} (ht : ¬visited.any (·.hash == t.hash)) :
    (visited ++ [t]).Pairwise fun a b => a.hash ≠ b.hash := by
  refine List.pairwise_append.mpr ⟨h, List.pairwise_singleton _ _, fun a ha b hb hab => ?_⟩
  obtain rfl := List.mem_singleton.mp hb
  exact ht (List.any_eq_true.mpr ⟨a, ha, beq_iff_eq.mpr hab⟩)

mutual

theorem pairwise_visitInterface (t : HostType) {visited : List HostType}
    (h : visited.Pairwise fun a b => a.hash ≠ b.hash) :
    (visitInterface visited t).Pairwise fun a b => a.hash ≠ b.hash := by
  obtain ⟨own, superclass, interfaces⟩ := t
  rw [visitInterface]
  split
  · exact h
  next ht => exact pairwise_visitInterfaces interfaces (pairwise_snoc h ht)
termination_by structural t

theorem pairwise_visitInterfaces (ts : List HostType) {visited : List HostType}
    (h : visited.Pairwise fun a b => a.hash ≠ b.hash) :
    (visitInterfaces visited ts).Pairwise fun a b => a.hash ≠ b.hash := by
  cases ts with
  | nil =>
    rw [visitInterfaces]
    exact h
  | cons t ts =>
    rw [visitInterfaces]
    exact pairwise_visitInterfaces ts (pairwise_visitInterface t h)
termination_by structural ts

end

theorem ancestors_eq (base : HostType) (interfaces : List HostType) :
    base.ancestors interfaces = visitInterfaces (firstsBy HostType.hash base.chain)
      (interfaces ++ base.chain.flatMap HostType.interfaces) := by
  rw [visitInterfaces_append]
  rfl

theorem prefix_ancestors (base : HostType) (interfaces : List HostType) :
    firstsBy HostType.hash base.chain <+: base.ancestors interfaces := by
  rw [ancestors_eq]
  exact prefix_visitInterfaces _ _

/-- No two types that are visited have one name. -/
theorem pairwise_ancestors (base : HostType) (interfaces : List HostType) :
    (base.ancestors interfaces).Pairwise fun a b => a.hash ≠ b.hash := by
  rw [ancestors_eq]
  exact pairwise_visitInterfaces _ (pairwise_firstsBy HostType.hash _)

/-- A class of the chain that is visited is visited as such. -/
theorem mem_classes_of_mem_ancestors {base : HostType} {interfaces : List HostType} {t : HostType}
    (hchain : t ∈ base.chain) (h : t ∈ base.ancestors interfaces) :
    t ∈ firstsBy HostType.hash base.chain := by
  have hfirst : ((firstsBy HostType.hash base.chain).find? (·.hash == t.hash)).isSome := by
    rw [find?_firstsBy, List.find?_isSome]
    exact ⟨t, hchain, beq_self_eq_true _⟩
  obtain ⟨t', ht'⟩ := Option.isSome_iff_exists.mp hfirst
  have hmem := List.mem_of_find?_eq_some ht'
  have hhash : t'.hash = t.hash := by simpa using List.find?_some ht'
  have hvisited : t' ∈ base.ancestors interfaces := (prefix_ancestors base interfaces).subset hmem
  have hpairwise := pairwise_ancestors base interfaces
  have heq : some t' = some t := by
    rw [← find?_of_pairwise HostType.hash hpairwise hvisited, hhash,
      find?_of_pairwise HostType.hash hpairwise h]
  exact Option.some.inj heq ▸ hmem

/-! ## Lookup among interfaces -/

variable {s : Signature} {x : HostType} {m : Method}

/-- Whether the type itself declares the signature. -/
def declares (s : Signature) (t : HostType) : Bool := (t.declared? s).isSome

theorem find?_of_extended {p : HostType → Bool} {visited later : List HostType} {t u : HostType}
    (hpre : visited <+: later) (ht : visited.find? p = some t) (hu : later.find? p = some u) :
    t = u := by
  obtain ⟨rest, rfl⟩ := hpre
  rw [List.find?_append, ht] at hu
  exact Option.some.inj hu

/-- Of two finds one with an implementation gives one. -/
theorem prefer_implemented {a b : Option Found}
    (h : (∃ found, a = some found ∧ found.2.isAbstract = false) ∨
      ∃ found, b = some found ∧ found.2.isAbstract = false) :
    ∃ found, prefer a b = some found ∧ found.2.isAbstract = false := by
  rcases h with ⟨found, rfl, hfound⟩ | ⟨found, rfl, hfound⟩
  · refine ⟨found, ?_, hfound⟩
    cases b with
    | none => rfl
    | some later => simp only [prefer, hfound, Bool.false_and, Bool.false_eq_true, if_false]
  · cases a with
    | none => exact ⟨found, rfl, hfound⟩
    | some first =>
      by_cases habs : first.2.isAbstract = true
      · exact ⟨found, by simp only [prefer, habs, hfound, Bool.not_false, Bool.and_self, if_true],
          hfound⟩
      · rw [Bool.not_eq_true] at habs
        exact ⟨first, by simp only [prefer, habs, Bool.false_and, Bool.false_eq_true, if_false],
          habs⟩

mutual

/-- If the first declaration that a visit meets has an implementation, so has what the
interface gives. -/
theorem virtualInInterface?_of_first (hx : x.declaredVirtual? s = some m)
    (hm : m.isAbstract = false) (t : HostType) {visited : List HostType}
    (hnone : visited.find? (declares s) = none)
    (hfirst : (visitInterface visited t).find? (declares s) = some x) :
    ∃ found, t.virtualInInterface? s = some found ∧ found.2.isAbstract = false := by
  obtain ⟨own, superclass, interfaces⟩ := t
  rw [visitInterface] at hfirst
  split at hfirst
  · rw [hnone] at hfirst
    cases hfirst
  rw [virtualInInterface?]
  by_cases ht : declares s (.mk own superclass interfaces) = true
  · -- The interface is the first declaration itself.
    have hself : (visited ++ [HostType.mk own superclass interfaces]).find? (declares s) =
        some (.mk own superclass interfaces) := by
      rw [List.find?_append, hnone, List.find?_singleton, if_pos ht]
      rfl
    rw [find?_of_extended (prefix_visitInterfaces _ _) hself hfirst, hx]
    exact ⟨_, rfl, hm⟩
  · have hnone' : (visited ++ [HostType.mk own superclass interfaces]).find? (declares s) =
        none := by
      rw [List.find?_append, hnone, List.find?_singleton, if_neg ht]
      rfl
    have hdeclared : (HostType.mk own superclass interfaces).declaredVirtual? s = none := by
      rw [declaredVirtual?, Option.not_isSome_iff_eq_none.mp ht]
      rfl
    rw [hdeclared]
    exact virtualInInterfaces?_of_first hx hm interfaces hnone' hfirst
termination_by structural t

theorem virtualInInterfaces?_of_first (hx : x.declaredVirtual? s = some m)
    (hm : m.isAbstract = false) (ts : List HostType) {visited : List HostType}
    (hnone : visited.find? (declares s) = none)
    (hfirst : (visitInterfaces visited ts).find? (declares s) = some x) :
    ∃ found, virtualInInterfaces? s ts = some found ∧ found.2.isAbstract = false := by
  cases ts with
  | nil =>
    rw [visitInterfaces, hnone] at hfirst
    cases hfirst
  | cons t ts =>
    rw [visitInterfaces] at hfirst
    rw [virtualInInterfaces?]
    refine prefer_implemented ?_
    cases hhead : (visitInterface visited t).find? (declares s) with
    | some y =>
      rw [find?_of_extended (prefix_visitInterfaces _ _) hhead hfirst] at hhead
      exact .inl (virtualInInterface?_of_first hx hm t hnone hhead)
    | none => exact .inr (virtualInInterfaces?_of_first hx hm ts hhead hfirst)
termination_by structural ts

end

/-! ## Lookup on a class -/

variable {base : HostType} {interfaces : List HostType}

/-- Whether the type itself declares the signature and not as static. -/
def declaresVirtual (s : Signature) (t : HostType) : Bool := (t.declaredVirtual? s).isSome

theorem declares_of_virtual {t : HostType} (h : declaresVirtual s t = true) : declares s t = true := by
  obtain ⟨m, hm⟩ := Option.isSome_iff_exists.mp h
  rw [declares, (declaredVirtual?_some.mp hm).1]
  rfl

theorem find?_of_virtualInChain? {found : Found} (h : base.virtualInChain? s = some found) :
    base.chain.find? (declaresVirtual s) = some found.1 := by
  obtain ⟨before, t, rest, hchain, ht, hbefore⟩ := List.findSome?_eq_some_iff.mp h
  obtain ⟨m, hm, rfl⟩ := Option.map_eq_some_iff.mp ht
  refine List.find?_eq_some_iff_append.mpr ⟨by rw [declaresVirtual, hm]; rfl, before, rest, hchain, fun u hu => ?_⟩
  rw [declaresVirtual, Option.map_eq_none_iff.mp (hbefore u hu)]
  rfl

/-- Where the first declaration that is visited is not static, the chain gives it, or
a declaration that is not visited. -/
theorem virtualInChain?_of_ancestors (hfirst : (base.ancestors interfaces).find? (declares s) = some x)
    (hx : x.declaredVirtual? s = some m) {found : Found} (h : base.virtualInChain? s = some found)
    (hvisited : found.1 ∈ base.ancestors interfaces) : found = (x, m) := by
  have hchain := find?_of_virtualInChain? h
  have hmem := mem_classes_of_mem_ancestors (List.mem_of_find?_eq_some hchain) hvisited
  have hvirtual := find?_firstsBy_of_mem HostType.hash hchain hmem
  have hdeclares : ((firstsBy HostType.hash base.chain).find? (declares s)).isSome := by
    rw [List.find?_isSome]
    exact ⟨found.1, hmem, declares_of_virtual (List.find?_some hvirtual)⟩
  obtain ⟨y, hy⟩ := Option.isSome_iff_exists.mp hdeclares
  obtain rfl := find?_of_extended (prefix_ancestors base interfaces) hy hfirst
  have hself : declaresVirtual s y = true := by
    rw [declaresVirtual, hx]
    rfl
  have hsame := find?_of_imp hy (fun _ => declares_of_virtual) hself
  have htype : found.1 = y := Option.some.inj (hvirtual.symm.trans hsame)
  have hmethod := virtualInChain?_declared h
  rw [htype, hx] at hmethod
  exact Prod.ext htype (Option.some.inj hmethod).symm

/-- Where the first declaration that is visited has an implementation and the chain
has nothing, the interfaces give an implementation. -/
theorem virtualInInterfaces?_of_ancestors
    (hfirst : (base.ancestors interfaces).find? (declares s) = some x)
    (hx : x.declaredVirtual? s = some m) (hm : m.isAbstract = false)
    (hchain : base.virtualInChain? s = none) :
    ∃ found, virtualInInterfaces? s (interfaces ++ base.chain.flatMap HostType.interfaces) =
      some found ∧ found.2.isAbstract = false := by
  have hnone : (firstsBy HostType.hash base.chain).find? (declares s) = none := by
    cases hy : (firstsBy HostType.hash base.chain).find? (declares s) with
    | none => rfl
    | some y =>
      have hyx := find?_of_extended (prefix_ancestors base interfaces) hy hfirst
      have hmem := (mem_firstsBy HostType.hash).mp (List.mem_of_find?_eq_some hy)
      have hy := List.findSome?_eq_none_iff.mp hchain y (List.mem_of_find?_eq_some hmem)
      rw [hyx, hx] at hy
      cases hy
  rw [ancestors_eq] at hfirst
  exact virtualInInterfaces?_of_first hx hm _ hnone hfirst

end HostType

end ScriptClass
