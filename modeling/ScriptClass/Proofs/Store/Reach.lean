import ScriptClass.Store.Reach
import Mathlib.Data.List.Perm.Subperm
import Mathlib.Data.Set.Function
import Mathlib.Logic.Relation

/-!
# What roots reach

`Store.reach` collects keys: it widens what it has met by what that holds, with fuel for
one round per thing that there is. `Store.Reaches` is the relation behind it, holding any
number of times.

Keys stand for things as long as the things in use form a `Heap`: what they hold is among
them, each has a number that was given out, and no two have one key. Each round then meets
a key that is new and there are no more keys than things (`length_le_population`), so the
fuel suffices, and what is collected is exactly what is reached (`Heap.mem_reach`).
-/

namespace ScriptClass

/-- All of these things are in use. -/
abbrev InUse (L : Set Holding) (hs : List Holding) : Prop := ∀ x ∈ hs, x ∈ L

theorem InUse.nil (L : Set Holding) : InUse L [] := List.forall_mem_nil _

namespace Store

variable {s : Store} {L : Set Holding} {seen : List Holding.Key} {met roots : List Holding}
  {h x : Holding} {k : Holding.Key}

/-- The thing itself holds the other. -/
def Holds (s : Store) (h x : Holding) : Prop := x ∈ s.held h

/-- One of the roots holds the thing, directly or not, or is the thing. -/
def Reaches (s : Store) (roots : List Holding) (h : Holding) : Prop :=
  ∃ r ∈ roots, Relation.ReflTransGen s.Holds r h

/-- The number of the key was given out. -/
def Has (s : Store) : Holding.Key → Prop
  | .type id => id < s.declarations
  | .wrapper id => id < s.wrappers.size
  | .pair id => id < s.pairs.size
  | .facet id => id < s.facets
  | .literal id => id < s.literals.size
  | .function id => id < s.functions.size

/-- Things that hold only each other and that their keys tell apart. -/
structure Heap (s : Store) (L : Set Holding) : Prop where
  closed : ∀ h ∈ L, ∀ x ∈ s.held h, x ∈ L
  has : ∀ h ∈ L, s.Has h.key
  single : L.InjOn Holding.key

/-! ## Reached things -/

theorem Reaches.root (h : x ∈ roots) : s.Reaches roots x := ⟨x, h, .refl⟩

theorem Reaches.held (hh : s.Reaches roots h) (hx : x ∈ s.held h) : s.Reaches roots x := by
  obtain ⟨r, hr, hpath⟩ := hh
  exact ⟨r, hr, hpath.tail hx⟩

/-- What is reached depends on what things hold only. -/
theorem reaches_congr {s s' : Store} (h : s'.held = s.held) (roots : List Holding) :
    s'.Reaches roots = s.Reaches roots := by
  have hholds : s'.Holds = s.Holds := by
    unfold Holds
    rw [h]
  unfold Reaches
  rw [hholds]

/-- Roots in a heap reach only things of the heap. -/
theorem Heap.mem_of_reaches (hs : s.Heap L) (hroots : InUse L roots)
    (h : s.Reaches roots x) : x ∈ L := by
  obtain ⟨r, hr, hpath⟩ := h
  induction hpath with
  | refl => exact hroots r hr
  | tail _ hstep ih => exact hs.closed _ ih _ hstep

/-- What roots in a heap reach is a heap again. -/
theorem Heap.reached (hs : s.Heap L) (hroots : InUse L roots) :
    s.Heap {h | s.Reaches roots h} where
  closed _ hh _ hx := Reaches.held hh hx
  has h hh := hs.has h (hs.mem_of_reaches hroots hh)
  single := hs.single.mono fun _ hh => hs.mem_of_reaches hroots hh

/-! ## Meeting things -/

theorem meet_cons_seen (hk : h.key ∈ seen) (hs : List Holding) :
    meet seen (h :: hs) = meet seen hs := by
  rw [meet, if_pos (List.contains_iff_mem.mpr hk)]

theorem meet_cons_new (hk : h.key ∉ seen) (hs : List Holding) : meet seen (h :: hs) =
    ((meet (h.key :: seen) hs).1, h :: (meet (h.key :: seen) hs).2) := by
  rw [meet, if_neg fun hmem => hk (List.contains_iff_mem.mp hmem)]

/-- What is new was among the things. -/
theorem mem_of_mem_meet (hx : x ∈ (meet seen met).2) : x ∈ met := by
  induction met generalizing seen with
  | nil => cases hx
  | cons h hs ih =>
    by_cases hk : h.key ∈ seen
    · rw [meet_cons_seen hk] at hx
      exact List.mem_cons_of_mem _ (ih hx)
    · rw [meet_cons_new hk] at hx
      rcases List.mem_cons.mp hx with rfl | hx
      · exact List.mem_cons_self
      · exact List.mem_cons_of_mem _ (ih hx)

/-- The keys seen afterwards: those from before and those of the new things. -/
theorem mem_meet : k ∈ (meet seen met).1 ↔ k ∈ seen ∨ ∃ h ∈ (meet seen met).2, h.key = k := by
  induction met generalizing seen with
  | nil => simp [meet]
  | cons h hs ih =>
    by_cases hk : h.key ∈ seen
    · rw [meet_cons_seen hk]
      exact ih
    · rw [meet_cons_new hk]
      simp only [ih, List.mem_cons, exists_eq_or_imp, or_assoc, eq_comm (a := k)]
      exact or_left_comm

/-- The key of every thing is seen afterwards. -/
theorem key_mem_meet (hx : x ∈ met) : x.key ∈ (meet seen met).1 := by
  induction met generalizing seen with
  | nil => cases hx
  | cons h hs ih =>
    by_cases hk : h.key ∈ seen
    · rw [meet_cons_seen hk]
      rcases List.mem_cons.mp hx with rfl | hx
      · exact mem_meet.mpr (.inl hk)
      · exact ih hx
    · rw [meet_cons_new hk]
      rcases List.mem_cons.mp hx with rfl | hx
      · exact mem_meet.mpr (.inl List.mem_cons_self)
      · exact ih hx

theorem length_meet (seen : List Holding.Key) (met : List Holding) :
    (meet seen met).1.length = seen.length + (meet seen met).2.length := by
  induction met generalizing seen with
  | nil => rfl
  | cons h hs ih =>
    by_cases hk : h.key ∈ seen
    · rw [meet_cons_seen hk]
      exact ih seen
    · rw [meet_cons_new hk]
      dsimp only
      rw [ih, List.length_cons, List.length_cons]
      omega

theorem nodup_meet (hseen : seen.Nodup) : (meet seen met).1.Nodup := by
  induction met generalizing seen with
  | nil => exact hseen
  | cons h hs ih =>
    by_cases hk : h.key ∈ seen
    · rw [meet_cons_seen hk]
      exact ih hseen
    · rw [meet_cons_new hk]
      exact ih (List.nodup_cons.mpr ⟨hk, hseen⟩)

/-! ## Collecting -/

/-- The keys of all things that there are. -/
def keys (s : Store) : List Holding.Key :=
  (List.range s.declarations).map .type ++ (List.range s.wrappers.size).map .wrapper ++
    (List.range s.pairs.size).map .pair ++ (List.range s.facets).map .facet ++
      (List.range s.literals.size).map .literal ++ (List.range s.functions.size).map .function

theorem mem_keys (hk : s.Has k) : k ∈ s.keys := by
  cases k <;> simpa [keys, Has] using hk

theorem length_keys (s : Store) : s.keys.length = s.population := by
  simp [keys, population, Nat.add_assoc]

theorem length_le_population (hnodup : seen.Nodup) (hseen : ∀ k ∈ seen, s.Has k) :
    seen.length ≤ s.population := by
  rw [← length_keys]
  exact (List.subperm_of_subset hnodup fun k hk => mem_keys (hseen k hk)).length_le

/-- The state of a collection: only what was met last can hold something unseen. -/
structure Collecting (s : Store) (L : Set Holding) (seen : List Holding.Key)
    (met : List Holding) : Prop where
  nodup : seen.Nodup
  mem_of_met : ∀ h ∈ met, h ∈ L
  mem_of_seen : ∀ k ∈ seen, ∃ h ∈ L, h.key = k
  widened : ∀ h ∈ L, h.key ∈ seen → h ∈ met ∨ ∀ x ∈ s.held h, x.key ∈ seen

theorem Collecting.start (hs : s.Heap L) (hroots : InUse L roots) :
    s.Collecting L (meet [] roots).1 (meet [] roots).2 where
  nodup := nodup_meet .nil
  mem_of_met h hh := hroots h (mem_of_mem_meet hh)
  mem_of_seen k hk := by
    obtain hnil | ⟨h, hh, hkey⟩ := mem_meet.mp hk
    · cases hnil
    · exact ⟨h, hroots h (mem_of_mem_meet hh), hkey⟩
  widened h hh hk := by
    obtain hnil | ⟨x, hx, hkey⟩ := mem_meet.mp hk
    · cases hnil
    · have hxL := hroots x (mem_of_mem_meet hx)
      rw [hs.single hxL hh hkey] at hx
      exact .inl hx

/-- One round: what was met last is widened, and the new things are met. -/
theorem Collecting.step (hs : s.Heap L) (hc : s.Collecting L seen met) :
    s.Collecting L (meet seen (met.flatMap s.held)).1 (meet seen (met.flatMap s.held)).2 := by
  have hheld : ∀ x ∈ (meet seen (met.flatMap s.held)).2, x ∈ L := by
    intro x hx
    obtain ⟨m, hm, hxm⟩ := List.mem_flatMap.mp (mem_of_mem_meet hx)
    exact hs.closed m (hc.mem_of_met m hm) x hxm
  refine ⟨nodup_meet hc.nodup, hheld, fun k hk => ?_, fun h hh hk => ?_⟩
  · obtain hold | ⟨x, hx, hkey⟩ := mem_meet.mp hk
    · exact hc.mem_of_seen k hold
    · exact ⟨x, hheld x hx, hkey⟩
  · obtain hold | ⟨x, hx, hkey⟩ := mem_meet.mp hk
    · right
      intro x hx
      rcases hc.widened h hh hold with hmet | hdone
      · exact key_mem_meet (List.mem_flatMap.mpr ⟨h, hmet, hx⟩)
      · exact mem_meet.mpr (.inl (hdone x hx))
    · rw [hs.single (hheld x hx) hh hkey] at hx
      exact .inl hx

/-- With enough fuel a collection goes on until nothing is new. -/
theorem reachFrom_collecting (hs : s.Heap L) (fuel : Nat) (hc : s.Collecting L seen met)
    (hfuel : s.population < seen.length + fuel) :
    seen ⊆ s.reachFrom fuel seen met ∧ s.Collecting L (s.reachFrom fuel seen met) [] := by
  induction fuel generalizing seen met with
  | zero =>
    have hle : seen.length ≤ s.population := by
      refine length_le_population hc.nodup fun k hk => ?_
      obtain ⟨h, hh, rfl⟩ := hc.mem_of_seen k hk
      exact hs.has h hh
    omega
  | succ fuel ih =>
    have hstep := hc.step hs
    have hlength := length_meet seen (met.flatMap s.held)
    have hsub : seen ⊆ (meet seen (met.flatMap s.held)).1 := fun k hk => mem_meet.mpr (.inl hk)
    rw [reachFrom]
    rcases hmeet : meet seen (met.flatMap s.held) with ⟨seen', _ | ⟨x, new⟩⟩ <;>
      rw [hmeet] at hstep hlength hsub
    · exact ⟨hsub, hstep⟩
    · have hlonger : seen'.length = seen.length + (new.length + 1) := hlength
      obtain ⟨hsub', hend⟩ := ih hstep (by dsimp only; omega)
      exact ⟨List.Subset.trans hsub hsub', hend⟩

/-- What is collected is what is reached. -/
theorem Heap.mem_reach (hs : s.Heap L) (hroots : InUse L roots) :
    k ∈ s.reach roots ↔ ∃ h, s.Reaches roots h ∧ h.key = k := by
  have hreached := hs.reached hroots
  have hstart : s.Collecting {h | s.Reaches roots h} (meet [] roots).1 (meet [] roots).2 :=
    .start hreached fun _ => Reaches.root
  obtain ⟨hsub, hend⟩ := reachFrom_collecting hreached (s.population + 1) hstart (by omega)
  constructor
  · exact hend.mem_of_seen k
  · rintro ⟨h, ⟨r, hr, hpath⟩, rfl⟩
    induction hpath with
    | refl => exact hsub (key_mem_meet hr)
    | tail hpath hstep ih =>
      rcases hend.widened _ ⟨r, hr, hpath⟩ ih with hnil | hdone
      · cases hnil
      · exact hdone _ hstep

/-- A thing of the heap is reached if its key is collected. -/
theorem Heap.key_mem_reach (hs : s.Heap L) (hroots : InUse L roots) (hh : h ∈ L) :
    h.key ∈ s.reach roots ↔ s.Reaches roots h := by
  rw [hs.mem_reach hroots]
  constructor
  · rintro ⟨x, hx, hkey⟩
    rw [← hs.single (hs.mem_of_reaches hroots hx) hh hkey]
    exact hx
  · intro hreach
    exact ⟨h, hreach, rfl⟩

end Store

end ScriptClass
