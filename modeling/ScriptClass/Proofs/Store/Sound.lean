import ScriptClass.Proofs.Registry.LiveTypes
import ScriptClass.Proofs.Store.Growth

/-!
# Stores in which everything in use is loaded

A store is `Sound` for the things in use if these form a heap and no reference that does
not hold its target is missing one: the wrapper class of a generated type leads back to the
type (`Tied`), and the registry lists every generated type that is in use under its name
(`Registry.Lists`). Conversely what is led to or listed is in use.

Each step of a store keeps it so, for the things in use before and the one that the step
makes. Unloading keeps it so for what the roots reach (`Sound.settle`), so that they are all
that is loaded then.
-/

namespace ScriptClass

namespace HostType

variable {t u : HostType} {w : WrapperRef}

/-- The wrapper class that the constructor of a generated type leads to. -/
def wrapper? (t : HostType) : Option WrapperRef :=
  match t.own.instantiation with
  | some (.generated w) => some w
  | _ => none

theorem wrapper?_eq_some : t.wrapper? = some w ↔ t.own.instantiation = some (.generated w) := by
  unfold wrapper?
  split
  next w' hw' => simp [hw']
  next hnone => simpa using hnone w

/-- Generated types are those whose constructor leads to a wrapper class. -/
def IsGenerated (t : HostType) : Prop := ∃ w, t.wrapper? = some w

/-- The type inherits from no generated type, and is none itself. -/
def Plain (t : HostType) : Prop := ∀ u, t.Inherits u → ¬ u.IsGenerated

end HostType

namespace Store

variable {s s' : Store} {L : Set Holding} {xs roots : List Holding} {n h x : Holding}

/-! ## Lists of loaded types -/

/-- The registry lists the generated types in use, and only types in use. The host types
that it keeps loaded do not inherit from generated ones. -/
structure Lists (r : Registry) (L : Set Holding) : Prop where
  listed : ∀ t, .type t ∈ L → t.IsGenerated → r.liveTypes t.name = some ⟨t, true⟩
  generated : ∀ n t, r.liveTypes n = some ⟨t, true⟩ → .type t ∈ L ∧ t.IsGenerated ∧ t.name = n
  host : ∀ n t, r.liveTypes n = some ⟨t, false⟩ → .type t ∈ L ∧ t.Plain
  object : .type r.object ∈ L ∧ r.object.Plain
  string : .type r.string ∈ L ∧ r.string.Plain
  distinct : (r.entries.map Prod.fst).Nodup

section Lists

variable {r r' : Registry} {t : HostType}

/-- Nothing but a generated type needs an entry. -/
theorem Lists.join (h : Lists r L) (hn : ∀ t, n = .type t → ¬ t.IsGenerated) :
    Lists r (insert n L) where
  listed t ht hgen := by
    rcases ht with heq | ht
    · exact absurd hgen (hn t heq.symm)
    · exact h.listed t ht hgen
  generated n t hlive := (h.generated n t hlive).imp_left .inr
  host n t hlive := (h.host n t hlive).imp_left .inr
  object := h.object.imp_left .inr
  string := h.string.imp_left .inr
  distinct := h.distinct

theorem liveTypes_insert_iff {e : RegistryEntry} {l : LiveType} (he : e.live? = some l) (n : String)
    (l' : LiveType) : (r.insert t e).liveTypes n = some l' ↔
      n = t.name ∧ l = l' ∨ n ≠ t.name ∧ r.liveTypes n = some l' := by
  rw [Registry.liveTypes_insert, Function.update_apply, he]
  split
  next heq => simp [heq]
  next hne => simp [hne]

theorem distinct_insert (h : (r.entries.map Prod.fst).Nodup) (t : HostType) (e : RegistryEntry) :
    ((r.insert t e).entries.map Prod.fst).Nodup := by
  refine List.nodup_cons.mpr ⟨fun hmem => ?_, h.sublist (List.filter_sublist.map _)⟩
  obtain ⟨e, he, heq⟩ := List.mem_map.mp hmem
  exact bne_iff_ne.mp (List.mem_filter.mp he).2 heq

/-- An entry of a free name takes it from no generated type in use. -/
theorem Lists.listed_insert (h : Lists r L) {e : RegistryEntry} {l : LiveType}
    (he : e.live? = some l) (hfree : r.liveTypes t.name = none) {u : HostType} (hu : .type u ∈ L)
    (hgen : u.IsGenerated) : (r.insert t e).liveTypes u.name = some ⟨u, true⟩ := by
  have hlisted := h.listed u hu hgen
  refine (liveTypes_insert_iff he _ _).mpr (.inr ⟨fun heq => ?_, hlisted⟩)
  rw [heq, hfree] at hlisted
  cases hlisted

/-- A new generated type is listed under a free name. -/
theorem Lists.enter (h : Lists r L) (ht : t.IsGenerated) (hfree : r.liveTypes t.name = none) :
    Lists (r.insert t (.generated (some t))) (insert (.type t) L) where
  listed u hu hgen := by
    rcases hu with heq | hu
    · cases heq
      exact (liveTypes_insert_iff rfl _ _).mpr (.inl ⟨rfl, rfl⟩)
    · exact h.listed_insert rfl hfree hu hgen
  generated n u hlive := by
    rcases (liveTypes_insert_iff rfl n _).mp hlive with ⟨rfl, heq⟩ | ⟨-, hlive⟩
    · cases heq
      exact ⟨.inl rfl, ht, rfl⟩
    · exact (h.generated n u hlive).imp_left .inr
  host n u hlive := by
    rcases (liveTypes_insert_iff rfl n _).mp hlive with ⟨rfl, heq⟩ | ⟨-, hlive⟩
    · cases heq
    · exact (h.host n u hlive).imp_left .inr
  object := h.object.imp_left .inr
  string := h.string.imp_left .inr
  distinct := distinct_insert h.distinct _ _

/-- A host type in use is kept loaded under a free name. -/
theorem Lists.register (h : Lists r L) (ht : .type t ∈ L) (hplain : t.Plain)
    (hfree : r.liveTypes t.name = none) : Lists (r.insert t (.host t)) L where
  listed u hu hgen := h.listed_insert rfl hfree hu hgen
  generated n u hlive := by
    rcases (liveTypes_insert_iff rfl n _).mp hlive with ⟨rfl, heq⟩ | ⟨-, hlive⟩
    · cases heq
    · exact h.generated n u hlive
  host n u hlive := by
    rcases (liveTypes_insert_iff rfl n _).mp hlive with ⟨rfl, heq⟩ | ⟨-, hlive⟩
    · cases heq
      exact ⟨ht, hplain⟩
    · exact h.host n u hlive
  object := h.object
  string := h.string
  distinct := distinct_insert h.distinct _ _

theorem Lists.purge (h : Lists r L) : Lists r.purge L := by
  have hlive : r.purge.liveTypes = r.liveTypes := Registry.liveTypes_purge h.distinct
  have hrest : r.purge.object = r.object ∧ r.purge.string = r.string ∧
      r.purge.entries.Sublist r.entries := by
    rw [Registry.purge]
    generalize r.deadNames = names
    clear h hlive
    induction names generalizing r with
    | nil => exact ⟨rfl, rfl, .refl _⟩
    | cons name names ih =>
      obtain ⟨hobject, hstring, hentries⟩ := ih (r := r.erase name)
      exact ⟨hobject, hstring, hentries.trans List.filter_sublist⟩
  obtain ⟨hobject, hstring, hentries⟩ := hrest
  refine ⟨?_, ?_, ?_, ?_, ?_, h.distinct.sublist (hentries.map _)⟩
  · rw [hlive]
    exact h.listed
  · rw [hlive]
    exact h.generated
  · rw [hlive]
    exact h.host
  · rw [hobject]
    exact h.object
  · rw [hstring]
    exact h.string

/-- Unloading what is not held leaves a list of what is, if that has all host types. -/
theorem Lists.unload (h : Lists r L) {L' : Set Holding} {isHeld : HostType → Bool}
    (hsub : ∀ x ∈ L', x ∈ L) (hheld : ∀ t, .type t ∈ L → (isHeld t = true ↔ .type t ∈ L'))
    (hhost : ∀ n t, r.liveTypes n = some ⟨t, false⟩ → .type t ∈ L')
    (hobject : .type r.object ∈ L') (hstring : .type r.string ∈ L') :
    Lists (r.unload isHeld) L' := by
  have hlive (n : String) (l : LiveType) : (r.unload isHeld).liveTypes n = some l ↔
      r.liveTypes n = some l ∧ (!l.isGenerated || isHeld l.type) = true := by
    rw [Registry.liveTypes_unload]
    exact Option.filter_eq_some_iff
  refine ⟨fun t ht hgen => ?_, fun n t ht => ?_, fun n t ht => ?_, ⟨hobject, h.object.2⟩,
    ⟨hstring, h.string.2⟩, ?_⟩
  · exact (hlive _ _).mpr ⟨h.listed t (hsub _ ht) hgen, (hheld t (hsub _ ht)).mpr ht⟩
  · obtain ⟨hbefore, hkept⟩ := (hlive _ _).mp ht
    obtain ⟨hmem, hrest⟩ := h.generated n t hbefore
    exact ⟨(hheld t hmem).mp hkept, hrest⟩
  · obtain ⟨hbefore, -⟩ := (hlive _ _).mp ht
    exact ⟨hhost n t hbefore, (h.host n t hbefore).2⟩
  · rw [Registry.entries_unload, List.map_map]
    exact h.distinct

end Lists

/-- A host entry is a loaded type of its name. -/
theorem Lists.liveTypes_of_mem {r : Registry} (h : Lists r L) {n : String} {t : HostType}
    (he : (n, .host t) ∈ r.entries) : r.liveTypes n = some ⟨t, false⟩ := by
  rw [Registry.liveTypes, Registry.entry?, lookup_of_mem h.distinct he]
  rfl

/-- A name leads to a generated type exactly if the type is in use and has the name. -/
theorem Lists.lookup_iff {r : Registry} {t : HostType} (h : Lists r L) {n : String} :
    r.lookup n = some t ∧ t.IsGenerated ↔ .type t ∈ L ∧ t.IsGenerated ∧ t.name = n := by
  rw [Registry.lookup_eq, Option.map_eq_some_iff]
  constructor
  · rintro ⟨⟨⟨u, _ | _⟩, hlive, rfl⟩, hgen⟩
    · exact absurd hgen ((h.host n u hlive).2 u .refl)
    · exact h.generated n u hlive
  · rintro ⟨ht, hgen, rfl⟩
    exact ⟨⟨_, h.listed t ht hgen, rfl⟩, hgen⟩

theorem mem_registryRoots : x ∈ s.registryRoots ↔ x = .type s.registry.object ∨
    x = .type s.registry.string ∨ ∃ n t, (n, .host t) ∈ s.registry.entries ∧ x = .type t := by
  rw [registryRoots, List.mem_cons, List.mem_cons, List.mem_filterMap]
  refine or_congr_right (or_congr_right ?_)
  constructor
  · rintro ⟨⟨n, t | t⟩, he, heq⟩
    · exact ⟨n, t, he, (Option.some.inj heq).symm⟩
    · cases heq
  · rintro ⟨n, t, he, rfl⟩
    exact ⟨(n, .host t), he, rfl⟩

theorem host_mem_registryRoots {n : String} {t : HostType}
    (h : s.registry.liveTypes n = some ⟨t, false⟩) : .type t ∈ s.registryRoots := by
  obtain ⟨e, he, hlive⟩ := Option.bind_eq_some_iff.mp h
  refine mem_registryRoots.mpr (.inr (.inr ⟨n, t, mem_of_lookup ?_, rfl⟩))
  rcases e with u | _ | u
  · cases hlive
    exact he
  · cases hlive
  · cases hlive

/-- What the registry keeps loaded inherits from no generated type. -/
theorem Lists.registryRoots (h : Lists s.registry L) (hx : x ∈ s.registryRoots) :
    ∃ t, x = .type t ∧ .type t ∈ L ∧ t.Plain := by
  rcases mem_registryRoots.mp hx with rfl | rfl | ⟨n, t, he, rfl⟩
  · exact ⟨_, rfl, h.object⟩
  · exact ⟨_, rfl, h.string⟩
  · exact ⟨t, rfl, h.host n t (h.liveTypes_of_mem he)⟩

theorem registryRoots_unload (s : Store) (keys : List Holding.Key) :
    (s.unload keys).registryRoots = s.registryRoots := by
  simp only [registryRoots, Store.unload, Registry.unload, List.filterMap_map]
  congr 2
  refine List.filterMap_congr fun e _ => ?_
  rcases e with ⟨n, t | t⟩ <;> rfl

/-! ## Sound stores -/

/-- The thing has both sides of its generated class, and these lead to each other. -/
def Tied (s : Store) : Holding → Prop
  | .type t => ∀ w, t.wrapper? = some w → s.backing? w.id = some t
  | .pair p => p.type.wrapper? = some p.wrapper
  | .facet f => f.backing.wrapper? = some f.wrapper
  | _ => True

/-- Everything in use is loaded, and what is loaded is in use. -/
structure Sound (s : Store) (L : Set Holding) : Prop where
  heap : s.Heap L
  tied : ∀ h ∈ L, s.Tied h
  backing : ∀ i t, s.backing? i = some t → .type t ∈ L ∧ ∃ w, t.wrapper? = some w ∧ w.id = i
  handed : ∀ i f, s.handed? i = some f → .facet f ∈ L
  lists : Lists s.registry L

theorem Tied.congr (hb : s'.backing? = s.backing?) (h : s.Tied x) : s'.Tied x := by
  cases x with
  | type t =>
    intro w hw
    rw [hb]
    exact h w hw
  | _ => exact h

namespace Sound

theorem wrapper (hs : s.Sound L) {t : HostType} {w : WrapperRef} (ht : .type t ∈ L)
    (hw : t.wrapper? = some w) : .wrapper w ∈ L := by
  refine hs.heap.closed _ ht _ (mem_heldByType.mpr (.inr (.inl ⟨w, ?_, rfl⟩)))
  exact HostType.wrapper?_eq_some.mp hw

theorem wrapper?_of_mem (hs : s.Sound L) {w : WrapperRef} (hw : .wrapper w ∈ L) :
    ∃ c, s.wrapper? w = some c :=
  ⟨_, Array.getElem?_eq_getElem (hs.heap.has _ hw)⟩

theorem pair (hs : s.Sound L) {p : Pair} (hp : .pair p ∈ L) :
    .type p.type ∈ L ∧ p.type.wrapper? = some p.wrapper :=
  ⟨hs.heap.closed _ hp _ ((held_pair p).mpr (.inl rfl)), hs.tied _ hp⟩

theorem facet (hs : s.Sound L) {f : StaticFacet} (hf : .facet f ∈ L) :
    .type f.backing ∈ L ∧ f.backing.wrapper? = some f.wrapper :=
  ⟨hs.heap.closed _ hf _ List.mem_cons_self, hs.tied _ hf⟩

theorem registryRoots (hs : s.Sound L) (hx : x ∈ s.registryRoots) : x ∈ L := by
  obtain ⟨t, rfl, ht, -⟩ := hs.lists.registryRoots hx
  exact ht

/-! ## Steps -/

theorem grow (hs : s.Sound L) (hg : s.Grows s' xs) (hxs : InUse L xs) : s'.Sound L where
  heap := hs.heap.fill hg.toFills hxs
  tied h hh := (hs.tied h hh).congr hg.backing
  backing := by
    rw [hg.backing]
    exact hs.backing
  handed := by
    rw [hg.handed]
    exact hs.handed
  lists := by
    rw [hg.registry]
    exact hs.lists

/-- A new thing, no generated type, comes into use with all that it holds in use. -/
theorem join (hs : s.Sound L) (hg : s.Grows s' xs) (hxs : InUse L xs)
    (hnew : ¬ s.Has n.key) (hhas : s'.Has n.key) (hheld : InUse L (s.held n))
    (htied : s.Tied n) (hn : ∀ t, n = .type t → ¬ t.IsGenerated) : s'.Sound (insert n L) where
  heap := hs.heap.join hg.toFills hxs hnew hhas hheld
  tied h hh := by
    rcases hh with rfl | hh
    · exact htied.congr hg.backing
    · exact (hs.tied h hh).congr hg.backing
  backing i t hb := by
    rw [hg.backing] at hb
    exact (hs.backing i t hb).imp_left .inr
  handed i f hf := by
    rw [hg.handed] at hf
    exact .inr (hs.handed i f hf)
  lists := by
    rw [hg.registry]
    exact hs.lists.join hn

theorem newFunction (hs : s.Sound L) {code : FunctionCode} (hcode : InUse L code.holdings)
    (name : Option String) (arity : Option Nat) :
    (s.newFunction code name arity).2.Sound (insert (.function s.functions.size) L) := by
  refine hs.join (grows_function s code name arity) hcode (Nat.lt_irrefl _) ?_ ?_ trivial
    fun t ht => by cases ht
  · simp [Has, Holding.key, Store.newFunction]
  · intro x hx
    obtain ⟨code, hcode, -⟩ := (held_function _).mp hx
    simp at hcode

theorem newLiteral (hs : s.Sound L) {entries : Entries} (hentries : InUse L entries.holdings) :
    (s.newLiteral entries).2.Sound (insert (.literal s.literals.size) L) := by
  refine hs.join (grows_literal s entries) hentries (Nat.lt_irrefl _) ?_ ?_ trivial
    fun t ht => by cases ht
  · simp [Has, Holding.key, Store.newLiteral]
  · intro x hx
    obtain ⟨entries, hentries, -⟩ := (held_literal _).mp hx
    simp at hentries

theorem newPair (hs : s.Sound L) {t : HostType} {w : WrapperRef} {state : PairState}
    (ht : .type t ∈ L) (hw : t.wrapper? = some w)
    (hstate : InUse L state.properties.holdings) :
    (s.newPair t w state).2.Sound (insert (.pair (s.newPair t w state).1) L) := by
  refine hs.join (grows_pair s t w state) hstate (Nat.lt_irrefl _) ?_ ?_ hw
    fun t ht => by cases ht
  · simp [Has, Holding.key, Store.newPair]
  · intro x hx
    rcases (held_pair _).mp hx with rfl | rfl | ⟨state, hstate, -⟩
    · exact ht
    · exact hs.wrapper ht hw
    · simp [Store.newPair] at hstate

theorem newFacet (hs : s.Sound L) {t : HostType} {w : WrapperRef} (ht : .type t ∈ L)
    (hw : t.wrapper? = some w) :
    (s.newFacet t w).2.Sound (insert (.facet (s.newFacet t w).1) L) := by
  refine hs.join (grows_facet s t w) (.nil _) (Nat.lt_irrefl _) (Nat.lt_succ_self _) ?_ hw
    fun t ht => by cases ht
  intro x hx
  rcases List.mem_cons.mp hx with rfl | hx
  · exact ht
  · cases List.mem_singleton.mp hx
    exact hs.wrapper ht hw

theorem newType (hs : s.Sound L) (make : Nat → HostType)
    (hid : (make s.declarations).id = s.declarations)
    (hgen : ¬ (make s.declarations).IsGenerated)
    (hheld : ∀ x ∈ s.heldByType (make s.declarations), x ∈ L) :
    (s.newType make).2.Sound (insert (.type (make s.declarations)) L) := by
  refine hs.join (grows_type s make) (.nil _) ?_ ?_ hheld ?_ ?_
  · show ¬ (make s.declarations).id < s.declarations
    omega
  · show (make s.declarations).id < s.declarations + 1
    omega
  · intro w hw
    exact absurd ⟨w, hw⟩ hgen
  · intro t heq
    cases heq
    exact hgen

/-- A static facet in use is handed out by its wrapper class. -/
theorem handOut (hs : s.Sound L) (w : WrapperRef) {f : StaticFacet} (hf : .facet f ∈ L)
    {g : Wrapper → Wrapper} (hplan : ∀ c, (g c).plan = c.plan)
    (hbacking : ∀ c, (g c).backing = c.backing) (hfacet : ∀ c, (g c).facet = some f) :
    (s.updateWrapper w g).Sound L where
  heap := hs.heap.fill (fills_updateWrapper s w hplan) (.nil _)
  tied h hh := (hs.tied h hh).congr (backing?_updateWrapper s w hbacking)
  backing := by
    rw [backing?_updateWrapper s w hbacking]
    exact hs.backing
  handed i f' hf' := by
    simp only [handed?, Store.updateWrapper, Array.getElem?_modify] at hf'
    split at hf'
    next =>
      obtain ⟨c, hc, hf'⟩ := Option.bind_eq_some_iff.mp hf'
      obtain ⟨c, -, rfl⟩ := Option.map_eq_some_iff.mp hc
      rw [hfacet] at hf'
      cases hf'
      exact hf
    next => exact hs.handed i f' hf'
  lists := hs.lists

/-- A new generated type comes into use: its wrapper class, which led nowhere, leads to it
from now on, and the registry lists it. -/
theorem tie (hs : s.Sound L) {t : HostType} {w : WrapperRef} {r : Registry}
    (hid : t.id = s.declarations) (ht : t.wrapper? = some w) (hw : .wrapper w ∈ L)
    (hfree : s.backing? w.id = none) (hheld : InUse L (s.heldByType t))
    (hr : Lists r (insert (.type t) L)) {s₁ : Store}
    (hs₁ : s₁ = { s with declarations := s.declarations + 1, registry := r })
    {g : Wrapper → Wrapper} (hplan : ∀ c, (g c).plan = c.plan)
    (hbacking : ∀ c, (g c).backing = some t) (hfacet : ∀ c, (g c).facet = c.facet) :
    (s₁.updateWrapper w g).Sound (insert (.type t) L) := by
  subst hs₁
  have hfills : s.Fills (Store.updateWrapper
      { s with declarations := s.declarations + 1, registry := r } w g) [] :=
    { fills_updateWrapper s w hplan with declarations := Nat.le_succ _ }
  have hled (i : Nat) : Store.backing? (Store.updateWrapper
      { s with declarations := s.declarations + 1, registry := r } w g) i =
        if w.id = i then some t else s.backing? i := by
    obtain ⟨c, hc⟩ := hs.wrapper?_of_mem hw
    simp only [backing?, Store.updateWrapper, Array.getElem?_modify]
    split
    next heq =>
      rw [← heq, show s.wrappers[w.id]? = some c from hc]
      exact hbacking c
    next => rfl
  constructor
  · refine hs.heap.join hfills (.nil _) ?_ ?_ hheld
    · show ¬ t.id < s.declarations
      omega
    · show t.id < s.declarations + 1
      omega
  · rintro h (rfl | hh)
    · intro w' hw'
      cases ht.symm.trans hw'
      rw [hled, if_pos rfl]
    · cases h with
      | type u =>
        intro w' hw'
        have hu : s.backing? w'.id = some u := hs.tied _ hh w' hw'
        rw [hled, if_neg, hu]
        intro heq
        rw [← heq, hfree] at hu
        cases hu
      | _ => exact hs.tied _ hh
  · intro i u hu
    rw [hled] at hu
    split at hu
    next heq =>
      cases hu
      exact ⟨.inl rfl, w, ht, heq⟩
    next => exact (hs.backing i u hu).imp_left .inr
  · intro i f hf
    have hkept : s.handed? i = some f := by
      rw [← handed?_updateWrapper s w hfacet]
      exact hf
    exact .inr (hs.handed i f hkept)
  · exact hr

/-- What roots reach stays loaded and in use when all else is unloaded, if they have what the
registry keeps loaded among them. -/
theorem settle (hs : s.Sound L) (hroots : InUse L roots)
    (hregistry : ∀ r ∈ s.registryRoots, r ∈ roots) :
    (s.unload (s.reach roots)).Sound {h | s.Reaches roots h} := by
  have hsub : ∀ x ∈ {h | s.Reaches roots h}, x ∈ L := fun _ => hs.heap.mem_of_reaches hroots
  have hkept (x : Holding) (hx : x ∈ L) :
      (s.reach roots).contains x.key = true ↔ s.Reaches roots x :=
    List.contains_iff_mem.trans (hs.heap.key_mem_reach hroots hx)
  have hbacking (i : Nat) (t : HostType) : (s.unload (s.reach roots)).backing? i = some t ↔
      s.backing? i = some t ∧ s.Reaches roots (.type t) := by
    rw [backing?_unload, Option.filter_eq_some_iff]
    exact and_congr_right fun ht => hkept (.type t) (hs.backing i t ht).1
  have hhanded (i : Nat) (f : StaticFacet) : (s.unload (s.reach roots)).handed? i = some f ↔
      s.handed? i = some f ∧ s.Reaches roots (.facet f) := by
    rw [handed?_unload, Option.filter_eq_some_iff]
    exact and_congr_right fun hf => hkept (.facet f) (hs.handed i f hf)
  constructor
  · exact (hs.heap.reached hroots).fill (fills_unload s _) (.nil _)
  · intro h hh
    cases h with
    | type t =>
      intro w hw
      exact (hbacking _ _).mpr ⟨hs.tied _ (hsub _ hh) w hw, hh⟩
    | _ => exact hs.tied _ (hsub _ hh)
  · intro i t ht
    obtain ⟨hbefore, hreach⟩ := (hbacking i t).mp ht
    exact ⟨hreach, (hs.backing i t hbefore).2⟩
  · intro i f hf
    exact ((hhanded i f).mp hf).2
  · refine hs.lists.unload hsub (fun t ht => hkept (.type t) ht) (fun n t ht => ?_) ?_ ?_
    · exact .root (hregistry _ (host_mem_registryRoots ht))
    · exact .root (hregistry _ (mem_registryRoots.mpr (.inl rfl)))
    · exact .root (hregistry _ (mem_registryRoots.mpr (.inr (.inl rfl))))

end Sound

end Store

end ScriptClass
