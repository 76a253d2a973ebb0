import ScriptClass.Proofs.Store.Reach
import ScriptClass.Proofs.HostType.Subtype
import ScriptClass.Generation.Load

/-!
# How stores grow

A change `Fills` a store with some things if all that anything holds afterwards it held
before, or is one of them. A heap stays a heap when its store is filled with things of the
heap (`Heap.fill`), also with a new thing added (`Heap.join`).

Nearly every step of a store fills it with what the step is given: the constants of new
code, the data of a new object, a value that is written. If besides nothing is registered
and no wrapper class leads elsewhere, the store `Grows`.
-/

namespace ScriptClass

/-- The table grows by some things: its entries stay in their places, and hold no more than
they did but for those. -/
structure Adds {α : Type} (f : α → List Holding) (xs : List Holding) (a a' : Array α) : Prop where
  size : a.size ≤ a'.size
  held (i : Nat) (e' : α) : a'[i]? = some e' → ∀ x ∈ f e', x ∈ xs ∨ ∃ e, a[i]? = some e ∧ x ∈ f e

namespace Adds

variable {α : Type} {f : α → List Holding} {xs : List Holding} {a a' : Array α}

theorem refl (f : α → List Holding) (xs : List Holding) (a : Array α) : Adds f xs a a :=
  ⟨Nat.le_refl _, fun _ e' he' _ hx => .inr ⟨e', he', hx⟩⟩

theorem push {e : α} (he : ∀ x ∈ f e, x ∈ xs) : Adds f xs a (a.push e) where
  size := by
    rw [Array.size_push]
    omega
  held i e' he' x hx := by
    rw [Array.getElem?_push] at he'
    split at he'
    · cases he'
      exact .inl (he x hx)
    · exact .inr ⟨e', he', hx⟩

theorem modify {g : α → α} (hg : ∀ e, ∀ x ∈ f (g e), x ∈ xs ∨ x ∈ f e) (i : Nat) :
    Adds f xs a (a.modify i g) where
  size := by rw [Array.size_modify]
  held j e' he' x hx := by
    rw [Array.getElem?_modify] at he'
    split at he'
    · obtain ⟨e, he, rfl⟩ := Option.map_eq_some_iff.mp he'
      exact (hg e x hx).imp_right fun hx => ⟨e, he, hx⟩
    · exact .inr ⟨e', he', hx⟩

end Adds

theorem Entries.mem_holdings {entries : Entries} {x : Holding} :
    x ∈ entries.holdings ↔ ∃ e ∈ entries, x ∈ e.2.holdings := List.mem_flatMap

/-- Writing a property adds what the value holds. -/
theorem Entries.mem_holdings_put {name : String} {v : ScriptValue} {entries : Entries}
    {x : Holding} (hx : x ∈ Entries.holdings (Entries.put name v entries)) :
    x ∈ v.holdings ∨ x ∈ entries.holdings := by
  induction entries with
  | nil =>
    obtain ⟨e, he, hx⟩ := Entries.mem_holdings.mp hx
    cases List.mem_singleton.mp he
    exact .inl hx
  | cons e es ih =>
    rw [Entries.put] at hx
    have hcons (d : String × ScriptValue) (ds : Entries) :
        x ∈ Entries.holdings (d :: ds) ↔ x ∈ d.2.holdings ∨ x ∈ ds.holdings := by
      rw [Entries.holdings, List.flatMap_cons, List.mem_append]
      rfl
    rw [hcons]
    split at hx
    · rcases (hcons _ _).mp hx with hx | hx
      · exact .inl hx
      · exact .inr (.inr hx)
    · rcases (hcons _ _).mp hx with hx | hx
      · exact .inr (.inl hx)
      · exact (ih hx).imp_right .inr

namespace Store

variable {s s' : Store} {L : Set Holding} {xs : List Holding} {n h x : Holding}

/-- The host side that the wrapper class of a number leads to. -/
def backing? (s : Store) (i : Nat) : Option HostType := s.wrappers[i]?.bind Wrapper.backing

/-- The static facet that the wrapper class of a number handed out last. -/
def handed? (s : Store) (i : Nat) : Option StaticFacet := s.wrappers[i]?.bind Wrapper.facet

/-- Nothing holds more than before, but for these things. -/
structure Fills (s s' : Store) (xs : List Holding) : Prop where
  natives : Adds NativeCode.holdings xs s.natives s'.natives
  functions : Adds FunctionCode.holdings xs s.functions s'.functions
  literals : Adds Entries.holdings xs s.literals s'.literals
  pairs : Adds (fun state => state.properties.holdings) xs s.pairs s'.pairs
  wrappers : Adds (fun c => c.plan.holdings) xs s.wrappers s'.wrappers
  declarations : s.declarations ≤ s'.declarations
  facets : s.facets ≤ s'.facets

/-- The store is filled with these things, and otherwise leads where it led. -/
structure Grows (s s' : Store) (xs : List Holding) : Prop extends s.Fills s' xs where
  backing : s'.backing? = s.backing?
  handed : s'.handed? = s.handed?
  registry : s'.registry = s.registry

/-! ## What is held -/

theorem mem_heldByType {t : HostType} : x ∈ s.heldByType t ↔
    (∃ u, t.Extends u ∧ x = .type u) ∨
      (∃ w, t.own.instantiation = some (.generated w) ∧ x = .wrapper w) ∨
        ∃ m ∈ t.methods, ∃ id code, m.body = .native id ∧ s.natives[id]? = some code ∧
          x ∈ code.holdings := by
  have hparts : x ∈ (t.superclass?.toList ++ t.interfaces).map Holding.type ↔
      ∃ u, t.Extends u ∧ x = .type u := by
    simp only [List.mem_map, List.mem_append, Option.mem_toList, eq_comm (a := x)]
    rfl
  rw [heldByType, List.mem_append, List.mem_append, hparts, or_assoc, List.mem_flatMap]
  refine or_congr_right (or_congr ?_ (exists_congr fun m => and_congr_right fun _ => ?_))
  · split
    next w hw => simp [hw]
    next hnone => simpa using fun w hw => absurd hw (hnone w)
  · cases m.body with
    | native id => cases hcode : s.natives[id]? <;> simp [hcode]
    | abstract => simp
    | forward member key => simp

theorem held_function (id : Nat) :
    x ∈ s.held (.function id) ↔ ∃ code, s.functions[id]? = some code ∧ x ∈ code.holdings := by
  rw [held]
  cases s.functions[id]? with
  | none => simp
  | some code => simp

theorem held_literal (id : Nat) :
    x ∈ s.held (.literal id) ↔ ∃ es, s.literals[id]? = some es ∧ x ∈ Entries.holdings es := by
  rw [held, literal]
  cases s.literals[id]? with
  | none => simp [Entries.holdings]
  | some es => simp

theorem held_pair (p : Pair) : x ∈ s.held (.pair p) ↔ x = .type p.type ∨ x = .wrapper p.wrapper ∨
    ∃ state, s.pairs[p.id]? = some state ∧ x ∈ state.properties.holdings := by
  rw [held, properties, List.mem_cons, List.mem_cons]
  cases s.pairs[p.id]? with
  | none => simp [Entries.holdings]
  | some state => simp

theorem held_wrapper (w : WrapperRef) :
    x ∈ s.held (.wrapper w) ↔ ∃ c, s.wrappers[w.id]? = some c ∧ x ∈ c.plan.holdings := by
  rw [held, wrapper?]
  cases s.wrappers[w.id]? with
  | none => simp
  | some c => simp

theorem Grows.refl (s : Store) (xs : List Holding) : s.Grows s xs where
  natives := .refl _ _ _
  functions := .refl _ _ _
  literals := .refl _ _ _
  pairs := .refl _ _ _
  wrappers := .refl _ _ _
  declarations := Nat.le_refl _
  facets := Nat.le_refl _
  backing := rfl
  handed := rfl
  registry := rfl

namespace Fills

theorem has {k : Holding.Key} (hg : s.Fills s' xs) (hk : s.Has k) : s'.Has k := by
  cases k with
  | type id => exact Nat.lt_of_lt_of_le hk hg.declarations
  | wrapper id => exact Nat.lt_of_lt_of_le hk hg.wrappers.size
  | pair id => exact Nat.lt_of_lt_of_le hk hg.pairs.size
  | facet id => exact Nat.lt_of_lt_of_le hk hg.facets
  | literal id => exact Nat.lt_of_lt_of_le hk hg.literals.size
  | function id => exact Nat.lt_of_lt_of_le hk hg.functions.size

theorem held (hg : s.Fills s' xs) (hx : x ∈ s'.held h) : x ∈ xs ∨ x ∈ s.held h := by
  cases h with
  | type t =>
    rcases mem_heldByType.mp hx with hu | hw | ⟨m, hm, id, code, hid, hcode, hx⟩
    · exact .inr (mem_heldByType.mpr (.inl hu))
    · exact .inr (mem_heldByType.mpr (.inr (.inl hw)))
    · rcases hg.natives.held id code hcode x hx with hxs | ⟨code', hcode', hx'⟩
      · exact .inl hxs
      · exact .inr (mem_heldByType.mpr (.inr (.inr ⟨m, hm, id, code', hid, hcode', hx'⟩)))
  | wrapper w =>
    obtain ⟨c, hc, hx⟩ := (held_wrapper w).mp hx
    exact (hg.wrappers.held _ c hc x hx).imp_right (held_wrapper w).mpr
  | pair p =>
    rcases (held_pair p).mp hx with ht | hw | ⟨state, hstate, hx⟩
    · exact .inr ((held_pair p).mpr (.inl ht))
    · exact .inr ((held_pair p).mpr (.inr (.inl hw)))
    · exact (hg.pairs.held _ state hstate x hx).imp_right fun hx =>
        (held_pair p).mpr (.inr (.inr hx))
  | facet f => exact .inr hx
  | literal id =>
    obtain ⟨es, hes, hx⟩ := (held_literal id).mp hx
    exact (hg.literals.held _ es hes x hx).imp_right (held_literal id).mpr
  | function id =>
    obtain ⟨code, hcode, hx⟩ := (held_function id).mp hx
    exact (hg.functions.held _ code hcode x hx).imp_right (held_function id).mpr

end Fills

/-! ## Steps that grow a store -/

theorem grows_native (s : Store) (code : NativeCode) :
    s.Grows (s.newNative code).2 code.holdings :=
  { Grows.refl s code.holdings with natives := .push fun _ hx => hx }

theorem grows_function (s : Store) (code : FunctionCode) (name : Option String)
    (arity : Option Nat) : s.Grows (s.newFunction code name arity).2 code.holdings :=
  { Grows.refl s code.holdings with functions := .push fun _ hx => hx }

theorem grows_literal (s : Store) (entries : Entries) :
    s.Grows (s.newLiteral entries).2 entries.holdings :=
  { Grows.refl s entries.holdings with literals := .push fun _ hx => hx }

theorem grows_plain (s : Store) (t : HostType) (counter : Option Int64) :
    s.Grows (s.newPlain t counter).2 [] :=
  { Grows.refl s [] with }

theorem grows_pair (s : Store) (t : HostType) (w : WrapperRef) (state : PairState) :
    s.Grows (s.newPair t w state).2 state.properties.holdings :=
  { Grows.refl s state.properties.holdings with pairs := .push fun _ hx => hx }

theorem grows_facet (s : Store) (t : HostType) (w : WrapperRef) : s.Grows (s.newFacet t w).2 [] :=
  { Grows.refl s [] with facets := Nat.le_succ _ }

theorem grows_type (s : Store) (make : Nat → HostType) : s.Grows (s.newType make).2 [] :=
  { Grows.refl s [] with declarations := Nat.le_succ _ }

theorem grows_wrapper (s : Store) (plan : WrapperPlan) (backingName : String) (isAbstract : Bool) :
    s.Grows (s.newWrapper { plan, backingName, isAbstract }).2 plan.holdings :=
  { Grows.refl s plan.holdings with
    wrappers := .push fun _ hx => hx
    backing := by
      funext i
      simp only [backing?, newWrapper, Array.getElem?_push]
      split
      next hi => simp [hi]
      next => rfl
    handed := by
      funext i
      simp only [handed?, newWrapper, Array.getElem?_push]
      split
      next hi => simp [hi]
      next => rfl }

/-- A change of a wrapper class that keeps its plan. -/
theorem fills_updateWrapper (s : Store) (w : WrapperRef) {f : Wrapper → Wrapper}
    (hplan : ∀ c, (f c).plan = c.plan) : s.Fills (s.updateWrapper w f) [] := by
  have hwrappers : Adds (fun c => c.plan.holdings) [] s.wrappers (s.wrappers.modify w.id f) := by
    refine Adds.modify (fun c x hx => .inr ?_) w.id
    rw [hplan] at hx
    exact hx
  exact { Grows.refl s [] with wrappers := hwrappers }

theorem backing?_updateWrapper (s : Store) (w : WrapperRef) {f : Wrapper → Wrapper}
    (hbacking : ∀ c, (f c).backing = c.backing) : (s.updateWrapper w f).backing? = s.backing? := by
  funext i
  simp only [backing?, Store.updateWrapper, Array.getElem?_modify]
  split
  · cases s.wrappers[i]? with
    | none => rfl
    | some c => exact hbacking c
  · rfl

theorem handed?_updateWrapper (s : Store) (w : WrapperRef) {f : Wrapper → Wrapper}
    (hfacet : ∀ c, (f c).facet = c.facet) : (s.updateWrapper w f).handed? = s.handed? := by
  funext i
  simp only [handed?, Store.updateWrapper, Array.getElem?_modify]
  split
  · cases s.wrappers[i]? with
    | none => rfl
    | some c => exact hfacet c
  · rfl

/-- A change of a wrapper class that touches neither its plan nor what it leads to. -/
theorem grows_updateWrapper (s : Store) (w : WrapperRef) {f : Wrapper → Wrapper}
    (hplan : ∀ c, (f c).plan = c.plan) (hbacking : ∀ c, (f c).backing = c.backing)
    (hfacet : ∀ c, (f c).facet = c.facet) : s.Grows (s.updateWrapper w f) [] :=
  { fills_updateWrapper s w hplan with
    backing := backing?_updateWrapper s w hbacking
    handed := handed?_updateWrapper s w hfacet
    registry := rfl }

theorem grows_putProperty {o : ScriptObject} {name : String} {v : ScriptValue}
    (h : s.putProperty o name v = .ok s') : s.Grows s' v.holdings := by
  cases o with
  | plain id =>
    cases h
    exact { Grows.refl s v.holdings with
      literals := .modify (fun _ _ => Entries.mem_holdings_put) _ }
  | pair p =>
    have hpairs : Adds (fun state => state.properties.holdings) v.holdings s.pairs
        (s.pairs.modify p.id fun state =>
          { state with properties := Entries.put name v state.properties }) := by
      refine Adds.modify (fun state x hx => ?_) p.id
      exact Entries.mem_holdings_put hx
    simp only [putProperty] at h
    split at h <;> cases h
    exact { Grows.refl s v.holdings with pairs := hpairs }
  | facet f => cases h

theorem grows_setCounter (s : Store) (v : Int64) (o : HostObject) :
    s.Grows (s.setCounter v o) [] := by
  cases o with
  | plain id t => exact { Grows.refl s [] with }
  | pair p =>
    have hpairs : Adds (fun state => state.properties.holdings) [] s.pairs
        (s.pairs.modify p.id fun state => { state with counter := some v }) := by
      refine Adds.modify (fun state x hx => ?_) p.id
      exact .inr hx
    exact { Grows.refl s [] with pairs := hpairs }

theorem grows_advance (s : Store) (name : String) : s.Grows (s.advance name).2 [] :=
  { Grows.refl s [] with }

theorem grows_contexts (s : Store) (contexts : Contexts) : s.Grows { s with contexts } [] :=
  { Grows.refl s [] with }

theorem grows_roots (s : Store) (roots : List Holding) : s.Grows { s with roots } [] :=
  { Grows.refl s [] with }

theorem grows_request (s : Store) (generations : UInt64) : s.Grows { s with generations } [] :=
  { Grows.refl s [] with }

theorem grows_writeListing (s : Store) (dir file text : String) :
    s.Grows (s.writeListing dir file text).2 [] := by
  unfold writeListing
  split
  · exact { Grows.refl s [] with }
  · exact .refl s []

theorem fills_unload (s : Store) (held : List Holding.Key) : s.Fills (s.unload held) [] := by
  refine { Grows.refl s [] with wrappers := ⟨Nat.le_of_eq Array.size_map.symm, ?_⟩ }
  intro i c' hc' x hx
  rw [Store.unload, Array.getElem?_map] at hc'
  obtain ⟨c, hc, rfl⟩ := Option.map_eq_some_iff.mp hc'
  exact .inr ⟨c, hc, hx⟩

theorem backing?_unload (s : Store) (held : List Holding.Key) (i : Nat) :
    (s.unload held).backing? i = (s.backing? i).filter fun t => held.contains (.type t.id) := by
  rw [backing?, Store.unload, Array.getElem?_map, backing?]
  cases s.wrappers[i]? <;> rfl

theorem handed?_unload (s : Store) (held : List Holding.Key) (i : Nat) :
    (s.unload held).handed? i = (s.handed? i).filter fun f => held.contains (.facet f.id) := by
  rw [handed?, Store.unload, Array.getElem?_map, handed?]
  cases s.wrappers[i]? <;> rfl

theorem held_unload (s : Store) (keys : List Holding.Key) : (s.unload keys).held = s.held := by
  funext h
  cases h with
  | wrapper w =>
    simp only [held, wrapper?, Store.unload, Array.getElem?_map]
    cases s.wrappers[w.id]? <;> rfl
  | _ => rfl

/-! ## Heaps in stores that are filled -/

theorem Heap.fill (hs : s.Heap L) (hg : s.Fills s' xs) (hxs : InUse L xs) : s'.Heap L where
  closed h hh x hx := by
    rcases hg.held hx with hx | hx
    · exact hxs x hx
    · exact hs.closed h hh x hx
  has h hh := hg.has (hs.has h hh)
  single := hs.single

/-- A new thing joins a heap that has all that it holds. -/
theorem Heap.join (hs : s.Heap L) (hg : s.Fills s' xs) (hxs : InUse L xs)
    (hnew : ¬ s.Has n.key) (hhas : s'.Has n.key) (hheld : InUse L (s.held n)) :
    s'.Heap (insert n L) where
  closed h hh x hx := by
    rcases hg.held hx with hx | hx
    · exact .inr (hxs x hx)
    · rcases hh with rfl | hh
      · exact .inr (hheld x hx)
      · exact .inr (hs.closed h hh x hx)
  has h hh := by
    rcases hh with rfl | hh
    · exact hhas
    · exact hg.has (hs.has h hh)
  single := by
    refine (Set.injOn_insert fun hmem => hnew (hs.has n hmem)).mpr ⟨hs.single, ?_⟩
    rintro ⟨h, hh, hkey⟩
    exact hnew (hkey ▸ hs.has h hh)

end Store

end ScriptClass
