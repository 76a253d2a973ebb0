import ScriptClass.Proofs.Run.Construction
import ScriptClass.Proofs.Store.Growth
import ScriptClass.Proofs.Store.History
import ScriptClass.Proofs.Store.Property
import Mathlib.Data.List.Nodup

/-!
# Chronicles

A chronicle tells what became of the objects of generated classes, from the fresh store on: which
wrapper classes got their static facet, which objects were made with which arguments, and what was
written on them. A store has a chronicle if it came about so (`Store.Chronicle`); between two
events anything may happen that does none of these (`Store.Quiet`).

What a store shows of objects can then be read off the chronicle. Objects are numbered in the order
in which they were made (`Chronicle.ids`), each wrapper class was bound at most once
(`Chronicle.bindings`), and the data of an object are what was written on it, one write after the
other, beginning with the data of its class (`Chronicle.shows`). Nothing in a store holds an
object that was not made (`Chronicle.closed`), and every beginning of a chronicle is that of an
earlier store (`Chronicle.of_prefix`).
-/

namespace ScriptClass

/-- What is told of objects. -/
inductive Event where
  /-- The static facet of a wrapper class was bound. -/
  | bound (w : WrapperRef) (f : StaticFacet)
  /-- An object was made with these arguments. -/
  | made (p : Pair) (args : List ScriptValue)
  /-- A property of an object was written. -/
  | wrote (p : Pair) (name : String) (v : ScriptValue)

namespace Event

@[simp]
def pair? : Event → Option Pair
  | .made p _ => some p
  | _ => none

/-- The number of the wrapper class that was bound. -/
@[simp]
def boundId? : Event → Option Nat
  | .bound w _ => some w.id
  | _ => none

/-- What was written on this object. -/
@[simp]
def write? (p : Pair) : Event → Option (String × ScriptValue)
  | .wrote q name v => if q.id = p.id then some (name, v) else none
  | _ => none

variable {es es' : List Event} {p : Pair} {x : Holding}

/-- The objects that were made, in order. -/
def objects (es : List Event) : List Pair := es.filterMap pair?

/-- The wrapper classes that were bound, in order. -/
def boundIds (es : List Event) : List Nat := es.filterMap boundId?

/-- What was written on an object, in order. -/
def writes (es : List Event) (p : Pair) : Entries := es.filterMap (write? p)

@[simp] theorem objects_snoc (es : List Event) (e : Event) :
    objects (es ++ [e]) = objects es ++ e.pair?.toList := by
  rw [objects, List.filterMap_append]
  cases e <;> rfl

@[simp] theorem boundIds_snoc (es : List Event) (e : Event) :
    boundIds (es ++ [e]) = boundIds es ++ e.boundId?.toList := by
  rw [boundIds, List.filterMap_append]
  cases e <;> rfl

@[simp] theorem writes_snoc (es : List Event) (e : Event) (p : Pair) :
    writes (es ++ [e]) p = writes es p ++ (e.write? p).toList := by
  rw [writes, List.filterMap_append, List.filterMap_cons]
  cases e.write? p <;> rfl

/-- Everything but objects that were not made. -/
def Known (es : List Event) : Set Holding := {x | ∀ p, x = .pair p → p ∈ objects es}

theorem pair_mem_known : .pair p ∈ Known es ↔ p ∈ objects es := by
  constructor
  · exact fun h => h p rfl
  · rintro h q heq
    cases heq
    exact h

/-- Other events make no object. -/
theorem known_snoc_of_pair? {e : Event} (he : e.pair? = none) : Known (es ++ [e]) = Known es := by
  simp only [Known, objects_snoc, he, Option.toList_none, List.append_nil]

theorem known_append (es' : List Event) (h : x ∈ Known es) : x ∈ Known (es ++ es') := by
  intro p hp
  rw [objects, List.filterMap_append]
  exact List.mem_append_left _ (h p hp)

theorem mem_objects : p ∈ objects es ↔ ∃ args, .made p args ∈ es := by
  rw [objects, List.mem_filterMap]
  constructor
  · rintro ⟨e, he, hp⟩
    cases e with
    | made q args =>
      cases hp
      exact ⟨args, he⟩
    | _ => cases hp
  · rintro ⟨args, he⟩
    exact ⟨_, he, rfl⟩

/-- An object that was made was made at some point. -/
theorem prefix_of_mem_objects (h : p ∈ objects es) :
    ∃ before args, before ++ [.made p args] <+: es := by
  obtain ⟨args, he⟩ := mem_objects.mp h
  obtain ⟨before, after, rfl⟩ := List.append_of_mem he
  refine ⟨before, args, after, ?_⟩
  rw [List.append_assoc]
  rfl

theorem mem_boundIds {i : Nat} : i ∈ boundIds es ↔ ∃ w f, .bound w f ∈ es ∧ w.id = i := by
  rw [boundIds, List.mem_filterMap]
  constructor
  · rintro ⟨e, he, hi⟩
    cases e with
    | bound w f =>
      cases hi
      exact ⟨w, f, he, rfl⟩
    | _ => cases hi
  · rintro ⟨w, f, he, rfl⟩
    exact ⟨_, he, rfl⟩

end Event

open Event

namespace Store

variable {s s' s'' : Store} {es es' before : List Event} {p q : Pair} {xs : List Holding}

/-- The wrapper class of a number has its static facet. -/
def isBound (s : Store) (i : Nat) : Bool := s.wrappers[i]?.any Wrapper.isBound

/-- No object is made, none is written and no static facet is bound. What anything holds
afterwards it held before, or it is one of these things. -/
structure Quiet (s s' : Store) (xs : List Holding) : Prop
    extends s.Fills s' xs, s.Extends s' where
  properties : s'.pairs.map PairState.properties = s.pairs.map PairState.properties
  isBound : s'.isBound = s.isBound

/-- The events have happened to the store, and otherwise nothing to its objects. -/
inductive Chronicle : List Event → Store → Prop where
  | fresh (writable : Bool) (stateName : String) :
    Chronicle [] { Store.initial with writable, stateName }
  | bound {es : List Event} {s s' : Store} {w : WrapperRef} {f : StaticFacet}
    (h : Chronicle es s) (hbind : s.bindFacet w f = .ok s') : Chronicle (es ++ [.bound w f]) s'
  | made {es : List Event} {s s' : Store} {c : Wrapper} {args : List ScriptValue} {p : Pair}
    (h : Chronicle es s) (hmakes : s.Makes c args p s') : Chronicle (es ++ [.made p args]) s'
  | wrote {es : List Event} {s s' : Store} {p : Pair} {name : String} {v : ScriptValue}
    (h : Chronicle es s) (hp : p ∈ objects es) (hv : InUse (Known es) v.holdings)
    (hput : s.putProperty (.pair p) name v = .ok s') : Chronicle (es ++ [.wrote p name v]) s'
  | quiet {es : List Event} {s s' : Store} {xs : List Holding} (h : Chronicle es s)
    (hquiet : s.Quiet s' xs) (hxs : InUse (Known es) xs) : Chronicle es s'

/-! ## Events -/

theorem Makes.extends {c : Wrapper} {args : List ScriptValue} (h : s.Makes c args p s') :
    s.Extends s' := by
  rw [h.store_eq]
  exact .of_eq rfl rfl rfl

theorem Makes.fills {c : Wrapper} {args : List ScriptValue} (h : s.Makes c args p s') :
    s.Fills s' c.plan.prototype.holdings := by
  have hgrows := grows_pair s p.type p.wrapper ⟨p.type.startCounter, c.plan.prototype⟩
  rw [h.new] at hgrows
  exact hgrows.toFills

theorem bindFacet_extends {w : WrapperRef} {f : StaticFacet} (h : s.bindFacet w f = .ok s') :
    s.Extends s' := (Step.bind h).extends

theorem bindFacet_fills {w : WrapperRef} {f : StaticFacet} (h : s.bindFacet w f = .ok s') :
    s.Fills s' [] := by
  rw [bindFacet_ok h]
  exact fills_updateWrapper s w fun _ => rfl

/-- A static facet is bound to a class that has none, which has one from then on. -/
theorem bindFacet_isBound {w : WrapperRef} {f : StaticFacet} (h : s.bindFacet w f = .ok s') :
    s.isBound w.id = false ∧ ∀ i, s'.isBound i = if i = w.id then true else s.isBound i := by
  have hs' := bindFacet_ok h
  simp only [bindFacet] at h
  split at h
  · cases h
  next c hc =>
    split at h
    · cases h
    next hunbound =>
      have hlookup : s.wrappers[w.id]? = some c := hc
      refine ⟨?_, fun i => ?_⟩
      · rw [isBound, hlookup]
        exact Bool.eq_false_iff.mpr hunbound
      · rw [hs', isBound, updateWrapper, Array.getElem?_modify]
        by_cases hi : i = w.id
        · rw [if_pos hi, if_pos hi.symm, hi, hlookup]
          rfl
        · rw [if_neg hi, if_neg (Ne.symm hi)]
          rfl

theorem Quiet.refl (s : Store) (xs : List Holding) : s.Quiet s xs where
  toFills := (Grows.refl s xs).toFills
  toExtends := .refl s
  properties := rfl
  isBound := rfl

theorem Quiet.size_eq (h : s.Quiet s' xs) : s'.pairs.size = s.pairs.size := by
  rw [← Array.size_map, h.properties, Array.size_map]

theorem Quiet.properties_eq (h : s.Quiet s' xs) (p : Pair) : s'.properties p = s.properties p := by
  have hentry := congrArg (fun data => data[p.id]?) h.properties
  simp only [Array.getElem?_map] at hentry
  rw [Store.properties, hentry]
  rfl

/-- The object has the data of its class with these writes, none under a name that the class
answers to. -/
def Shows (s : Store) (p : Pair) (writes : Entries) : Prop :=
  ∃ c, s.wrapper? p.wrapper = some c ∧ s.properties p = Entries.putAll writes c.plan.prototype ∧
    ∀ e ∈ writes, (c.plan.findId .instances e.1).isDefault = true

theorem Shows.extends {writes : Entries} (h : s.Shows p writes) (hext : s.Extends s')
    (hdata : s'.properties p = s.properties p) : s'.Shows p writes := by
  obtain ⟨c, hc, hproperties, hwrites⟩ := h
  obtain ⟨c', hc', became⟩ := hext.wrapper hc
  refine ⟨c', hc', ?_, ?_⟩
  · rw [hdata, hproperties, became.plan]
  · rw [became.plan]
    exact hwrites

theorem Shows.put {writes : Entries} {name : String} {v : ScriptValue} (h : s.Shows p writes)
    (hp : p.id < s.pairs.size) (hput : s.putProperty (.pair p) name v = .ok s') :
    s'.Shows p (writes ++ [(name, v)]) := by
  obtain ⟨c, hc, hproperties, hwrites⟩ := h
  obtain ⟨rfl, hdefault⟩ := putProperty_pair_ok hput
  refine ⟨c, hc, ?_, fun e he => ?_⟩
  · rw [properties_write hp rfl, hproperties, Entries.putAll_snoc]
  · rcases List.mem_append.mp he with he | he
    · exact hwrites e he
    · cases List.mem_singleton.mp he
      exact hdefault c hc

/-- A new object has the data of its class. -/
theorem Makes.shows {c : Wrapper} {args : List ScriptValue} (h : s.Makes c args p s') :
    s'.Shows p [] := by
  refine ⟨c, ?_, ?_, nofun⟩
  · rw [h.store_eq]
    exact h.wrapper
  · rw [h.store_eq, Store.properties, h.id_eq, Array.getElem?_push_size]
    rfl

theorem Makes.properties_other {c : Wrapper} {args : List ScriptValue} (h : s.Makes c args p s')
    (hq : q.id < s.pairs.size) : s'.properties q = s.properties q := by
  rw [h.store_eq, Store.properties, Array.getElem?_push_lt hq, Store.properties,
    Array.getElem?_eq_getElem hq]

/-! ## What chronicles tell -/

/-- In the fresh store nothing holds an object. -/
theorem held_initial {y x : Holding} (writable : Bool) (stateName : String)
    (hx : x ∈ Store.held { Store.initial with writable, stateName } y) : x ∈ Known [] := by
  rintro p rfl
  cases y with
  | type t =>
    rcases mem_heldByType.mp hx with ⟨u, -, hu⟩ | ⟨w, -, hw⟩ | ⟨m, -, id, code, -, hcode, hmem⟩
    · cases hu
    · cases hw
    · have hnone : ∀ code ∈ Store.initial.natives, NativeCode.holdings code = [] := by decide
      rw [hnone code (Array.mem_of_getElem? hcode)] at hmem
      cases hmem
  | wrapper w => cases hx
  | pair p => simp [held, properties, Store.initial, Entries.holdings] at hx
  | facet f => simp [held] at hx
  | literal id => cases hx
  | function id => cases hx

namespace Chronicle

/-- Nothing holds an object that was not made. -/
theorem closed (h : s.Chronicle es) : ∀ {y x : Holding}, x ∈ s.held y → x ∈ Known es := by
  induction h with
  | fresh writable stateName => exact held_initial writable stateName
  | bound h hbind ih =>
    intro y x hx
    rcases (bindFacet_fills hbind).held hx with hx | hx
    · cases hx
    · exact known_append _ (ih hx)
  | @made es s s' c args p h hmakes ih =>
    intro y x hx
    rcases hmakes.fills.held hx with hx | hx
    · -- the prototype's data are held by the wrapper class
      have hplan : x ∈ c.plan.holdings := List.mem_append_left _ (List.mem_append_right _ hx)
      exact known_append _ (ih ((held_wrapper p.wrapper).mpr ⟨c, hmakes.wrapper, hplan⟩))
    · exact known_append _ (ih hx)
  | wrote h hp hv hput ih =>
    intro y x hx
    rcases (grows_putProperty hput).held hx with hx | hx
    · exact known_append _ (hv x hx)
    · exact known_append _ (ih hx)
  | quiet h hquiet hxs ih =>
    intro y x hx
    rcases hquiet.held hx with hx | hx
    · exact hxs x hx
    · exact ih hx

/-- Objects are numbered in the order in which they were made. -/
theorem ids (h : s.Chronicle es) : (objects es).map Pair.id = List.range s.pairs.size := by
  induction h with
  | fresh => rfl
  | bound h hbind ih =>
    rw [bindFacet_ok hbind]
    simpa [updateWrapper] using ih
  | made h hmakes ih =>
    rw [hmakes.store_eq, Array.size_push, List.range_succ, ← ih, ← hmakes.id_eq]
    simp
  | wrote h hp hv hput ih =>
    rw [(putProperty_pair_ok hput).1, write, Array.size_modify]
    simpa using ih
  | quiet h hquiet hxs ih => rw [hquiet.size_eq, ih]

theorem id_lt (h : s.Chronicle es) (hp : p ∈ objects es) : p.id < s.pairs.size := by
  rw [← List.mem_range, ← h.ids]
  exact List.mem_map_of_mem hp

/-- No two objects have one number. -/
theorem eq_of_id (h : s.Chronicle es) (hp : p ∈ objects es) (hq : q ∈ objects es)
    (hid : p.id = q.id) : p = q := by
  have hnodup : ((objects es).map Pair.id).Nodup := by
    rw [h.ids]
    exact List.nodup_range
  exact List.inj_on_of_nodup_map hnodup hp hq hid

/-- The wrapper classes with a static facet are those that were bound, each once. -/
theorem bindings (h : s.Chronicle es) :
    (boundIds es).Nodup ∧ ∀ i, s.isBound i = true ↔ i ∈ boundIds es := by
  induction h with
  | fresh => exact ⟨.nil, fun i => ⟨nofun, nofun⟩⟩
  | @bound es s s' w f h hbind ih =>
    obtain ⟨hfree, hbound⟩ := bindFacet_isBound hbind
    obtain ⟨hnodup, hiff⟩ := ih
    have hnew : w.id ∉ boundIds es := by
      rw [← hiff, hfree]
      exact Bool.false_ne_true
    constructor
    · simpa [List.nodup_append] using ⟨hnodup, fun i hi heq => hnew (heq ▸ hi)⟩
    · intro i
      rw [hbound, boundIds_snoc, List.mem_append, ← hiff]
      by_cases hi : i = w.id <;> simp [hi]
  | @made es s s' c args p h hmakes ih =>
    have hsame : s'.isBound = s.isBound := by
      rw [hmakes.store_eq]
      rfl
    simpa [hsame] using ih
  | @wrote es s s' p name v h hp hv hput ih =>
    have hsame : s'.isBound = s.isBound := by
      rw [(putProperty_pair_ok hput).1]
      rfl
    simpa [hsame] using ih
  | quiet h hquiet hxs ih =>
    rw [hquiet.isBound]
    exact ih

/-- Every beginning of a chronicle is that of an earlier store. -/
theorem of_prefix (h : s.Chronicle es) (hpre : before <+: es) :
    ∃ s₀ : Store, s₀.Chronicle before ∧ s₀.Extends s := by
  induction h with
  | fresh writable stateName =>
    cases List.prefix_nil.mp hpre
    exact ⟨_, .fresh writable stateName, .refl _⟩
  | bound h hbind ih =>
    rcases List.prefix_concat_iff.mp hpre with rfl | hpre
    · exact ⟨_, .bound h hbind, .refl _⟩
    · obtain ⟨s₀, h₀, hext⟩ := ih hpre
      exact ⟨s₀, h₀, hext.trans (bindFacet_extends hbind)⟩
  | made h hmakes ih =>
    rcases List.prefix_concat_iff.mp hpre with rfl | hpre
    · exact ⟨_, .made h hmakes, .refl _⟩
    · obtain ⟨s₀, h₀, hext⟩ := ih hpre
      exact ⟨s₀, h₀, hext.trans hmakes.extends⟩
  | wrote h hp hv hput ih =>
    rcases List.prefix_concat_iff.mp hpre with rfl | hpre
    · exact ⟨_, .wrote h hp hv hput, .refl _⟩
    · obtain ⟨s₀, h₀, hext⟩ := ih hpre
      exact ⟨s₀, h₀, hext.trans (Step.put hput).extends⟩
  | quiet h hquiet hxs ih =>
    obtain ⟨s₀, h₀, hext⟩ := ih hpre
    exact ⟨s₀, h₀, hext.trans hquiet.toExtends⟩

/-- How the object came about that was told of last. -/
theorem of_made {args : List ScriptValue} (h : s.Chronicle (before ++ [.made p args])) :
    ∃ (s₀ : Store) (c : Wrapper) (s₁ : Store),
      s₀.Chronicle before ∧ s₀.Makes c args p s₁ ∧ s₁.Extends s := by
  generalize hes : before ++ [.made p args] = es at h
  induction h with
  | fresh =>
    cases (List.append_eq_nil_iff.mp hes).2
  | made h hmakes =>
    obtain ⟨rfl, heq⟩ := List.append_inj' hes rfl
    cases heq
    exact ⟨_, _, _, h, hmakes, .refl _⟩
  | quiet h hquiet hxs ih =>
    obtain ⟨s₀, c, s₁, h₀, hmakes, hext⟩ := ih hes
    exact ⟨s₀, c, s₁, h₀, hmakes, hext.trans hquiet.toExtends⟩
  | _ => cases (List.append_inj' hes rfl).2

/-- Only objects that were made are written. -/
theorem mem_objects_of_wrote (h : s.Chronicle es) {name : String} {v : ScriptValue}
    (hmem : .wrote p name v ∈ es) : p ∈ objects es := by
  induction h with
  | fresh => cases hmem
  | bound h hbind ih => simpa using ih (by simpa using hmem)
  | made h hmakes ih => simpa using .inl (ih (by simpa using hmem))
  | wrote h hp hv hput ih =>
    rcases List.mem_append.mp hmem with hmem | hmem
    · simpa using ih hmem
    · cases List.mem_singleton.mp hmem
      simpa using hp
  | quiet h hquiet hxs ih => exact ih hmem

/-- Nothing was written on an object that is not there yet. -/
theorem writes_new (h : s.Chronicle es) (hp : p.id = s.pairs.size) : writes es p = [] := by
  rw [writes, List.filterMap_eq_nil_iff]
  intro e he
  cases e with
  | wrote q name v =>
    have hlt := h.id_lt (h.mem_objects_of_wrote he)
    exact if_neg (by omega)
  | _ => rfl

/-- The data of an object are the data of its class with all that was written on it since. -/
theorem shows (h : s.Chronicle es) (hp : p ∈ objects es) : s.Shows p (writes es p) := by
  induction h with
  | fresh => cases hp
  | @bound es s s' w f h hbind ih =>
    have hsame : s'.properties p = s.properties p := by
      rw [bindFacet_ok hbind]
      rfl
    simpa using (ih (by simpa using hp)).extends (bindFacet_extends hbind) hsame
  | @made es s s' c args q h hmakes ih =>
    rw [objects_snoc] at hp
    rcases List.mem_append.mp hp with hp | hp
    · simpa using (ih hp).extends hmakes.extends (hmakes.properties_other (h.id_lt hp))
    · cases List.mem_singleton.mp hp
      simpa [h.writes_new hmakes.id_eq] using hmakes.shows
  | @wrote es s s' q name v h hq hv hput ih =>
    have hbefore : p ∈ objects es := by simpa using hp
    by_cases hid : q.id = p.id
    · cases h.eq_of_id hq hbefore hid
      simpa using (ih hbefore).put (h.id_lt hbefore) hput
    · have hsame : s'.properties p = s.properties p := by
        rw [(putProperty_pair_ok hput).1]
        exact properties_write_other (Ne.symm hid)
      simpa [hid] using (ih hbefore).extends (Step.put hput).extends hsame
  | quiet h hquiet hxs ih => exact (ih hp).extends hquiet.toExtends (hquiet.properties_eq p)

end Chronicle

end Store

end ScriptClass
