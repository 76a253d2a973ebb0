import ScriptClass.Proofs.Registry.LiveTypes
import ScriptClass.Store.Basic
import Mathlib.Data.Set.Card
import Mathlib.Data.Set.Function
import Mathlib.Data.String.Basic

/-!
# A registry answers from one map

A registry keeps two tables, and entries in them whose types are unloaded. None of this
shows: a registry goes through any sequence of events as the map of its loaded types does
(`LiveTypes.step`), with the same answers, and every question about it is answered from
that map (`AnswersFrom`).

The tables are `Coherent`: no name has two entries, and the table of hashes lists just the
names of the other one. As long as no two of the names in use have one hash, each event
keeps them so, and is to the registry what it is to its map (`Coherent.step_refines`);
whole runs follow by induction (`Coherent.run_refines`).
-/

namespace ScriptClass

/-! ## Events -/

/-- What can happen to a registry. -/
inductive RegistryEvent where
  | register (t : HostType)
  | registerWeakly (t : HostType)
  | unregister (name : String)
  | purge
  /-- Generated types that nothing holds are unloaded. -/
  | unload (isHeld : HostType → Bool)

/-- The name that an event is about. -/
def RegistryEvent.name? : RegistryEvent → Option String
  | .register t => some t.name
  | .registerWeakly t => some t.name
  | .unregister name => some name
  | .purge => none
  | .unload _ => none

/-- What an event answers. -/
inductive RegistryAnswer where
  | registered (result : Except RegistrationError Unit)
  /-- Whether a loaded type had the name. -/
  | removed (was : Bool)
  | done

/-- The answer to an event, and the registry after it. -/
def Registry.step (r : Registry) : RegistryEvent → RegistryAnswer × Registry
  | .register t =>
    match r.register t with
    | .ok r' => (.registered (.ok ()), r')
    | .error e => (.registered (.error e), r)
  | .registerWeakly t => (.registered (r.registerWeakly t).1, (r.registerWeakly t).2)
  | .unregister name => (.removed (r.unregister name).1, (r.unregister name).2)
  | .purge => (.done, r.purge)
  | .unload isHeld => (.done, r.unload isHeld)

namespace LiveTypes

/-- A well-formed type is added unless a loaded type has its name. -/
def register (m : LiveTypes) (t : HostType) (isGenerated : Bool) :
    Except RegistrationError Unit × LiveTypes :=
  match Registry.fault? t, m t.name with
  | some fault, _ => (.error (.invalidType t.name fault), m)
  | none, some _ => (.error (.duplicateType t.name), m)
  | none, none => (.ok (), Function.update m t.name (some ⟨t, isGenerated⟩))

/-- What an event is to the loaded types: purging is nothing. -/
def step (m : LiveTypes) : RegistryEvent → RegistryAnswer × LiveTypes
  | .register t => (.registered (register m t false).1, (register m t false).2)
  | .registerWeakly t => (.registered (register m t true).1, (register m t true).2)
  | .unregister name => (.removed (m name).isSome, Function.update m name none)
  | .purge => (.done, m)
  | .unload isHeld => (.done, fun name => (m name).filter fun l => !l.isGenerated || isHeld l.type)

/-- The built-in classes. -/
def builtins : LiveTypes :=
  Function.update (Function.update (fun _ => none) objectName (some ⟨rootClass, false⟩))
    stringName (some ⟨stringClass, false⟩)

end LiveTypes

/-- The answers to a sequence of events, and what they lead to. -/
def runEvents {σ : Type} (step : σ → RegistryEvent → RegistryAnswer × σ) :
    σ → List RegistryEvent → List RegistryAnswer × σ
  | s, [] => ([], s)
  | s, e :: events =>
    ((step s e).1 :: (runEvents step (step s e).2 events).1, (runEvents step (step s e).2 events).2)

/-! ## Coherent tables -/

section Index

variable {f : String → TypeHash} {used : Set String}

/-- Keys that no two used names share find what the names find. -/
theorem lookup_index {β : Type} (hf : used.InjOn f) {l : List (String × β)}
    (hl : ∀ e ∈ l, e.1 ∈ used) {name : String} (hname : name ∈ used) :
    (l.map fun e => (f e.1, e.1)).lookup (f name) = (l.lookup name).map fun _ => name := by
  induction l with
  | nil => rfl
  | cons e l ih =>
    have ih := ih fun e he => hl e (List.mem_cons_of_mem _ he)
    rw [List.map_cons, List.lookup_cons, List.lookup_cons]
    by_cases h : name = e.1
    · simp [h]
    · have hne : f name ≠ f e.1 := fun heq => h (hf hname (hl e List.mem_cons_self) heq)
      rw [beq_false_of_ne h, beq_false_of_ne hne]
      exact ih

/-- Dropping a key from the index drops the name. -/
theorem filter_index {β : Type} (hf : used.InjOn f) {l : List (String × β)}
    (hl : ∀ e ∈ l, e.1 ∈ used) {name : String} (hname : name ∈ used) :
    (l.map fun e => (f e.1, e.1)).filter (fun e => e.1 != f name) =
      (l.filter fun e => e.1 != name).map fun e => (f e.1, e.1) := by
  rw [List.filter_map]
  refine congrArg _ (List.filter_congr fun e he => ?_)
  show (f e.1 != f name) = (e.1 != name)
  rw [Bool.eq_iff_iff, bne_iff_ne, bne_iff_ne]
  exact not_congr ⟨fun h => hf (hl e he) hname h, congrArg f⟩

end Index

namespace Registry

variable {r : Registry} {used : Set String} {name : String} {t : HostType} {e : RegistryEntry}

/-- The two tables of a registry agree, and list names in use. -/
structure Coherent (r : Registry) (used : Set String) : Prop where
  distinct : (r.entries.map Prod.fst).Nodup
  names : ∀ e ∈ r.entries, e.1 ∈ used
  index : r.byHash = r.entries.map fun e => (TypeHash.ofName e.1, e.1)

variable (hused : used.InjOn TypeHash.ofName)

include hused in
theorem Coherent.erase (h : r.Coherent used) (hname : name ∈ used) :
    (r.erase name).Coherent used where
  distinct := h.distinct.sublist (List.filter_sublist.map _)
  names e he := h.names e (List.mem_of_mem_filter he)
  index := by
    show r.byHash.filter _ = _
    rw [h.index]
    exact filter_index hused h.names hname

include hused in
theorem Coherent.insert (h : r.Coherent used) (ht : t.name ∈ used) (e : RegistryEntry) :
    (r.insert t e).Coherent used := by
  -- the tables of the two are those of `r.erase t.name` with one entry more
  have herase := h.erase hused ht
  refine ⟨List.nodup_cons.mpr ⟨?_, herase.distinct⟩, List.forall_mem_cons.mpr ⟨ht, herase.names⟩,
    congrArg (List.cons _) herase.index⟩
  intro hmem
  obtain ⟨e, he, heq⟩ := List.mem_map.mp hmem
  exact bne_iff_ne.mp (List.mem_filter.mp he).2 heq

include hused in
theorem Coherent.purge (h : r.Coherent used) : r.purge.Coherent used := by
  have hdead : ∀ name ∈ r.deadNames, name ∈ used := by
    intro name hname
    obtain ⟨e, he, rfl⟩ := List.mem_map.mp hname
    exact h.names e (List.mem_of_mem_filter he)
  rw [Registry.purge]
  -- any names in use can be dropped one by one, dead or not
  generalize r.deadNames = names at hdead
  induction names generalizing r with
  | nil => exact h
  | cons name names ih =>
    obtain ⟨hname, hnames⟩ := List.forall_mem_cons.mp hdead
    exact ih (h.erase hused hname) hnames

theorem Coherent.unload (h : r.Coherent used) (isHeld : HostType → Bool) :
    (r.unload isHeld).Coherent used where
  distinct := by
    rw [entries_unload, List.map_map]
    exact h.distinct
  names e he := by
    rw [entries_unload] at he
    obtain ⟨e', he', rfl⟩ := List.mem_map.mp he
    exact h.names e' he'
  index := by
    rw [entries_unload, List.map_map]
    exact h.index

/-! ## Steps -/

/-- Removing a name clears it, and says whether a loaded type had it. -/
theorem unregister_eq (r : Registry) (name : String) :
    (r.unregister name).1 = (r.liveTypes name).isSome ∧
      (r.unregister name).2.liveTypes = Function.update r.liveTypes name none := by
  unfold unregister
  split
  next e hentry =>
    refine ⟨?_, liveTypes_erase r name⟩
    rw [liveTypes, hentry, e.isLive_eq]
    rfl
  next hentry =>
    have hnone : r.liveTypes name = none := by
      rw [liveTypes, hentry]
      rfl
    refine ⟨by rw [hnone]; rfl, ?_⟩
    rw [← hnone, Function.update_eq_self]

include hused in
theorem Coherent.unregister (h : r.Coherent used) (hname : name ∈ used) :
    (r.unregister name).2.Coherent used := by
  unfold Registry.unregister
  split
  · exact h.erase hused hname
  · exact h

include hused in
/-- One event is to a registry what it is to its map, and leaves the tables coherent. -/
theorem Coherent.step_refines (h : r.Coherent used) {e : RegistryEvent}
    (he : ∀ name, e.name? = some name → name ∈ used) :
    (r.step e).1 = (r.liveTypes.step e).1 ∧
      (r.step e).2.liveTypes = (r.liveTypes.step e).2 ∧ (r.step e).2.Coherent used := by
  have hpurge : r.purge.liveTypes = r.liveTypes := liveTypes_purge h.distinct
  cases e with
  | register t =>
    rw [Registry.step, LiveTypes.step, LiveTypes.register]
    cases hf : fault? t with
    | some fault =>
      rw [register_of_fault hf]
      exact ⟨rfl, rfl, h⟩
    | none =>
      cases hm : r.liveTypes t.name with
      | some l =>
        rw [register_of_taken hf hm]
        exact ⟨rfl, rfl, h⟩
      | none =>
        rw [register_of_free hf hm]
        exact ⟨rfl, liveTypes_insert r t (.host t), h.insert hused (he _ rfl) _⟩
  | registerWeakly t =>
    rw [Registry.step, LiveTypes.step, LiveTypes.register]
    cases hf : fault? t with
    | some fault =>
      rw [registerWeakly_of_fault hf]
      exact ⟨rfl, rfl, h⟩
    | none =>
      -- the purge comes before the name is looked at, and shows in no answer
      cases hm : r.liveTypes t.name with
      | some l =>
        rw [registerWeakly_of_taken hf ((congrFun hpurge _).trans hm)]
        exact ⟨rfl, hpurge, h.purge hused⟩
      | none =>
        rw [registerWeakly_of_free hf ((congrFun hpurge _).trans hm)]
        refine ⟨rfl, ?_, (h.purge hused).insert hused (he _ rfl) _⟩
        rw [liveTypes_insert, hpurge]
        rfl
  | unregister name =>
    obtain ⟨hwas, hafter⟩ := unregister_eq r name
    exact ⟨congrArg RegistryAnswer.removed hwas, hafter, h.unregister hused (he _ rfl)⟩
  | purge => exact ⟨rfl, hpurge, h.purge hused⟩
  | unload isHeld => exact ⟨rfl, liveTypes_unload r isHeld, h.unload isHeld⟩

include hused in
/-- A run of a registry is a run of its map. -/
theorem Coherent.run_refines (h : r.Coherent used) {events : List RegistryEvent}
    (hevents : ∀ e ∈ events, ∀ name, e.name? = some name → name ∈ used) :
    (runEvents Registry.step r events).1 = (runEvents LiveTypes.step r.liveTypes events).1 ∧
      (runEvents Registry.step r events).2.liveTypes =
        (runEvents LiveTypes.step r.liveTypes events).2 ∧
      (runEvents Registry.step r events).2.Coherent used := by
  induction events generalizing r with
  | nil => exact ⟨rfl, rfl, h⟩
  | cons e events ih =>
    obtain ⟨he, hevents⟩ := List.forall_mem_cons.mp hevents
    obtain ⟨hanswer, hafter, hcoherent⟩ := h.step_refines hused he
    obtain ⟨hanswers, hend, hcoherent⟩ := ih hcoherent hevents
    rw [hafter] at hanswers hend
    refine ⟨?_, hend, hcoherent⟩
    rw [runEvents, runEvents, hanswer, hanswers]

/-! ## Questions -/

/-- Every question about a registry is answered from one map, also the question whether it
would let a type in; names are found by their hashes where they are in use. -/
structure AnswersFrom (r : Registry) (m : LiveTypes) (used : Set String) : Prop where
  lookup : ∀ name, r.lookup name = (m name).map LiveType.type
  resolve : ∀ name, r.resolve name =
    match m name with
    | some l => .ok l.type
    | none => .error (.typeNotFound name)
  contains : ∀ name, r.contains name = (m name).isSome
  lookupByHash : ∀ name ∈ used, r.lookupByHash (.ofName name) = (m name).map LiveType.type
  size : r.size = {name | (m name).isSome}.ncard
  mem_names : ∀ name, name ∈ r.names ↔ (m name).isSome
  names_ascend : r.names.Pairwise (· < ·)
  register : ∀ t, (∃ r', r.register t = .ok r') ↔ WellFormed t ∧ m t.name = none
  registerWeakly : ∀ t, (r.registerWeakly t).1 = .ok () ↔ WellFormed t ∧ m t.name = none

theorem resolve_eq (r : Registry) (name : String) :
    r.resolve name =
      match r.liveTypes name with
      | some l => .ok l.type
      | none => .error (.typeNotFound name) := by
  rw [resolve, lookup_eq]
  cases r.liveTypes name <;> rfl

include hused in
theorem Coherent.lookupByHash_eq (h : r.Coherent used) (hname : name ∈ used) :
    r.lookupByHash (.ofName name) = (r.liveTypes name).map LiveType.type := by
  rw [lookupByHash, h.index, lookup_index hused h.names hname, ← lookup_eq, Registry.lookup]
  show ((r.entry? name).map _).bind _ = _
  cases hentry : r.entry? name with
  | none => rfl
  | some e =>
    show (r.entry? name).bind _ = _
    rw [hentry]

/-- The names of the entries whose types are loaded. -/
def liveNames (r : Registry) : List String := (r.entries.filter (·.2.isLive)).map (·.1)

theorem Coherent.mem_liveNames (h : r.Coherent used) :
    name ∈ r.liveNames ↔ (r.liveTypes name).isSome := by
  rw [liveNames, List.mem_map]
  constructor
  · rintro ⟨⟨n, e⟩, he, rfl⟩
    obtain ⟨hmem, hlive⟩ := List.mem_filter.mp he
    have hentry : r.entry? n = some e := lookup_of_mem h.distinct hmem
    rw [liveTypes, hentry]
    exact e.isLive_eq ▸ hlive
  · intro hlive
    obtain ⟨l, hl⟩ := Option.isSome_iff_exists.mp hlive
    obtain ⟨e, hentry, he⟩ := Option.bind_eq_some_iff.mp hl
    refine ⟨(name, e), List.mem_filter.mpr ⟨mem_of_lookup hentry, ?_⟩, rfl⟩
    rw [e.isLive_eq, he]
    rfl

theorem Coherent.nodup_liveNames (h : r.Coherent used) : r.liveNames.Nodup :=
  h.distinct.sublist (List.filter_sublist.map _)

theorem Coherent.size_eq (h : r.Coherent used) :
    r.size = {name | (r.liveTypes name).isSome}.ncard := by
  -- the live entries are counted, and each has a name of its own
  have hset : {name | (r.liveTypes name).isSome} = (r.liveNames.toFinset : Set String) := by
    ext name
    rw [List.coe_toFinset]
    exact h.mem_liveNames.symm
  rw [hset, Set.ncard_coe_finset, List.toFinset_card_of_nodup h.nodup_liveNames, liveNames,
    List.length_map, size]

theorem Coherent.mem_names (h : r.Coherent used) :
    name ∈ r.names ↔ (r.liveTypes name).isSome := by
  rw [← h.mem_liveNames]
  exact (List.mergeSort_perm _ _).mem_iff

theorem Coherent.names_ascend (h : r.Coherent used) : r.names.Pairwise (· < ·) := by
  have hsorted : r.names.Pairwise fun a b => (!decide (b < a)) = true := by
    refine List.pairwise_mergeSort ?_ ?_ _
    · intro a b c hab hbc
      simp only [Bool.not_eq_true', decide_eq_false_iff_not, not_lt] at *
      exact le_trans hab hbc
    · intro a b
      simp only [Bool.or_eq_true, Bool.not_eq_true', decide_eq_false_iff_not, not_lt]
      exact le_total a b
  have hdistinct : r.names.Pairwise (· ≠ ·) :=
    (List.mergeSort_perm _ _).nodup_iff.mpr h.nodup_liveNames
  refine hsorted.imp₂ (fun a b hab hne => ?_) hdistinct
  simp only [Bool.not_eq_true', decide_eq_false_iff_not, not_lt] at hab
  exact lt_of_le_of_ne hab hne

include hused in
theorem Coherent.answersFrom (h : r.Coherent used) : r.AnswersFrom r.liveTypes used where
  lookup := lookup_eq r
  resolve := resolve_eq r
  contains := contains_eq r
  lookupByHash _ hname := h.lookupByHash_eq hused hname
  size := h.size_eq
  mem_names _ := h.mem_names
  names_ascend := h.names_ascend
  register _ := register_ok_iff
  registerWeakly _ := by
    rw [registerWeakly_ok_iff, liveTypes_purge h.distinct]

end Registry

/-! ## Every run -/

theorem liveTypes_initial : Store.initial.registry.liveTypes = LiveTypes.builtins := by
  show (Registry.insert (Registry.insert _ rootClass (.host rootClass)) stringClass
    (.host stringClass)).liveTypes = _
  rw [Registry.liveTypes_insert, Registry.liveTypes_insert]
  rfl

theorem coherent_initial {used : Set String} (hused : used.InjOn TypeHash.ofName)
    (hobject : objectName ∈ used) (hstring : stringName ∈ used) :
    Store.initial.registry.Coherent used := by
  have hempty : Registry.Coherent
      { object := rootClass, string := stringClass, entries := [], byHash := [] } used :=
    ⟨List.nodup_nil, nofun, rfl⟩
  have hroot := hempty.insert (t := rootClass) hused hobject (.host rootClass)
  exact hroot.insert (t := stringClass) hused hstring (.host stringClass)

/-- However registering, removing, purging and unloading follow each other, a registry
gives the answers of a map from names to loaded types, and answers every question from
that map afterwards, as long as no two of the names in use have one hash. -/
theorem registry_refines_live_types {used : Set String} (hused : used.InjOn TypeHash.ofName)
    (hobject : objectName ∈ used) (hstring : stringName ∈ used) (events : List RegistryEvent)
    (hevents : ∀ e ∈ events, ∀ name, e.name? = some name → name ∈ used) :
    (runEvents Registry.step Store.initial.registry events).1 =
        (runEvents LiveTypes.step LiveTypes.builtins events).1 ∧
      (runEvents Registry.step Store.initial.registry events).2.AnswersFrom
        (runEvents LiveTypes.step LiveTypes.builtins events).2 used := by
  have hcoherent := coherent_initial hused hobject hstring
  obtain ⟨hanswers, hend, hafter⟩ := hcoherent.run_refines hused hevents
  rw [liveTypes_initial] at hanswers hend
  refine ⟨hanswers, ?_⟩
  rw [← hend]
  exact hafter.answersFrom hused

/-- A class that two requests for one name make. -/
def tempClass : HostType :=
  .mk { id := 2, name := "gen/Temp", modifiers := .onlyPublic } (some rootClass) []

/-- The class is unloaded between the two requests that succeed. -/
def tempEvents : List RegistryEvent :=
  [.registerWeakly tempClass, .registerWeakly tempClass, .unload fun _ => false,
   .registerWeakly tempClass, .purge, .unregister tempClass.name]

def tempNames : Set String := {name | name ∈ [objectName, stringName, tempClass.name]}

theorem temp_registers_again :
    (runEvents Registry.step Store.initial.registry tempEvents).1 =
        [.registered (.ok ()), .registered (.error (.duplicateType "gen/Temp")), .done,
         .registered (.ok ()), .done, .removed true] ∧
      (runEvents Registry.step Store.initial.registry tempEvents).2.AnswersFrom
        (runEvents LiveTypes.step LiveTypes.builtins tempEvents).2 tempNames := by
  have hdistinct : ∀ a ∈ [objectName, stringName, tempClass.name],
      ∀ b ∈ [objectName, stringName, tempClass.name],
        TypeHash.ofName a = TypeHash.ofName b → a = b := by
    decide +kernel
  have hused : tempNames.InjOn TypeHash.ofName := fun a ha b hb => hdistinct a ha b hb
  have hnames : ∀ e ∈ tempEvents, ∀ name, e.name? = some name → name ∈ tempNames := by
    simp [tempEvents, tempNames, RegistryEvent.name?]
  obtain ⟨hanswers, hquestions⟩ :=
    registry_refines_live_types hused (by simp [tempNames]) (by simp [tempNames]) tempEvents hnames
  exact ⟨hanswers.trans (by rfl), hquestions⟩

end ScriptClass
