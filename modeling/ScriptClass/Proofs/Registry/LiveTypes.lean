import ScriptClass.Registry
import Mathlib.Logic.Function.Basic

/-!
# The loaded types of a registry

What users of a registry can tell of it is a partial map from names to loaded types
(`Registry.liveTypes`). An entry whose type is unloaded stands for nothing in that map,
whether it was purged or not. Each operation is described here by what it does to the
map, for any registry:

* `liveTypes_insert`, `liveTypes_erase`: one name is set or cleared;
* `liveTypes_unload`: generated types that nothing holds are cleared;
* `liveTypes_purge`: nothing changes, as long as no name has two entries;
* `register_ok_iff`, `registerWeakly_ok_iff`: a type is let in if it is well formed and the
  map has nothing of its name, and only then.
-/

namespace ScriptClass

/-! ## Tables -/

section Table

variable {α β γ : Type} [BEq α]

theorem lookup_map_value (f : β → γ) (l : List (α × β)) (a : α) :
    (l.map fun e => (e.1, f e.2)).lookup a = (l.lookup a).map f := by
  induction l with
  | nil => rfl
  | cons e l ih =>
    rw [List.map_cons, List.lookup_cons, List.lookup_cons]
    split
    · rfl
    · exact ih

variable [LawfulBEq α] {l : List (α × β)} {a : α} {b : β}

theorem lookup_filter_key (p : α → Bool) (l : List (α × β)) (a : α) :
    (l.filter fun e => p e.1).lookup a = if p a then l.lookup a else none := by
  induction l with
  | nil => simp
  | cons e l ih =>
    obtain ⟨k, b⟩ := e
    rw [List.filter_cons, List.lookup_cons]
    by_cases ha : a = k
    · subst ha
      cases hp : p a with
      | true => simp
      | false => simpa [hp] using ih
    · have hne : (a == k) = false := beq_eq_false_iff_ne.mpr ha
      simp only [hne]
      split
      · rw [List.lookup_cons, hne]
        exact ih
      · exact ih

theorem mem_of_lookup (h : l.lookup a = some b) : (a, b) ∈ l := by
  obtain ⟨before, after, rfl, -⟩ := List.lookup_eq_some_iff.mp h
  exact List.mem_append_right _ List.mem_cons_self

/-- Where no key occurs twice, every entry is found by its key. -/
theorem lookup_of_mem (hkeys : (l.map Prod.fst).Nodup) (h : (a, b) ∈ l) : l.lookup a = some b := by
  induction l with
  | nil => cases h
  | cons e l ih =>
    obtain ⟨hfresh, htail⟩ := List.nodup_cons.mp hkeys
    rw [List.lookup_cons]
    rcases List.mem_cons.mp h with rfl | h
    · simp
    · have hne : a ≠ e.1 := fun heq => hfresh (heq ▸ List.mem_map_of_mem (f := Prod.fst) h)
      rw [beq_false_of_ne hne]
      exact ih htail h

end Table

/-! ## The map of a registry -/

/-- A loaded type, and whether the registry leaves it to others to keep it loaded. -/
structure LiveType where
  type : HostType
  isGenerated : Bool

/-- The loaded types by name. -/
abbrev LiveTypes := String → Option LiveType

namespace RegistryEntry

/-- What an entry stands for, if its type is loaded. -/
def live? : RegistryEntry → Option LiveType
  | .host t => some ⟨t, false⟩
  | .generated t => t.map (⟨·, true⟩)

theorem type?_eq (e : RegistryEntry) : e.type? = e.live?.map LiveType.type := by
  rcases e with t | _ | t <;> rfl

theorem isLive_eq (e : RegistryEntry) : e.isLive = e.live?.isSome := by
  rcases e with t | _ | t <;> rfl

/-- The entry once generated types that are not held are unloaded. -/
def keep (isHeld : HostType → Bool) : RegistryEntry → RegistryEntry
  | .host t => .host t
  | .generated t => .generated (t.filter isHeld)

theorem live?_keep (isHeld : HostType → Bool) (e : RegistryEntry) :
    (e.keep isHeld).live? = e.live?.filter fun l => !l.isGenerated || isHeld l.type := by
  rcases e with t | _ | t
  · rfl
  · rfl
  · rw [keep, live?, live?, Option.filter_some, Option.map_some, Option.filter_some]
    cases hheld : isHeld t <;> rfl

end RegistryEntry

namespace Registry

variable {r : Registry} {name : String} {t : HostType} {e : RegistryEntry}

/-- The loaded types by name, generated ones marked. -/
def liveTypes (r : Registry) : LiveTypes := fun name => (r.entry? name).bind RegistryEntry.live?

theorem lookup_eq (r : Registry) (name : String) :
    r.lookup name = (r.liveTypes name).map LiveType.type := by
  rw [lookup, liveTypes]
  cases r.entry? name with
  | none => rfl
  | some e => exact e.type?_eq

theorem contains_eq (r : Registry) (name : String) :
    r.contains name = (r.liveTypes name).isSome := by
  rw [contains, lookup_eq, Option.isSome_map]

theorem entry?_erase (r : Registry) (name other : String) :
    entry? (r.erase name) other = if other = name then none else r.entry? other := by
  show (r.entries.filter fun e => e.1 != name).lookup other = _
  rw [lookup_filter_key (· != name)]
  by_cases h : other = name
  · simp [h]
  · simp [h, entry?]

theorem liveTypes_erase (r : Registry) (name : String) :
    (r.erase name).liveTypes = Function.update r.liveTypes name none := by
  funext other
  rw [liveTypes, entry?_erase, Function.update_apply]
  split
  · rfl
  · rfl

theorem liveTypes_insert (r : Registry) (t : HostType) (e : RegistryEntry) :
    (r.insert t e).liveTypes = Function.update r.liveTypes t.name e.live? := by
  funext other
  rw [Function.update_apply]
  by_cases h : other = t.name
  · simp [liveTypes, entry?, insert, h]
  · have hne : (other == t.name) = false := beq_eq_false_iff_ne.mpr h
    rw [if_neg h, liveTypes, entry?, insert, List.lookup_cons, hne]
    show (((r.entries.filter fun e => e.1 != t.name).lookup other).bind RegistryEntry.live?) = _
    rw [lookup_filter_key (· != t.name), if_pos (bne_iff_ne.mpr h)]
    rfl

theorem entries_unload (r : Registry) (isHeld : HostType → Bool) :
    (r.unload isHeld).entries = r.entries.map fun e => (e.1, e.2.keep isHeld) := by
  refine List.map_congr_left fun e _ => ?_
  rcases e with ⟨name, t | t⟩ <;> rfl

theorem liveTypes_unload (r : Registry) (isHeld : HostType → Bool) :
    (r.unload isHeld).liveTypes =
      fun name => (r.liveTypes name).filter fun l => !l.isGenerated || isHeld l.type := by
  funext name
  rw [liveTypes, liveTypes, entry?, entries_unload, lookup_map_value]
  show ((r.entry? name).map _).bind _ = _
  cases r.entry? name with
  | none => rfl
  | some e => exact e.live?_keep isHeld

/-! ## Purging -/

theorem liveTypes_foldl_erase (r : Registry) (names : List String) (name : String) :
    (names.foldl erase r).liveTypes name = if name ∈ names then none else r.liveTypes name := by
  induction names generalizing r with
  | nil => simp
  | cons n names ih =>
    rw [List.foldl_cons, ih, liveTypes_erase, Function.update_apply]
    by_cases h : name = n
    · simp [h]
    · simp [h]

/-- A name that no loaded type has before a purge is no loaded type's after it. -/
theorem liveTypes_purge_of_none (h : r.liveTypes name = none) : r.purge.liveTypes name = none := by
  rw [purge, liveTypes_foldl_erase, h, ite_self]

/-- A purge only drops entries that stand for nothing. -/
theorem liveTypes_purge (hnames : (r.entries.map Prod.fst).Nodup) :
    r.purge.liveTypes = r.liveTypes := by
  funext name
  rw [purge, liveTypes_foldl_erase]
  split
  next hdead =>
    obtain ⟨⟨n, e⟩, he, rfl⟩ := List.mem_map.mp hdead
    obtain ⟨hmem, hlive⟩ := List.mem_filter.mp he
    have hentry : r.entry? n = some e := lookup_of_mem hnames hmem
    have hnone : e.live? = none := by
      simpa [e.isLive_eq] using hlive
    rw [liveTypes, hentry]
    exact hnone.symm
  · rfl

/-! ## Registering -/

/-- What a registry asks of a type by itself. -/
structure WellFormed (t : HostType) : Prop where
  name : t.name ≠ ""
  superclass : ∀ s, t.superclass? = some s → t.isInterface = false ∧ s.isInterface = false
  interfaces : ∀ i ∈ t.interfaces, i.isInterface = true

theorem interfaceFault_eq_none :
    fault?.interfaceFault t = none ↔ ∀ i ∈ t.interfaces, i.isInterface = true := by
  rw [fault?.interfaceFault, Option.map_eq_none_iff, List.find?_eq_none]
  simp

theorem fault?_eq_none : fault? t = none ↔ WellFormed t := by
  unfold fault?
  split
  next hname =>
    refine ⟨nofun, fun h => ?_⟩
    exact absurd (String.isEmpty_iff.mp hname) h.name
  next hname =>
    have hne : t.name ≠ "" := fun h => hname (String.isEmpty_iff.mpr h)
    split
    next s hs =>
      cases ht : t.isInterface with
      | true => exact ⟨nofun, fun h => by simpa [ht] using (h.superclass s hs).1⟩
      | false =>
        cases hsi : s.isInterface with
        | true => exact ⟨nofun, fun h => by simpa [hsi] using (h.superclass s hs).2⟩
        | false =>
          refine interfaceFault_eq_none.trans ⟨fun h => ⟨hne, ?_, h⟩, WellFormed.interfaces⟩
          rintro s' hs'
          cases hs.symm.trans hs'
          exact ⟨ht, hsi⟩
    next hs =>
      refine interfaceFault_eq_none.trans ⟨fun h => ⟨hne, ?_, h⟩, WellFormed.interfaces⟩
      rintro s' hs'
      cases hs.symm.trans hs'

theorem validate_of_fault {fault : TypeFault} (h : fault? t = some fault) :
    validate t = .error (.invalidType t.name fault) := by
  rw [validate, h]

theorem validate_of_wellFormed (h : fault? t = none) : validate t = .ok () := by
  rw [validate, h]

theorem refuseTaken_of_live {l : LiveType} (h : r.liveTypes name = some l) :
    r.refuseTaken name = .error (.duplicateType name) := by
  rw [refuseTaken, contains_eq, h]
  rfl

theorem refuseTaken_of_none (h : r.liveTypes name = none) : r.refuseTaken name = .ok () := by
  rw [refuseTaken, contains_eq, h]
  rfl

theorem register_of_fault {fault : TypeFault} (h : fault? t = some fault) :
    r.register t = .error (.invalidType t.name fault) := by
  rw [register, validate_of_fault h]
  rfl

theorem register_of_taken {l : LiveType} (ht : fault? t = none) (h : r.liveTypes t.name = some l) :
    r.register t = .error (.duplicateType t.name) := by
  rw [register, validate_of_wellFormed ht, refuseTaken_of_live h]
  rfl

theorem register_of_free (ht : fault? t = none) (h : r.liveTypes t.name = none) :
    r.register t = .ok (r.insert t (.host t)) := by
  rw [register, validate_of_wellFormed ht, refuseTaken_of_none h]
  rfl

theorem registerWeakly_of_fault {fault : TypeFault} (h : fault? t = some fault) :
    r.registerWeakly t = (.error (.invalidType t.name fault), r) := by
  rw [registerWeakly, validate_of_fault h]

theorem registerWeakly_of_taken {l : LiveType} (ht : fault? t = none)
    (h : r.purge.liveTypes t.name = some l) :
    r.registerWeakly t = (.error (.duplicateType t.name), r.purge) := by
  rw [registerWeakly, validate_of_wellFormed ht]
  dsimp only
  rw [refuseTaken_of_live h]

theorem registerWeakly_of_free (ht : fault? t = none) (h : r.purge.liveTypes t.name = none) :
    r.registerWeakly t = (.ok (), r.purge.insert t (.generated (some t))) := by
  rw [registerWeakly, validate_of_wellFormed ht]
  dsimp only
  rw [refuseTaken_of_none h]

theorem register_ok_iff :
    (∃ r', r.register t = .ok r') ↔ WellFormed t ∧ r.liveTypes t.name = none := by
  rw [← fault?_eq_none]
  cases hf : fault? t with
  | some fault => simp [register_of_fault hf]
  | none =>
    cases hm : r.liveTypes t.name with
    | some l => simp [register_of_taken hf hm]
    | none => simp [register_of_free hf hm]

theorem registerWeakly_ok_iff :
    (r.registerWeakly t).1 = .ok () ↔ WellFormed t ∧ r.purge.liveTypes t.name = none := by
  rw [← fault?_eq_none]
  cases hf : fault? t with
  | some fault => simp [registerWeakly_of_fault hf]
  | none =>
    cases hm : r.purge.liveTypes t.name with
    | some l => simp [registerWeakly_of_taken hf hm]
    | none => simp [registerWeakly_of_free hf hm]

end Registry

end ScriptClass
