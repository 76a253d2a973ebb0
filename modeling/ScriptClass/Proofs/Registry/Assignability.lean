import ScriptClass.Proofs.HostType.Subtype
import ScriptClass.Proofs.Registry.Refinement

/-!
# Assignability

A name is assignable to itself, to the root class and to the names of all that its loaded type
inherits from (`Registry.isAssignable_iff`). A type holds what it inherits from itself, while a
name on the way is looked up again. So assignability composes through a name that stands for one
type on both sides (`Registry.Joins`, `Registry.isAssignable_trans`), and stops where another type
has taken the name since (`assignability_stops_at_replaced_type`).

What is loaded after a history is built in or was registered under its own name
(`Registry.lookup_of_history`). So if one naming tells apart all types of a history and what they
inherit from, every name joins (`Registry.joins_of_named`) and assignability is a preorder.
-/

namespace ScriptClass

namespace HostType

variable {names : String → Option HostType} {t u v : HostType}

/-- The type, and each that it inherits from, is the one of its name. -/
def NamedBy (names : String → Option HostType) (t : HostType) : Prop :=
  ∀ u, t.Inherits u → names u.name = some u

theorem NamedBy.of_extends (hself : names t.name = some t)
    (hextends : ∀ u, t.Extends u → u.NamedBy names) : t.NamedBy names := by
  intro v hv
  rcases Relation.ReflTransGen.cases_head hv with rfl | ⟨u, hu, huv⟩
  · exact hself
  · exact hextends u hu v huv

/-- A type that extends nothing inherits from itself alone. -/
theorem eq_of_inherits (hbare : ∀ w, ¬u.Extends w) (h : u.Inherits v) : v = u := by
  rcases Relation.ReflTransGen.cases_head h with rfl | ⟨w, hw, -⟩
  · rfl
  · exact absurd hw (hbare w)

theorem rootClass_bare (w : HostType) : ¬rootClass.Extends w := by
  rintro (h | h) <;> cases h

theorem stringClass_inherits (h : stringClass.Inherits u) : u = stringClass ∨ u = rootClass := by
  rcases Relation.ReflTransGen.cases_head h with rfl | ⟨w, hw, hrest⟩
  · exact .inl rfl
  · rcases hw with hw | hw <;> cases hw
    exact .inr (eq_of_inherits rootClass_bare hrest)

end HostType

/-- The type that an event registers, if it is let in. -/
def RegistryEvent.type? : RegistryEvent → Option HostType
  | .register t => some t
  | .registerWeakly t => some t
  | _ => none

namespace Registry

variable {r : Registry} {a b c n : String} {t u : HostType} {e : RegistryEvent}
  {events : List RegistryEvent} {names : String → Option HostType}

theorem isAssignable_iff : r.isAssignable a c = true ↔
    a = c ∨ c = objectName ∨ ∃ t, r.lookup a = some t ∧ ∃ u, t.Inherits u ∧ u.name = c := by
  rw [isAssignable, Bool.or_eq_true, Bool.or_eq_true, beq_iff_eq, beq_iff_eq, or_assoc]
  refine or_congr_right ?_
  cases r.lookup a with
  | none => simp
  | some t =>
    rw [HostType.isSubtypeOf_iff]
    simp only [Option.some.injEq, exists_eq_left']
    exact or_self_left

theorem isAssignable_refl (r : Registry) (a : String) : r.isAssignable a a = true :=
  isAssignable_iff.mpr (.inl rfl)

/-- Where the loaded type of `b` leads on to others, it is one that the loaded type of `a` inherits
from. -/
def Joins (r : Registry) (a b : String) : Prop :=
  ∀ u, r.lookup b = some u →
    (∃ t, r.lookup a = some t ∧ t.Inherits u) ∨ ∀ v, ¬u.Extends v

theorem isAssignable_trans (hnames : ∀ n t, r.lookup n = some t → t.name = n)
    (hjoins : r.Joins a b) (hab : r.isAssignable a b = true) (hbc : r.isAssignable b c = true) :
    r.isAssignable a c = true := by
  rcases isAssignable_iff.mp hbc with rfl | hroot | ⟨u, hu, v, huv, hv⟩
  · exact hab
  · exact isAssignable_iff.mpr (.inr (.inl hroot))
  · rcases hjoins u hu with ⟨t, ht, htu⟩ | hbare
    · exact isAssignable_iff.mpr (.inr (.inr ⟨t, ht, v, htu.trans huv, hv⟩))
    · -- the loaded type of `b` leads to no name but `b`
      rw [HostType.eq_of_inherits hbare huv, hnames b u hu] at hv
      exact hv ▸ hab

/-! ## Histories -/

theorem lookup_purge (h : r.purge.lookup n = some t) : r.lookup n = some t := by
  rw [lookup_eq, purge, liveTypes_foldl_erase] at h
  split at h
  · cases h
  · rwa [lookup_eq]

theorem lookup_insert {entry : RegistryEntry} (hentry : entry.type? = some u)
    (h : (r.insert u entry).lookup n = some t) : r.lookup n = some t ∨ u = t ∧ t.name = n := by
  rw [lookup_eq, liveTypes_insert, Function.update_apply] at h
  split at h
  next hn =>
    rw [← entry.type?_eq, hentry] at h
    cases h
    exact .inr ⟨rfl, hn.symm⟩
  next =>
    rw [lookup_eq]
    exact .inl h

/-- What is loaded after an event was loaded before, or the event registers it under its own
name. -/
theorem lookup_step (h : (r.step e).2.lookup n = some t) :
    r.lookup n = some t ∨ e.type? = some t ∧ t.name = n := by
  cases e with
  | register u =>
    rw [step] at h
    rcases hr : r.register u with cause | r' <;> simp only [hr] at h
    · exact .inl h
    · obtain ⟨hwell, hfree⟩ := register_ok_iff.mp ⟨r', hr⟩
      rw [register_of_free (fault?_eq_none.mpr hwell) hfree] at hr
      cases hr
      exact (lookup_insert rfl h).imp_right (And.imp_left (congrArg some))
  | registerWeakly u =>
    have h : (r.registerWeakly u).2.lookup n = some t := h
    cases hfault : fault? u with
    | some fault =>
      rw [registerWeakly_of_fault hfault] at h
      exact .inl h
    | none =>
      cases hlive : r.purge.liveTypes u.name with
      | some l =>
        rw [registerWeakly_of_taken hfault hlive] at h
        exact .inl (lookup_purge h)
      | none =>
        rw [registerWeakly_of_free hfault hlive] at h
        exact (lookup_insert rfl h).imp lookup_purge (And.imp_left (congrArg some))
  | unregister name =>
    have h : (r.unregister name).2.lookup n = some t := h
    rw [lookup_eq, (unregister_eq r name).2, Function.update_apply] at h
    split at h
    · cases h
    · rw [lookup_eq]
      exact .inl h
  | purge => exact .inl (lookup_purge h)
  | unload isHeld =>
    have h : (r.unload isHeld).lookup n = some t := h
    rw [lookup_eq, liveTypes_unload] at h
    obtain ⟨l, hl, rfl⟩ := Option.map_eq_some_iff.mp h
    rw [lookup_eq, (Option.filter_eq_some_iff.mp hl).1]
    exact .inl rfl

theorem lookup_run (h : (runEvents step r events).2.lookup n = some t) :
    r.lookup n = some t ∨ (∃ e ∈ events, e.type? = some t) ∧ t.name = n := by
  induction events generalizing r with
  | nil => exact .inl h
  | cons e events ih =>
    rcases ih h with h | ⟨⟨e', he', ht⟩, hn⟩
    · exact (lookup_step h).imp_right (And.imp_left fun ht => ⟨e, List.mem_cons_self, ht⟩)
    · exact .inr ⟨⟨e', List.mem_cons_of_mem _ he', ht⟩, hn⟩

/-- What is loaded after a history is built in or was registered, each under its own name. -/
theorem lookup_of_history (h : (runEvents step Store.initial.registry events).2.lookup n = some t) :
    (t = rootClass ∨ t = stringClass ∨ ∃ e ∈ events, e.type? = some t) ∧ t.name = n := by
  rcases lookup_run h with h | ⟨he, hn⟩
  · rw [lookup_eq, liveTypes_initial, LiveTypes.builtins, Function.update_apply,
      Function.update_apply] at h
    split at h
    next hn =>
      cases h
      exact ⟨.inr (.inl rfl), hn.symm⟩
    next =>
      split at h
      next hn =>
        cases h
        exact ⟨.inl rfl, hn.symm⟩
      next => cases h
  · exact ⟨.inr (.inr he), hn⟩

/-- If one naming tells apart all that a history registers, and the built-in classes from that, a
name that is assignable to another joins it. -/
theorem joins_of_named (hroot : names objectName = some rootClass)
    (hstring : names stringName = some stringClass)
    (hevents : ∀ e ∈ events, ∀ t, e.type? = some t → t.NamedBy names)
    (hab : (runEvents step Store.initial.registry events).2.isAssignable a b = true) :
    (runEvents step Store.initial.registry events).2.Joins a b := by
  have hnamed : ∀ n t, (runEvents step Store.initial.registry events).2.lookup n = some t →
      t.NamedBy names ∧ t.name = n := by
    intro n t h
    obtain ⟨rfl | rfl | ⟨e, he, ht⟩, hn⟩ := lookup_of_history h
    · refine ⟨fun u hu => ?_, hn⟩
      rw [HostType.eq_of_inherits HostType.rootClass_bare hu]
      exact hroot
    · refine ⟨fun u hu => ?_, hn⟩
      rcases HostType.stringClass_inherits hu with rfl | rfl
      · exact hstring
      · exact hroot
    · exact ⟨hevents e he t ht, hn⟩
  intro u hu
  obtain ⟨hunamed, hub⟩ := hnamed b u hu
  have hself : names b = some u := hub ▸ hunamed u .refl
  rcases isAssignable_iff.mp hab with rfl | rfl | ⟨t, ht, w, htw, rfl⟩
  · exact .inl ⟨u, hu, .refl⟩
  · cases hself.symm.trans hroot
    exact .inr HostType.rootClass_bare
  · cases hself.symm.trans ((hnamed a t ht).1 w htw)
    exact .inl ⟨t, ht, htw⟩

end Registry

/-- After any history of a registry every name is assignable to itself, and assignability composes
through each name that joins: whose loaded type, where it leads on to others, is the one that the
loaded type before it inherits from. If one naming tells apart all types that the history registers
and all that these inherit from, every name joins and assignability is a preorder. -/
theorem assignability_composes_where_names_join (events : List RegistryEvent) :
    (∀ a, (runEvents Registry.step Store.initial.registry events).2.isAssignable a a = true) ∧
    (∀ a b c, (runEvents Registry.step Store.initial.registry events).2.Joins a b →
      (runEvents Registry.step Store.initial.registry events).2.isAssignable a b = true →
      (runEvents Registry.step Store.initial.registry events).2.isAssignable b c = true →
        (runEvents Registry.step Store.initial.registry events).2.isAssignable a c = true) ∧
    ∀ names : String → Option HostType, names objectName = some rootClass →
      names stringName = some stringClass →
      (∀ e ∈ events, ∀ t, e.type? = some t → t.NamedBy names) →
        ∀ a b, (runEvents Registry.step Store.initial.registry events).2.isAssignable a b = true →
          (runEvents Registry.step Store.initial.registry events).2.Joins a b :=
  ⟨Registry.isAssignable_refl _,
    fun _ _ _ => Registry.isAssignable_trans fun _ _ h => (Registry.lookup_of_history h).2,
    fun _ hroot hstring hevents _ _ => Registry.joins_of_named hroot hstring hevents⟩

namespace Sample

/-- A class that extends the root class, under this number and name. -/
def plainClass (id : Nat) (name : String) : HostType :=
  .mk { id, name, modifiers := .onlyPublic } (some rootClass) []

def baseClass : HostType := plainClass 2 "app/Base"

def heirClass : HostType :=
  .mk { id := 3, name := "app/Heir", modifiers := .onlyPublic } (some baseClass) []

def lastClass : HostType :=
  .mk { id := 4, name := "app/Last", modifiers := .onlyPublic } (some heirClass) []

def family : List RegistryEvent :=
  [.register baseClass, .registerWeakly heirClass, .register lastClass]

/-- The names of the family and of the built-in classes. -/
def familyNames (n : String) : Option HostType :=
  [rootClass, stringClass, baseClass, heirClass, lastClass].find? (·.name == n)

theorem family_named : ∀ e ∈ family, ∀ t, e.type? = some t → t.NamedBy familyNames := by
  have hextends {t u : HostType} (h : t.superclass? = some u) (hi : t.interfaces = []) :
      ∀ v, t.Extends v → v = u := by
    rintro v (hv | hv)
    · exact Option.some.inj (hv.symm.trans h)
    · rw [hi] at hv
      cases hv
  have hroot : rootClass.NamedBy familyNames :=
    .of_extends rfl fun v hv => absurd hv (HostType.rootClass_bare v)
  have hbase : baseClass.NamedBy familyNames :=
    .of_extends rfl fun v hv => hextends (u := rootClass) rfl rfl v hv ▸ hroot
  have hheir : heirClass.NamedBy familyNames :=
    .of_extends rfl fun v hv => hextends (u := baseClass) rfl rfl v hv ▸ hbase
  have hlast : lastClass.NamedBy familyNames :=
    .of_extends rfl fun v hv => hextends (u := heirClass) rfl rfl v hv ▸ hheir
  simp [family, RegistryEvent.type?, hbase, hheir, hlast]

def otherClass : HostType := plainClass 5 "app/Other"

/-- Another class of the name of `baseClass`. -/
def secondBase : HostType :=
  .mk { id := 6, name := "app/Base", modifiers := .onlyPublic } (some otherClass) []

/-- The base class is removed, and another one takes its name. -/
def replacement : List RegistryEvent :=
  [.register baseClass, .register heirClass, .register otherClass, .unregister "app/Base",
   .register secondBase]

end Sample

open Sample in
/-- From the last class through its superclass to the superclass of that. -/
theorem family_is_assignable :
    (runEvents Registry.step Store.initial.registry family).2.Joins "app/Last" "app/Heir" ∧
      (runEvents Registry.step Store.initial.registry family).2.isAssignable "app/Last" "app/Base" =
        true := by
  obtain ⟨-, htrans, hnamed⟩ := assignability_composes_where_names_join family
  have hjoins := hnamed familyNames rfl rfl family_named "app/Last" "app/Heir" (by rfl)
  exact ⟨hjoins, htrans _ _ _ hjoins (by rfl) (by rfl)⟩

open Sample in
/-- The heir still is the base class that it extends, but not what the new one of that name is. -/
theorem assignability_stops_at_replaced_type :
    (runEvents Registry.step Store.initial.registry replacement).2.isAssignable "app/Heir" "app/Base" =
        true ∧
      (runEvents Registry.step Store.initial.registry replacement).2.isAssignable "app/Base"
        "app/Other" = true ∧
      (runEvents Registry.step Store.initial.registry replacement).2.isAssignable "app/Heir"
        "app/Other" = false := by
  decide +kernel

end ScriptClass
