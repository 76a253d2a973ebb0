import ScriptClass.Store.Property
import Mathlib.Data.List.Induction

/-!
# Writing data

Data are written by name: a write replaces the value that is read under the name, or adds one.
So after any writes a name reads the last one of it (`Entries.get?_putAll`), and names that were
distinct stay so (`Entries.nodup_putAll`).

An object of a generated class takes every write but those of names that its class answers to
(`Store.putProperty_pair`). A write is no other object's (`Store.properties_write_other`).
-/

namespace ScriptClass

namespace Entries

variable {entries : Entries} {n k : String} {v : ScriptValue}

theorem get?_cons (e : String × ScriptValue) (entries : Entries) (n : String) :
    Entries.get? (e :: entries) n = if n = e.1 then some e.2 else entries.get? n := by
  obtain ⟨k, v⟩ := e
  simp only [Entries.get?, List.lookup_cons]
  by_cases h : n = k
  · rw [if_pos h, beq_iff_eq.mpr h]
  · rw [if_neg h, beq_false_of_ne h]

/-- A write is what its key reads from then on, and no other key reads it. -/
theorem get?_put (k : String) (v : ScriptValue) (entries : Entries) (n : String) :
    (Entries.put k v entries).get? n = if n = k then some v else entries.get? n := by
  induction entries with
  | nil => exact get?_cons (k, v) [] n
  | cons e es ih =>
    rw [Entries.put]
    split
    next hkey =>
      rw [get?_cons, get?_cons, beq_iff_eq.mp hkey]
      by_cases h : n = k <;> simp [h]
    next hkey =>
      rw [get?_cons, get?_cons, ih]
      by_cases h : n = e.1
      · rw [if_pos h, if_pos h, if_neg fun hk => hkey (beq_iff_eq.mpr (h.symm.trans hk))]
      · rw [if_neg h, if_neg h]

theorem mem_keys_put : n ∈ (Entries.put k v entries).map Prod.fst ↔
    n = k ∨ n ∈ entries.map Prod.fst := by
  induction entries with
  | nil => simp [Entries.put]
  | cons e es ih =>
    rw [Entries.put]
    split
    next heq =>
      rw [← beq_iff_eq.mp heq]
      simp
    next =>
      simp only [List.map_cons, List.mem_cons, ih]
      exact or_left_comm

theorem nodup_put (h : (entries.map Prod.fst).Nodup) :
    ((Entries.put k v entries).map Prod.fst).Nodup := by
  induction entries with
  | nil => exact List.pairwise_singleton _ _
  | cons e es ih =>
    obtain ⟨hfresh, hrest⟩ := List.nodup_cons.mp h
    rw [Entries.put]
    split
    next heq =>
      rw [← beq_iff_eq.mp heq]
      exact h
    next hne =>
      refine List.nodup_cons.mpr ⟨fun hmem => ?_, ih hrest⟩
      rcases mem_keys_put.mp hmem with hk | hmem
      · exact hne (beq_iff_eq.mpr hk)
      · exact hfresh hmem

/-- Writes one after the other. -/
def putAll (writes entries : Entries) : Entries :=
  writes.foldl (fun entries e => Entries.put e.1 e.2 entries) entries

theorem putAll_snoc (writes : Entries) (k : String) (v : ScriptValue) (entries : Entries) :
    putAll (writes ++ [(k, v)]) entries = Entries.put k v (putAll writes entries) :=
  List.foldl_append ..

/-- After some writes a key reads the last one of it, or what it read before. -/
theorem get?_putAll (writes entries : Entries) (n : String) :
    (putAll writes entries).get? n = (Entries.get? writes.reverse n).or (entries.get? n) := by
  induction writes using List.reverseRecOn with
  | nil => rfl
  | append_singleton writes e ih =>
    obtain ⟨k, v⟩ := e
    rw [putAll_snoc, get?_put, ih, List.reverse_concat, get?_cons]
    by_cases h : n = k <;> simp [h]

theorem mem_keys_putAll {writes : Entries} : n ∈ (putAll writes entries).map Prod.fst ↔
    n ∈ writes.map Prod.fst ∨ n ∈ entries.map Prod.fst := by
  induction writes using List.reverseRecOn with
  | nil => simp [putAll]
  | append_singleton writes e ih =>
    rw [putAll_snoc, mem_keys_put, ih, List.map_append, List.mem_append, List.map_singleton,
      List.mem_singleton, ← or_assoc, or_comm (a := n = e.1)]

theorem nodup_putAll (writes : Entries) (h : (entries.map Prod.fst).Nodup) :
    ((putAll writes entries).map Prod.fst).Nodup := by
  induction writes using List.reverseRecOn with
  | nil => exact h
  | append_singleton writes e ih =>
    rw [putAll_snoc]
    exact nodup_put ih

theorem isSome_get? : (entries.get? n).isSome ↔ n ∈ entries.map Prod.fst := by
  induction entries with
  | nil => exact ⟨nofun, nofun⟩
  | cons e es ih =>
    rw [get?_cons, List.map_cons, List.mem_cons, ← ih]
    by_cases h : n = e.1 <;> simp [h]

end Entries

namespace Store

variable {s s' : Store} {p q : Pair} {c : Wrapper} {name : String} {v : ScriptValue}

/-- A name is read as a new function with this code. -/
def ReadsAs (s : Store) (o : ScriptObject) (n : String) (code : FunctionCode) : Prop :=
  s.getProperty o n = (some (.function (s.newFunction code (some n) none).1),
    (s.newFunction code (some n) none).2)

/-- The store with a property of an object written. -/
def write (s : Store) (p : Pair) (name : String) (v : ScriptValue) : Store :=
  { s with pairs := s.pairs.modify p.id fun state =>
    { state with properties := Entries.put name v state.properties } }

theorem putProperty_pair (hc : s.wrapper? p.wrapper = some c) (name : String) (v : ScriptValue) :
    s.putProperty (.pair p) name v =
      if (c.plan.findId .instances name).isDefault then .ok (s.write p name v)
      else .error (.readOnlyProperty name) := by
  simp only [putProperty, hc]
  rfl

theorem putProperty_pair_ok (h : s.putProperty (.pair p) name v = .ok s') :
    s' = s.write p name v ∧
      ∀ c, s.wrapper? p.wrapper = some c → (c.plan.findId .instances name).isDefault = true := by
  simp only [putProperty] at h
  split at h
  next hdefault =>
    cases h
    refine ⟨rfl, fun c hc => ?_⟩
    rw [hc] at hdefault
    exact hdefault
  next => cases h

theorem properties_write (hp : p.id < s.pairs.size) (hq : q.id = p.id) :
    (s.write p name v).properties q = Entries.put name v (s.properties q) := by
  simp only [properties, write, hq, Array.getElem?_modify, if_pos]
  rw [Array.getElem?_eq_getElem hp]
  rfl

theorem properties_write_other (hq : q.id ≠ p.id) :
    (s.write p name v).properties q = s.properties q := by
  simp only [properties, write, Array.getElem?_modify, if_neg (Ne.symm hq)]

end Store

end ScriptClass
