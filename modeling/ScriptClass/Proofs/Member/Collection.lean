import ScriptClass.Member.Collection
import Mathlib.Tactic.Tauto

/-!
# What collecting gives

`Adds` says what one entry does to a collected facet: it becomes the constructor,
a method under the next id or a data property, and its key is new. A facet that
was collected from entries (`CollectedFrom`) knows each of its callables by the
key that it is written under, and numbers its methods in order without gaps. One
entry keeps this (`CollectedFrom.add`), hence so do all (`collect_ok`).
-/

namespace ScriptClass

namespace CollectedFacet

variable {ms ms' : CollectedFacet} {key : String}

/-- What an entry that is not refused does. -/
inductive Adds (ms : CollectedFacet) : String × ScriptValue → CollectedFacet → Prop where
  | constructor {key : String} {parsed : MemberKey} {f : FunctionRef}
    (fresh : ¬ms.hasKey key ∧ ¬ms.hasProperty key) (parse : MemberKey.parse key = .ok parsed)
    (name : parsed.name = constructorName) (facet : ms.facet = .instances)
    (first : ms.constructor = none) :
    ms.Adds (key, .function f) { ms with constructor := some ⟨key, parsed, .constructor, f⟩ }
  | method {key : String} {parsed : MemberKey} {f : FunctionRef}
    (fresh : ¬ms.hasKey key ∧ ¬ms.hasProperty key) (parse : MemberKey.parse key = .ok parsed)
    (name : parsed.name ≠ constructorName) (data : ¬ms.hasProperty parsed.name)
    (clash : ¬ms.clashes parsed) :
    ms.Adds (key, .function f)
      { ms with methods := ms.methods ++ [⟨key, parsed, .ofIndex ms.facet ms.methods.length, f⟩] }
  | property {key : String} {v : ScriptValue} (data : v.function? = none)
    (fresh : ¬ms.hasKey key ∧ ¬ms.hasProperty key)
    (reserved : ¬(key == constructorName || "constructor(".toList.isPrefixOf key.toList))
    (unnamed : ms.named key = []) : ms.Adds (key, v) { ms with properties := ms.properties ++ [(key, v)] }

theorem adds_of_addConstructor {parsed : MemberKey} {f : FunctionRef}
    (fresh : ¬ms.hasKey key ∧ ¬ms.hasProperty key) (parse : MemberKey.parse key = .ok parsed)
    (name : parsed.name = constructorName) (h : ms.addConstructor key parsed f = .ok ms') :
    ms.Adds (key, .function f) ms' := by
  unfold addConstructor at h
  split at h
  · cases h
  next hf =>
    split at h <;> cases h
    next hc =>
      refine .constructor fresh parse name ?_ (Option.not_isSome_iff_eq_none.mp hc)
      cases e : ms.facet
      · rfl
      · exact absurd e hf

theorem adds_of_addMethod {parsed : MemberKey} {f : FunctionRef}
    (fresh : ¬ms.hasKey key ∧ ¬ms.hasProperty key) (parse : MemberKey.parse key = .ok parsed)
    (name : parsed.name ≠ constructorName) (h : ms.addMethod key parsed f = .ok ms') :
    ms.Adds (key, .function f) ms' := by
  unfold addMethod at h
  split at h
  · cases h
  next data =>
    split at h <;> cases h
    next clash => exact .method fresh parse name data clash

theorem adds_of_addProperty {v : ScriptValue} (data : v.function? = none)
    (fresh : ¬ms.hasKey key ∧ ¬ms.hasProperty key) (h : ms.addProperty key v = .ok ms') :
    ms.Adds (key, v) ms' := by
  unfold addProperty at h
  split at h
  · cases h
  next reserved =>
    split at h <;> cases h
    next unnamed => exact .property data fresh reserved (by simpa using unnamed)

theorem adds_of_add {entry : String × ScriptValue} (h : ms.add entry = .ok ms') :
    ms.Adds entry ms' := by
  obtain ⟨key, value⟩ := entry
  unfold add at h
  dsimp only at h
  split at h
  · cases h
  next taken =>
    have fresh : ¬ms.hasKey key ∧ ¬ms.hasProperty key := by simpa using taken
    cases value with
    | function f =>
      dsimp only at h
      split at h
      · cases h
      next parsed parse =>
        split at h
        next name => exact adds_of_addConstructor fresh parse name h
        next name => exact adds_of_addMethod fresh parse name h
    | _ => exact adds_of_addProperty rfl fresh h

/-! ## Collected facets -/

/-- The facet was collected from the entries. -/
structure CollectedFrom (facet : Facet) (entries : Entries) (ms : CollectedFacet) : Prop where
  facet_eq : ms.facet = facet
  /-- The methods are numbered in order. -/
  id {i : Nat} {m : Member} : ms.methods[i]? = some m → m.id = .ofIndex facet i
  /-- Each callable is the function written under its key. -/
  written {m : Member} : m ∈ ms.callables → entries.lookup m.key = some (.function m.function)
  /-- Every key is taken. -/
  taken {e : String × ScriptValue} : e ∈ entries → ms.hasKey e.1 ∨ ms.hasProperty e.1

theorem collectedFrom_empty (facet : Facet) : CollectedFrom facet [] (empty facet) where
  facet_eq := rfl
  id h := by cases h
  written h := by cases h
  taken h := by cases h

/-- A key that is not taken is not written yet. -/
theorem CollectedFrom.lookup_fresh {facet : Facet} {entries : Entries}
    (h : CollectedFrom facet entries ms) (fresh : ¬ms.hasKey key ∧ ¬ms.hasProperty key) :
    entries.lookup key = none := by
  rw [List.lookup_eq_none_iff]
  intro e he
  rw [bne_iff_ne]
  rintro rfl
  rcases h.taken he with hk | hp
  · exact fresh.1 hk
  · exact fresh.2 hp

/-- An entry written later changes no earlier one. -/
theorem lookup_snoc {entries : Entries} {k : String} {v : ScriptValue} (e : String × ScriptValue)
    (h : entries.lookup k = some v) : (entries ++ [e]).lookup k = some v := by
  rw [List.lookup_append, h]
  rfl

theorem lookup_snoc_self {entries : Entries} {v : ScriptValue} (h : entries.lookup key = none) :
    (entries ++ [(key, v)]).lookup key = some v := by
  rw [List.lookup_append, h, List.lookup_cons_self]
  rfl

/-- What is taken stays taken, and the new key is. -/
theorem Adds.taken {entry : String × ScriptValue} (h : ms.Adds entry ms') :
    (∀ k, ms.hasKey k ∨ ms.hasProperty k → ms'.hasKey k ∨ ms'.hasProperty k) ∧
      (ms'.hasKey entry.1 ∨ ms'.hasProperty entry.1) := by
  cases h with
  | constructor _ _ _ _ first =>
    simp only [hasKey, hasProperty, callables, first, List.any_append, List.any_cons,
      List.any_nil, Option.toList_some, Option.toList_none, Bool.or_eq_true, beq_self_eq_true,
      Bool.or_false]
    exact ⟨fun k hk => by tauto, by tauto⟩
  | method | property =>
    simp only [hasKey, hasProperty, callables, List.any_append, List.any_cons, List.any_nil,
      Bool.or_eq_true, beq_self_eq_true, Bool.or_false]
    exact ⟨fun k hk => by tauto, by tauto⟩

/-- The callables are those of before and at most the one of the entry. -/
theorem Adds.callables {entry : String × ScriptValue} (h : ms.Adds entry ms') {m : Member}
    (hm : m ∈ ms'.callables) :
    m ∈ ms.callables ∨ (entry = (m.key, .function m.function)) := by
  cases h with
  | constructor =>
    rcases List.mem_append.mp hm with hm | hm
    · exact .inl (List.mem_append_left _ hm)
    · obtain rfl := List.mem_singleton.mp hm
      exact .inr rfl
  | method =>
    rcases List.mem_append.mp hm with hm | hm
    · rcases List.mem_append.mp hm with hm | hm
      · exact .inl (List.mem_append_left _ hm)
      · obtain rfl := List.mem_singleton.mp hm
        exact .inr rfl
    · exact .inl (List.mem_append_right _ hm)
  | property => exact .inl hm

/-- The key of an entry that is not refused is new. -/
theorem Adds.fresh {entry : String × ScriptValue} (h : ms.Adds entry ms') :
    ¬ms.hasKey entry.1 ∧ ¬ms.hasProperty entry.1 := by
  cases h <;> assumption

theorem Adds.facet {entry : String × ScriptValue} (h : ms.Adds entry ms') : ms'.facet = ms.facet := by
  cases h <;> rfl

/-- The methods are those of before and at most one more, under the next id. -/
theorem Adds.methods {entry : String × ScriptValue} (h : ms.Adds entry ms') {i : Nat} {m : Member}
    (hm : ms'.methods[i]? = some m) :
    ms.methods[i]? = some m ∨ m.id = .ofIndex ms.facet i := by
  cases h with
  | method =>
    simp only [List.getElem?_append] at hm
    split at hm
    · exact .inl hm
    next hlt =>
      obtain ⟨hi, rfl⟩ := List.getElem?_eq_some_iff.mp hm
      simp only [List.length_singleton] at hi
      have hlen : i = ms.methods.length := by omega
      subst hlen
      simp
  | _ => exact .inl hm

theorem CollectedFrom.add {facet : Facet} {entries : Entries} {entry : String × ScriptValue}
    (h : CollectedFrom facet entries ms) (hadd : ms.Adds entry ms') :
    CollectedFrom facet (entries ++ [entry]) ms' where
  facet_eq := hadd.facet.trans h.facet_eq
  id hm := by
    rcases hadd.methods hm with hm | hid
    · exact h.id hm
    · rw [hid, h.facet_eq]
  written {m} hm := by
    rcases hadd.callables hm with hm | rfl
    · exact lookup_snoc entry (h.written hm)
    · exact lookup_snoc_self (h.lookup_fresh hadd.fresh)
  taken {e} he := by
    rcases List.mem_append.mp he with he | he
    · exact hadd.taken.1 _ (h.taken he)
    · obtain rfl := List.mem_singleton.mp he
      exact hadd.taken.2

/-- The entries that follow are added one by one. -/
theorem CollectedFrom.foldlM {facet : Facet} {done : Entries} (h : CollectedFrom facet done ms)
    (entries : Entries) (hc : entries.foldlM CollectedFacet.add ms = .ok ms') :
    CollectedFrom facet (done ++ entries) ms' := by
  induction entries generalizing ms done with
  | nil =>
    cases hc
    rwa [List.append_nil]
  | cons e es ih =>
    rw [List.foldlM_cons] at hc
    cases hadd : ms.add e with
    | error fault => rw [hadd] at hc; cases hc
    | ok next =>
      rw [hadd] at hc
      have := ih (h.add (adds_of_add hadd)) hc
      rwa [List.append_assoc] at this

theorem collect_ok {facet : Facet} {entries : Option Entries}
    (h : collect facet entries = .ok ms) : CollectedFrom facet (entries.getD []) ms :=
  (collectedFrom_empty facet).foldlM _ h

end CollectedFacet

/-- Both facets are collected. -/
theorem Members.collect_ok {instances statics : Option Entries} {ms : Members}
    (h : Members.collect instances statics = .ok ms) :
    CollectedFacet.collect .instances instances = .ok ms.instances ∧
      CollectedFacet.collect .statics statics = .ok ms.statics := by
  unfold Members.collect at h
  cases hi : CollectedFacet.collect .instances instances with
  | error e => rw [hi] at h; cases h
  | ok is =>
    cases hs : CollectedFacet.collect .statics statics with
    | error e => rw [hi, hs] at h; cases h
    | ok ss =>
      rw [hi, hs] at h
      cases h
      exact ⟨rfl, rfl⟩

end ScriptClass
