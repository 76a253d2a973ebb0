import Mathlib.Data.List.Basic

/-!
# The first of each key

Visits of types, slots and names keep what they meet first and drop what shares a
key with it. `firstsBy` is that rule for any key; it erases duplicates
(`firstsBy_eq_eraseDupsBy`), and `firstsBy_cons` is how it works from the other end: the
head stays and drops its key from the rest. Nothing is dropped that a search by key would find (`find?_firstsBy`), and a search for
anything else finds the same as long as that was not dropped
(`find?_firstsBy_of_mem`).
-/

namespace ScriptClass

/-- A narrower search that holds of what a search found finds it too. -/
theorem find?_of_imp {α : Type} {p q : α → Bool} {ds : List α} {d : α} (h : ds.find? p = some d)
    (hpq : ∀ e, q e = true → p e = true) (hd : q d = true) : ds.find? q = some d := by
  obtain ⟨-, before, rest, hds, hbefore⟩ := List.find?_eq_some_iff_append.mp h
  refine List.find?_eq_some_iff_append.mpr ⟨hd, before, rest, hds, fun e he => ?_⟩
  rw [Bool.not_eq_true', Bool.eq_false_iff]
  intro hq
  simpa [hpq e hq] using hbefore e he

section Firsts

variable {α κ : Type} [BEq κ] (key : α → κ)

/-- The first of each key. -/
def firstsBy (ds : List α) : List α :=
  ds.foldl (fun seen d => if seen.any (key · == key d) then seen else seen ++ [d]) []

theorem firstsBy_nil : firstsBy key [] = [] := rfl

variable [LawfulBEq κ]

/-- What was seen stays in front, and drops its keys from what is met later. -/
theorem foldl_firsts (ds seen : List α) :
    ds.foldl (fun seen d => if seen.any (key · == key d) then seen else seen ++ [d]) seen =
      seen ++ (firstsBy key ds).filter fun d => !seen.any (key · == key d) := by
  induction ds generalizing seen with
  | nil => simp only [firstsBy, List.foldl_nil, List.filter_nil, List.append_nil]
  | cons d ds ih =>
    have hcons : firstsBy key (d :: ds) =
        d :: (firstsBy key ds).filter fun e => !([d].any (key · == key e)) := ih [d]
    rw [hcons, List.foldl_cons, ih, List.filter_cons, List.filter_filter]
    by_cases hd : seen.any (key · == key d) = true
    · simp only [hd, if_true, Bool.not_true, Bool.false_eq_true, if_false]
      congr 1
      refine List.filter_congr fun e _ => ?_
      -- A key that is not among those seen is not the key of `d` either.
      by_cases he : key d = key e
      · rw [← he, hd]
        rfl
      · simp [he]
    · rw [Bool.not_eq_true] at hd
      simp only [hd, Bool.false_eq_true, if_false, Bool.not_false, if_true, List.append_assoc,
        List.singleton_append]
      congr 2
      refine List.filter_congr fun e _ => ?_
      simp

theorem firstsBy_cons (d : α) (ds : List α) :
    firstsBy key (d :: ds) = d :: (firstsBy key ds).filter fun e => !(key d == key e) := by
  have h : firstsBy key (d :: ds) = _ := foldl_firsts key ds [d]
  simpa using h

theorem firstsBy_eq_eraseDupsBy (ds : List α) :
    firstsBy key ds = ds.eraseDupsBy fun a b => key a == key b := by
  -- The library keeps what was seen in reverse.
  have hloop (seen : List α) :
      ds.foldl (fun seen d => if seen.any (key · == key d) then seen else seen ++ [d]) seen =
        List.eraseDupsBy.loop (fun a b => key a == key b) ds seen.reverse := by
    induction ds generalizing seen with
    | nil => rw [List.foldl_nil, List.eraseDupsBy.loop, List.reverse_reverse]
    | cons d ds ih =>
      have hseen : (seen.reverse.any fun b => key d == key b) = seen.any (key · == key d) := by
        rw [List.any_reverse]
        exact congrArg seen.any (funext fun b => BEq.comm)
      rw [List.foldl_cons, ih, List.eraseDupsBy.loop, hseen]
      cases seen.any (key · == key d) <;> simp
  exact hloop []

/-- A search by key finds the same among the firsts. -/
theorem find?_firstsBy (x : κ) (ds : List α) :
    (firstsBy key ds).find? (key · == x) = ds.find? (key · == x) := by
  induction ds with
  | nil => rw [firstsBy_nil]
  | cons d ds ih =>
    rw [firstsBy_cons, List.find?_cons, List.find?_cons]
    cases hx : key d == x with
    | true => rfl
    | false =>
      dsimp only
      rw [List.find?_filter, ← ih]
      congr 1
      funext e
      by_cases he : key e = x
      · simpa [he] using hx
      · simp [he]

/-- The firsts have distinct keys. -/
theorem pairwise_firstsBy (ds : List α) :
    (firstsBy key ds).Pairwise fun a b => key a ≠ key b := by
  induction ds with
  | nil => exact .nil
  | cons d ds ih =>
    rw [firstsBy_cons]
    refine List.pairwise_cons.mpr ⟨fun e he => ?_, ih.filter _⟩
    simpa using (List.mem_filter.mp he).2

/-- Things with distinct keys are all firsts. -/
theorem firstsBy_of_pairwise {ds : List α} (h : ds.Pairwise fun a b => key a ≠ key b) :
    firstsBy key ds = ds := by
  induction ds with
  | nil => rfl
  | cons d ds ih =>
    obtain ⟨hd, htail⟩ := List.pairwise_cons.mp h
    rw [firstsBy_cons, ih htail, List.filter_eq_self.mpr fun e he => ?_]
    rw [beq_false_of_ne (hd e he), Bool.not_false]

/-- Of things with distinct keys, a search by key finds the one that has it. -/
theorem find?_of_pairwise {ds : List α} (h : ds.Pairwise fun a b => key a ≠ key b)
    {d : α} (hd : d ∈ ds) : ds.find? (key · == key d) = some d := by
  induction ds with
  | nil => cases hd
  | cons e ds ih =>
    obtain ⟨he, htail⟩ := List.pairwise_cons.mp h
    rw [List.find?_cons]
    rcases List.mem_cons.mp hd with rfl | hd
    · rw [beq_self_eq_true]
    · rw [beq_false_of_ne (he d hd)]
      exact ih htail hd

/-- The firsts are those that a search by their key finds. -/
theorem mem_firstsBy {ds : List α} {d : α} :
    d ∈ firstsBy key ds ↔ ds.find? (key · == key d) = some d := by
  rw [← find?_firstsBy key (key d) ds]
  exact ⟨find?_of_pairwise key (pairwise_firstsBy key ds), List.mem_of_find?_eq_some⟩

/-- What a search finds that was not dropped is what it finds among the firsts. -/
theorem find?_firstsBy_of_mem {p : α → Bool} {ds : List α} {d : α} (h : ds.find? p = some d)
    (hd : d ∈ firstsBy key ds) : (firstsBy key ds).find? p = some d := by
  induction ds with
  | nil => cases h
  | cons e ds ih =>
    rw [firstsBy_cons] at hd ⊢
    rw [List.find?_cons] at h ⊢
    cases he : p e with
    | true =>
      rw [he] at h
      exact h
    | false =>
      rw [he] at h
      rcases List.mem_cons.mp hd with rfl | hd
      · rw [List.find?_some h] at he
        cases he
      · obtain ⟨hmem, hkey⟩ := List.mem_filter.mp hd
        rw [List.find?_filter]
        refine find?_of_imp (ih h hmem) (fun a ha => ?_) ?_
        · exact (of_decide_eq_true ha).2
        · exact decide_eq_true ⟨hkey, List.find?_some h⟩

end Firsts

end ScriptClass
