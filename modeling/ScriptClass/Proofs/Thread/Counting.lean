import ScriptClass.Proofs.Thread.Basic
import Mathlib.Data.List.Perm.Basic

/-!
# Counting guards and frames

The counters of the contexts count exactly the live frames (`Thread.FramesCounted`) and the
live guards (`Thread.GuardsCounted`): every event keeps it so, hence every sequence of events
does, for guards as long as it stays in range.
-/

namespace ScriptClass.Thread

variable {overflow : Overflow} {events : List ThreadEvent} {t : Thread} {id : Nat} {c : Context}

/-! ## Counting frames -/

/-- Every context is as deep as it has live frames, and no deeper than its limit. -/
structure FramesCounted (t : Thread) : Prop where
  frames : ∀ id ∈ t.frames, ∃ c, t.contexts.get? id = some c
  depth (id : Nat) (c : Context) : t.contexts.get? id = some c →
    c.depth = t.frames.count id ∧ c.depth ≤ c.maxDepth

theorem count_eraseIdx {l : List Nat} {place a : Nat} (h : l[place]? = some a) (b : Nat) :
    l.count b = (l.eraseIdx place).count b + if a = b then 1 else 0 := by
  obtain ⟨hplace, rfl⟩ := List.getElem?_eq_some_iff.mp h
  have hperm : (l[place] :: l.eraseIdx place).count b = l.count b :=
    (List.getElem_cons_eraseIdx_perm hplace).count_eq b
  rw [← hperm, List.count_cons]
  simp

namespace FramesCounted

theorem new : ({} : Thread).FramesCounted where
  frames _ hid := by cases hid
  depth id c hc := by cases (show (#[] : Array Context)[id]? = some c from hc)

/-- The context of a live frame counts it. -/
theorem frame (ht : t.FramesCounted) (hid : id ∈ t.frames) :
    ∃ c, t.contexts.get? id = some c ∧ 0 < c.depth := by
  obtain ⟨c, hc⟩ := ht.frames id hid
  refine ⟨c, hc, ?_⟩
  rw [(ht.depth id c hc).1]
  exact List.count_pos_iff.mpr hid

/-- What changes nothing but guards leaves the frames counted. -/
theorem of_update (ht : t.FramesCounted) {cs : Contexts} {f : Context → Context}
    (hget : ∀ j, cs.get? j = (t.contexts.update id f).get? j)
    (hf : ∀ c, (f c).depth = c.depth ∧ (f c).maxDepth = c.maxDepth) (guards : List Nat) :
    ({ t with contexts := cs, guards } : Thread).FramesCounted where
  frames j hj := by
    obtain ⟨c, hc⟩ := ht.frames j hj
    exact ⟨_, (hget j).trans (Contexts.get?_update_of_some hc id f)⟩
  depth j c hc := by
    rw [hget, Contexts.get?_update] at hc
    split at hc
    · obtain ⟨c', hc', rfl⟩ := Option.map_eq_some_iff.mp hc
      rw [(hf c').1, (hf c').2]
      exact ht.depth j c' hc'
    · exact ht.depth j c hc

theorem enter (ht : t.FramesCounted) (maxDepth : Nat) : (t.enter maxDepth).FramesCounted := by
  cases hactive : t.contexts.active with
  | some id =>
    rw [Thread.enter, Contexts.enter_active hactive]
    refine ht.of_update (fun _ => rfl) ?_ _
    exact fun _ => ⟨rfl, rfl⟩
  | none =>
    rw [Thread.enter, Contexts.enter_idle hactive]
    refine ⟨fun j hj => ?_, fun j d hd => ?_⟩
    · obtain ⟨d, hd⟩ := ht.frames j hj
      simp only [Contexts.get?, Array.getElem?_push]
      split
      · exact ⟨_, rfl⟩
      · exact ⟨d, hd⟩
    · simp only [Contexts.get?, Array.getElem?_push] at hd
      split at hd
      next hj =>
        -- no frame is of a context that was not there
        have hnew : t.frames.count j = 0 := by
          refine List.count_eq_zero.mpr fun hmem => ?_
          obtain ⟨c, hc⟩ := ht.frames j hmem
          rw [hj, Contexts.get?, Array.getElem?_eq_none (Nat.le_refl _)] at hc
          cases hc
        cases hd
        exact ⟨hnew.symm, Nat.zero_le _⟩
      next => exact ht.depth j d hd

theorem call (ht : t.FramesCounted) (context : Nat) :
    (t.step overflow (.call context)).FramesCounted := by
  simp only [step]
  split
  next => exact ht
  next cs hpush =>
    obtain ⟨c, hc, hlt, rfl⟩ := Contexts.pushCall_ok hpush
    refine ⟨fun j hj => ?_, fun j d hd => ?_⟩
    · have hd : ∃ d, t.contexts.get? j = some d := by
        rcases List.mem_cons.mp hj with rfl | hj
        · exact ⟨c, hc⟩
        · exact ht.frames j hj
      obtain ⟨d, hd⟩ := hd
      exact ⟨_, Contexts.get?_update_of_some hd context _⟩
    · rw [Contexts.get?_update] at hd
      rw [List.count_cons]
      split at hd
      next hj =>
        rw [← hj, hc] at hd
        cases hd
        obtain ⟨hcount, -⟩ := ht.depth context c hc
        rw [← hj, ← hcount, beq_self_eq_true, if_pos rfl]
        exact ⟨rfl, hlt⟩
      next hj =>
        rw [if_neg (by simpa using hj)]
        exact ht.depth j d hd

theorem dropFrame (ht : t.FramesCounted) (place : Nat) :
    (t.step overflow (.dropFrame place)).FramesCounted := by
  simp only [step]
  split
  next => exact ht
  next id hplace =>
    have hcount := count_eraseIdx hplace
    refine ⟨fun j hj => ?_, fun j d hd => ?_⟩
    · obtain ⟨d, hd⟩ := ht.frames j (List.mem_of_mem_eraseIdx hj)
      exact ⟨_, Contexts.get?_update_of_some hd id _⟩
    · simp only [Contexts.popCall, Contexts.get?_update] at hd
      have hj := hcount j
      split at hd
      next heq =>
        obtain ⟨d', hd', rfl⟩ := Option.map_eq_some_iff.mp hd
        obtain ⟨hdepth, hle⟩ := ht.depth j d' hd'
        rw [if_pos heq] at hj
        constructor <;> dsimp only <;> omega
      next hne =>
        rw [if_neg hne, Nat.add_zero] at hj
        rw [← hj]
        exact ht.depth j d hd

theorem step (ht : t.FramesCounted) (e : ThreadEvent) : (t.step overflow e).FramesCounted := by
  cases e with
  | enter maxDepth =>
    rw [Thread.step]
    split
    · exact ht
    · exact ht.enter maxDepth
  | dropGuard place =>
    simp only [Thread.step]
    split
    · exact ht
    next id _ => exact ht.of_update (Contexts.get?_leave _ id) (fun _ => ⟨rfl, rfl⟩) _
  | call context => exact ht.call context
  | dropFrame place => exact ht.dropFrame place

end FramesCounted

theorem framesCounted_run (overflow : Overflow) (events : List ThreadEvent) :
    (run overflow events).FramesCounted := by
  induction events using List.reverseRecOn with
  | nil => exact .new
  | append_singleton events e ih =>
    rw [run_append_one]
    exact ih.step e

/-! ## Counting guards -/

/-- The thread is in a context exactly if a guard is live; then all guards are of that context,
which counts them. -/
structure GuardsCounted (t : Thread) : Prop where
  guards : ∀ id ∈ t.guards, t.contexts.active = some id
  nesting (id : Nat) : t.contexts.active = some id →
    t.guards ≠ [] ∧ ∃ c, t.contexts.get? id = some c ∧ c.nesting.toNat = t.guards.length

namespace GuardsCounted

theorem new : ({} : Thread).GuardsCounted where
  guards _ hid := by cases hid
  nesting _ hid := by cases hid

theorem idle (ht : t.GuardsCounted) (h : t.contexts.active = none) : t.guards = [] := by
  refine List.eq_nil_iff_forall_not_mem.mpr fun id hid => ?_
  have hactive := ht.guards id hid
  rw [h] at hactive
  cases hactive

/-- The context of a live guard counts it. -/
theorem guard (ht : t.GuardsCounted) (hid : id ∈ t.guards) :
    ∃ c, t.contexts.get? id = some c ∧ 0 < c.nesting := by
  obtain ⟨hguards, c, hc, hnesting⟩ := ht.nesting id (ht.guards id hid)
  refine ⟨c, hc, UInt32.lt_iff_toNat_lt.mpr ?_⟩
  rw [hnesting]
  exact List.length_pos_iff.mpr hguards

/-- The count of guards is at its end exactly at 2^32 - 1 live guards. -/
theorem isFull_iff (ht : t.GuardsCounted) :
    t.contexts.isFull = true ↔ t.guards.length + 1 = 2 ^ 32 := by
  cases hactive : t.contexts.active with
  | some id =>
    obtain ⟨-, c, hc, hnesting⟩ := ht.nesting id hactive
    rw [Contexts.isFull_active hactive hc, hnesting]
  | none =>
    rw [Contexts.isFull_idle hactive, ht.idle hactive]
    decide

/-- What changes nothing but frames leaves the guards counted. -/
theorem of_update (ht : t.GuardsCounted) {f : Context → Context}
    (hf : ∀ c, (f c).nesting = c.nesting) (frames : List Nat) :
    ({ t with contexts := t.contexts.update id f, frames } : Thread).GuardsCounted where
  guards := ht.guards
  nesting j hj := by
    obtain ⟨hguards, c, hc, hnesting⟩ := ht.nesting j hj
    refine ⟨hguards, _, Contexts.get?_update_of_some hc id f, ?_⟩
    split
    · rw [hf, hnesting]
    · exact hnesting

theorem enter (ht : t.GuardsCounted) (hroom : t.guards.length + 1 < 2 ^ 32) (maxDepth : Nat) :
    (t.enter maxDepth).GuardsCounted := by
  cases hactive : t.contexts.active with
  | some id =>
    obtain ⟨-, c, hc, hnesting⟩ := ht.nesting id hactive
    rw [Thread.enter, Contexts.enter_active hactive]
    refine ⟨fun g hg => ?_, fun j hj => ?_⟩
    · rcases List.mem_cons.mp hg with rfl | hg
      · exact hactive
      · exact ht.guards g hg
    · cases hactive.symm.trans hj
      refine ⟨List.cons_ne_nil _ _, { c with nesting := c.nesting + 1 }, ?_, ?_⟩
      · rw [Contexts.get?_update, if_pos rfl, hc, Option.map_some]
      · rw [UInt32.toNat_add, hnesting, UInt32.toNat_one, Nat.mod_eq_of_lt hroom, List.length_cons]
  | none =>
    rw [Thread.enter, Contexts.enter_idle hactive, ht.idle hactive]
    refine ⟨fun g hg => ?_, fun j hj => ?_⟩
    · rw [List.mem_singleton.mp hg]
    · cases hj
      exact ⟨List.cons_ne_nil _ _, _, Array.getElem?_push_size, rfl⟩

theorem dropGuard (ht : t.GuardsCounted) (place : Nat) :
    (t.step overflow (.dropGuard place)).GuardsCounted := by
  simp only [step]
  split
  next => exact ht
  next id hplace =>
    have hactive := ht.guards id (List.mem_of_getElem? hplace)
    obtain ⟨hguards, c, hc, hnesting⟩ := ht.nesting id hactive
    have hpos : 0 < c.nesting.toNat := hnesting ▸ List.length_pos_iff.mpr hguards
    have hlength : c.guardsLeft.toNat = (t.guards.eraseIdx place).length := by
      obtain ⟨hlt, -⟩ := List.getElem?_eq_some_iff.mp hplace
      rw [Context.toNat_guardsLeft hpos, List.length_eraseIdx_of_lt hlt, hnesting]
    have hleft : c.guardsLeft = 0 ↔ t.guards.eraseIdx place = [] := by
      rw [← UInt32.toNat_inj, hlength]
      exact List.length_eq_zero_iff
    refine ⟨fun g hg => ?_, fun j hj => ?_⟩
    · rw [Contexts.active_leave hc, if_neg (mt hleft.mp (List.ne_nil_of_mem hg))]
      exact ht.guards g (List.mem_of_mem_eraseIdx hg)
    · rw [Contexts.active_leave hc] at hj
      split at hj
      · cases hj
      next hsome =>
        cases hactive.symm.trans hj
        refine ⟨mt hleft.mpr hsome, { c with nesting := c.guardsLeft }, ?_, hlength⟩
        rw [Contexts.get?_leave, Contexts.get?_update, if_pos rfl, hc, Option.map_some]

/-- An event keeps the guards counted, unless it makes too many of them. -/
theorem step (ht : t.GuardsCounted) {e : ThreadEvent}
    (hroom : overflow = .wraps → (t.step overflow e).guards.length < 2 ^ 32) :
    (t.step overflow e).GuardsCounted := by
  cases e with
  | enter maxDepth =>
    rw [Thread.step] at hroom ⊢
    by_cases hfails : overflow = .fails ∧ t.contexts.isFull = true
    · rw [if_pos hfails]
      exact ht
    · rw [if_neg hfails] at hroom ⊢
      refine ht.enter ?_ maxDepth
      cases overflow with
      | wraps => exact hroom rfl
      | fails =>
        have hfull : t.guards.length + 1 ≠ 2 ^ 32 := mt ht.isFull_iff.mpr fun h => hfails ⟨rfl, h⟩
        cases hactive : t.contexts.active with
        | some id =>
          obtain ⟨-, c, -, hnesting⟩ := ht.nesting id hactive
          have := c.nesting.toNat_lt
          omega
        | none =>
          rw [ht.idle hactive]
          decide
  | dropGuard place => exact ht.dropGuard place
  | call context =>
    simp only [Thread.step]
    split
    · exact ht
    next cs hpush =>
      obtain ⟨-, -, -, rfl⟩ := Contexts.pushCall_ok hpush
      refine ht.of_update ?_ _
      exact fun _ => rfl
  | dropFrame place =>
    simp only [Thread.step]
    split
    · exact ht
    next id _ =>
      refine ht.of_update ?_ _
      exact fun _ => rfl

end GuardsCounted

theorem guardsCounted_run (h : InRange overflow events) : (run overflow events).GuardsCounted := by
  induction events using List.reverseRecOn with
  | nil => exact .new
  | append_singleton events e ih =>
    have hroom (hwraps : overflow = .wraps) := h hwraps _ (List.prefix_refl _)
    rw [run_append_one] at hroom ⊢
    exact (ih (h.part (List.prefix_append _ _))).step hroom

end ScriptClass.Thread
