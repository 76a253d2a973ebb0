import ScriptClass.Proofs.Thread.Counting
import ScriptClass.Workspace

/-!
# Guards and frames of a thread

While a guard is live no event ends its context or changes its limit, so the limit is that of
the `enter` that began it (`Thread.run_begun`). With the counters, which count exactly what is
live, this says all about a thread after any sequence of events (`Thread.live_handles_counted`).
Where the count of guards wraps around, a context that holds 2^32 of them has lost count, and
ends before they are dropped (`Thread.ends_before_guards`).

What a user does on the thread of a workspace is such a sequence of events
(`Workspace.thread_acts`).
-/

namespace ScriptClass

namespace Thread

variable {overflow : Overflow} {events : List ThreadEvent} {t : Thread} {id : Nat} {c : Context}

/-! ## The event that began a context -/

/-- No event changes the limit of a context. -/
theorem maxDepth_step (hc : t.contexts.get? id = some c) (e : ThreadEvent) :
    ∃ d, (t.step overflow e).contexts.get? id = some d ∧ d.maxDepth = c.maxDepth := by
  have hupdate (j : Nat) {f : Context → Context} (hf : ∀ c, (f c).maxDepth = c.maxDepth) :
      ∃ d, (t.contexts.update j f).get? id = some d ∧ d.maxDepth = c.maxDepth := by
    refine ⟨_, Contexts.get?_update_of_some hc j f, ?_⟩
    split
    · exact hf c
    · rfl
  cases e with
  | enter maxDepth =>
    rw [step]
    split
    · exact ⟨c, hc, rfl⟩
    · cases hactive : t.contexts.active with
      | some j =>
        rw [enter, Contexts.enter_active hactive]
        exact hupdate j fun _ => rfl
      | none =>
        rw [enter, Contexts.enter_idle hactive]
        obtain ⟨hlt, -⟩ := Array.getElem?_eq_some_iff.mp hc
        refine ⟨c, ?_, rfl⟩
        rw [Contexts.get?, Array.getElem?_push, if_neg (Nat.ne_of_lt hlt)]
        exact hc
  | dropGuard place =>
    simp only [step]
    split
    · exact ⟨c, hc, rfl⟩
    next j _ =>
      rw [Contexts.get?_leave]
      exact hupdate j fun _ => rfl
  | call context =>
    simp only [step]
    split
    · exact ⟨c, hc, rfl⟩
    next cs hpush =>
      obtain ⟨-, -, -, rfl⟩ := Contexts.pushCall_ok hpush
      exact hupdate context fun _ => rfl
  | dropFrame place =>
    simp only [step]
    split
    · exact ⟨c, hc, rfl⟩
    next j _ => exact hupdate j fun _ => rfl

/-- A thread gets into a context only by entering it while no guard is live. -/
theorem active_step (ht : t.GuardsCounted) {e : ThreadEvent}
    (h : (t.step overflow e).contexts.active = some id) :
    t.contexts.active = some id ∨ t.guards = [] ∧ ∃ maxDepth, e = .enter maxDepth ∧
      (t.step overflow e).contexts.get? id = some { maxDepth, nesting := 1 } := by
  cases e with
  | enter maxDepth =>
    rw [step] at h ⊢
    split at h
    · exact .inl h
    next hcounted =>
      cases hactive : t.contexts.active with
      | some j =>
        rw [enter, Contexts.enter_active hactive] at h
        exact .inl (hactive.symm.trans h)
      | none =>
        rw [enter, Contexts.enter_idle hactive] at h
        cases h
        rw [if_neg hcounted, enter, Contexts.enter_idle hactive]
        exact .inr ⟨ht.idle hactive, maxDepth, rfl, Array.getElem?_push_size⟩
  | dropGuard place =>
    simp only [step] at h
    split at h
    · exact .inl h
    next j hplace =>
      obtain ⟨-, c, hc, -⟩ := ht.nesting j (ht.guards j (List.mem_of_getElem? hplace))
      rw [Contexts.active_leave hc] at h
      split at h
      · cases h
      · exact .inl h
  | call context =>
    simp only [step] at h
    split at h
    · exact .inl h
    next cs hpush =>
      obtain ⟨-, -, -, rfl⟩ := Contexts.pushCall_ok hpush
      exact .inl h
  | dropFrame place =>
    simp only [step] at h
    split at h
    · exact .inl h
    · exact .inl h

/-- The context of a thread began with an `enter` of its limit, while no guard was live, and
since then some guard always was. -/
theorem run_begun (hrange : InRange overflow events)
    (hactive : (run overflow events).contexts.active = some id)
    (hc : (run overflow events).contexts.get? id = some c) :
    ∃ before after, events = before ++ .enter c.maxDepth :: after ∧
      (run overflow before).guards = [] ∧ ∀ part, part <+: after →
        (run overflow (before ++ .enter c.maxDepth :: part)).guards ≠ [] := by
  induction events using List.reverseRecOn generalizing c with
  | nil => cases hactive
  | append_singleton events e ih =>
    have hbefore : InRange overflow events := hrange.part (List.prefix_append _ _)
    have hlive := ((guardsCounted_run hrange).nesting id hactive).1
    rw [run_append_one] at hactive hc
    rcases active_step (guardsCounted_run hbefore) hactive with
      hstays | ⟨hidle, maxDepth, rfl, hnew⟩
    · obtain ⟨-, d, hd, -⟩ := (guardsCounted_run hbefore).nesting id hstays
      obtain ⟨c', hc', hmax⟩ := maxDepth_step hd e
      cases hc.symm.trans hc'
      obtain ⟨before, after, rfl, hidle, hsince⟩ := ih hbefore hstays hd
      rw [← hmax] at hsince hlive ⊢
      refine ⟨before, after ++ [e], by simp, hidle, fun part hpart => ?_⟩
      rcases List.prefix_concat_iff.mp hpart with rfl | hpart
      · simpa using hlive
      · exact hsince part hpart
    · cases hc.symm.trans hnew
      refine ⟨events, [], rfl, hidle, fun part hpart => ?_⟩
      cases List.prefix_nil.mp hpart
      exact hlive

/-- After any sequence of events every context is as deep as it has live frames, and no deeper
than its limit; exactly at the limit it refuses calls, which changes nothing. The context of a
live frame counts it.

So it is with guards, as long as they can be counted: the thread is in a context exactly if a
guard is live. All live guards are of that context, which counts them; it began with an `enter`
of its limit while no guard was live, and some guard was live ever since. An `enter` fails, where
it can, exactly at 2^32 - 1 live guards. So no counter is ever taken below zero. -/
theorem live_handles_counted (overflow : Overflow) (events : List ThreadEvent) :
    (∀ id c, (run overflow events).contexts.get? id = some c →
      c.depth = (run overflow events).frames.count id ∧ c.depth ≤ c.maxDepth ∧
      (∀ e, (run overflow events).contexts.pushCall id = .error e ↔
        c.depth = c.maxDepth ∧ e = .stackOverflow c.maxDepth) ∧
      (c.depth = c.maxDepth → run overflow (events ++ [.call id]) = run overflow events)) ∧
    (∀ id ∈ (run overflow events).frames, ∃ c,
      (run overflow events).contexts.get? id = some c ∧ 0 < c.depth) ∧
    (InRange overflow events →
      ((run overflow events).contexts.active.isSome ↔ (run overflow events).guards ≠ []) ∧
      (∀ id, (run overflow events).contexts.active = some id →
        (∀ g ∈ (run overflow events).guards, g = id) ∧
        ∃ c before after, (run overflow events).contexts.get? id = some c ∧
          c.nesting.toNat = (run overflow events).guards.length ∧
          events = before ++ .enter c.maxDepth :: after ∧ (run overflow before).guards = [] ∧
          ∀ part, part <+: after →
            (run overflow (before ++ .enter c.maxDepth :: part)).guards ≠ []) ∧
      ((run overflow events).contexts.isFull = true ↔
        (run overflow events).guards.length + 1 = 2 ^ 32) ∧
      ∀ id ∈ (run overflow events).guards, ∃ c,
        (run overflow events).contexts.get? id = some c ∧ 0 < c.nesting) := by
  have hframes := framesCounted_run overflow events
  refine ⟨fun id c hc => ?_, fun id hid => hframes.frame hid, fun hrange => ?_⟩
  · obtain ⟨hdepth, hle⟩ := hframes.depth id c hc
    have hrefused (e : RuntimeError) : (run overflow events).contexts.pushCall id = .error e ↔
        c.depth = c.maxDepth ∧ e = .stackOverflow c.maxDepth := by
      rw [Contexts.pushCall_error_iff hc, Nat.le_antisymm_iff, and_iff_right hle]
    refine ⟨hdepth, hle, hrefused, fun hlimit => ?_⟩
    rw [run_append_one, Thread.step, (hrefused _).mpr ⟨hlimit, rfl⟩]
  · have ht := guardsCounted_run hrange
    refine ⟨⟨fun hactive => ?_, fun hguards => ?_⟩, fun id hactive => ⟨fun g hg => ?_, ?_⟩,
      ht.isFull_iff, fun id hid => ht.guard hid⟩
    · obtain ⟨id, hid⟩ := Option.isSome_iff_exists.mp hactive
      exact (ht.nesting id hid).1
    · obtain ⟨id, hid⟩ := List.exists_mem_of_ne_nil _ hguards
      rw [ht.guards id hid]
      rfl
    · cases (ht.guards g hg).symm.trans hactive
      rfl
    · obtain ⟨-, c, hc, hnesting⟩ := ht.nesting id hactive
      obtain ⟨before, after, hevents, hidle, hsince⟩ := run_begun hrange hactive hc
      exact ⟨c, before, after, hc, hnesting, hevents, hidle, hsince⟩

namespace Sample

/-- Two frames outlive their context, and the thread is in another one. -/
def outliving : List ThreadEvent :=
  [.enter 5, .call 0, .call 0, .dropGuard 0, .enter 7, .call 1, .dropFrame 2]

example : run .wraps outliving =
    { contexts := { all := #[⟨5, 1, 0⟩, ⟨7, 1, 1⟩], active := some 1 }
      guards := [1]
      frames := [1, 0] } := rfl

end Sample

open Thread.Sample in
/-- The other context counts one guard, and the one that is left its last frame. -/
theorem outlived_context_counted : InRange .wraps outliving ∧
    (∃ c, (run .wraps outliving).contexts.get? 1 = some c ∧ c.nesting.toNat = 1) ∧
      ∃ c, (run .wraps outliving).contexts.get? 0 = some c ∧ 0 < c.depth := by
  have hrange : InRange .wraps outliving := inRange_of_length (by decide)
  obtain ⟨-, hframes, hguards⟩ := live_handles_counted .wraps outliving
  obtain ⟨-, hcontext, -, -⟩ := hguards hrange
  obtain ⟨-, c, -, -, hc, hnesting, -⟩ := hcontext 1 (by decide +kernel)
  exact ⟨hrange, ⟨c, hc, hnesting⟩, hframes 0 (by decide +kernel)⟩

/-! ## Beyond the count of guards -/

theorem run_enters (maxDepth n : Nat) :
    run .wraps (List.replicate (n + 1) (.enter maxDepth)) =
      { contexts := { all := #[{ maxDepth, nesting := .ofNat (n + 1) }], active := some 0 }
        guards := List.replicate (n + 1) 0 } := by
  induction n with
  | zero => rfl
  | succ n ih =>
    rw [List.replicate_succ', run_append_one, ih, step, if_neg fun h => absurd h.1 (by decide), enter,
      Contexts.enter_active rfl, List.replicate_succ (n := n + 1), UInt32.ofNat_add (n + 1) 1]
    rfl

/-- A context that was entered 2^32 times, or some multiple of that, counts no guards. It ends with
the first that is dropped. -/
theorem ends_before_guards (maxDepth : Nat) {n : Nat} (hpos : 0 < n) (hwraps : 2 ^ 32 ∣ n) :
    (run .wraps (List.replicate n (.enter maxDepth) ++ [.dropGuard 0])).contexts.active = none ∧
      (run .wraps (List.replicate n (.enter maxDepth) ++ [.dropGuard 0])).guards.length = n - 1 := by
  have hzero : UInt32.ofNat n = 0 := by
    rw [← UInt32.toNat_inj, UInt32.toNat_ofNat', Nat.mod_eq_zero_of_dvd hwraps, UInt32.toNat_zero]
  obtain ⟨m, rfl⟩ := Nat.exists_eq_succ_of_ne_zero (Nat.ne_of_gt hpos)
  rw [run_append_one, run_enters, hzero]
  exact ⟨rfl, List.length_replicate⟩

end Thread

/-! ## Workspaces -/

namespace Workspace

/-- What a user does about contexts on the current thread. -/
inductive ThreadAction where
  | enter (maxDepth : Nat)
  | exitNewest
  | exitOldest
  | pushFrame
  | popFrame

variable {w : Workspace}

def act (w : Workspace) : ThreadAction → Workspace
  | .enter maxDepth => (w.enter maxDepth).2
  | .exitNewest => w.exitNewest.2
  | .exitOldest => w.exitOldest.2
  | .pushFrame => w.pushFrame.2
  | .popFrame => w.popFrame.2

/-- The current thread of a workspace. -/
def thread (w : Workspace) : Thread := ⟨w.store.contexts, w.guards, w.frames⟩

theorem thread_enter (w : Workspace) (maxDepth : Nat) :
    (w.enter maxDepth).2.thread = w.thread.step .wraps (.enter maxDepth) := rfl

theorem thread_exitNewest (w : Workspace) :
    w.exitNewest.2.thread = w.thread.step .wraps (.dropGuard 0) := by
  unfold exitNewest
  split
  next hguards => simp [thread, Thread.step, hguards]
  next id guards hguards => simp [thread, Thread.step, hguards, leaveContext]

theorem thread_exitOldest (w : Workspace) :
    w.exitOldest.2.thread = w.thread.step .wraps (.dropGuard (w.guards.length - 1)) := by
  unfold exitOldest
  split
  next hguards => simp [thread, Thread.step, List.getLast?_eq_none_iff.mp hguards]
  next id hguards =>
    rw [List.getLast?_eq_getElem?] at hguards
    simp [thread, Thread.step, hguards, leaveContext]

theorem thread_pushFrame {context : Nat} (h : w.store.contexts.active = some context) :
    w.pushFrame.2.thread = w.thread.step .wraps (.call context) := by
  simp only [pushFrame, Contexts.current, h, thread, Thread.step]
  cases w.store.contexts.pushCall context with
  | error e => rfl
  | ok contexts => rfl

theorem pushFrame_idle (h : w.store.contexts.active = none) : w.pushFrame.2 = w := by
  simp only [pushFrame, Contexts.current, h]

theorem thread_popFrame (w : Workspace) :
    w.popFrame.2.thread = w.thread.step .wraps (.dropFrame 0) := by
  unfold popFrame
  split
  next hframes => simp [thread, Thread.step, hframes]
  next id frames hframes => simp [thread, Thread.step, hframes]

/-- Only a call outside of any context is no event of the thread. -/
theorem thread_act (w : Workspace) (a : ThreadAction) :
    (w.act a).thread = w.thread ∨ ∃ e, (w.act a).thread = w.thread.step .wraps e := by
  cases a with
  | enter maxDepth => exact .inr ⟨_, w.thread_enter maxDepth⟩
  | exitNewest => exact .inr ⟨_, w.thread_exitNewest⟩
  | exitOldest => exact .inr ⟨_, w.thread_exitOldest⟩
  | pushFrame =>
    cases hactive : w.store.contexts.active with
    | some context => exact .inr ⟨_, thread_pushFrame hactive⟩
    | none => exact .inl (congrArg thread (pushFrame_idle hactive))
  | popFrame => exact .inr ⟨_, w.thread_popFrame⟩

/-- What a user does on the thread of a new workspace is a run of events, no more than the user
did. -/
theorem thread_acts (actions : List ThreadAction) : ∃ events : List ThreadEvent,
    events.length ≤ actions.length ∧
      (actions.foldl act {}).thread = Thread.run .wraps events := by
  induction actions using List.reverseRecOn with
  | nil => exact ⟨[], Nat.le_refl 0, rfl⟩
  | append_singleton actions a ih =>
    obtain ⟨events, hlength, hevents⟩ := ih
    rw [List.foldl_append, List.length_append]
    rcases (actions.foldl act {}).thread_act a with hsame | ⟨e, he⟩
    · exact ⟨events, Nat.le_succ_of_le hlength, hsame.trans hevents⟩
    · refine ⟨events ++ [e], ?_, ?_⟩
      · rw [List.length_append]
        exact Nat.succ_le_succ hlength
      · rw [Thread.run_append_one, ← hevents]
        exact he

/-- So the counters are right whatever the user does, if they do fewer than 2^32 things. -/
theorem thread_counted {actions : List ThreadAction} (h : actions.length < 2 ^ 32) :
    (actions.foldl act {}).thread.FramesCounted ∧ (actions.foldl act {}).thread.GuardsCounted := by
  obtain ⟨events, hlength, hevents⟩ := thread_acts actions
  rw [hevents]
  exact ⟨Thread.framesCounted_run _ _,
    Thread.guardsCounted_run (Thread.inRange_of_length (Nat.lt_of_le_of_lt hlength h))⟩

end Workspace

end ScriptClass
