import ScriptClass.Context
import Mathlib.Algebra.Group.Nat.Defs
import Mathlib.Data.List.Induction

/-!
# Threads

What a thread does about contexts is a sequence of events: it enters a context, it drops
some live guard, it enters a call of some context, it drops some live frame. Guards and
frames are dropped in any order, so a context may end while frames of it are live, and
another one begin.

Guards are counted in 32 bits. Where an `enter` that cannot be counted fails there are never
too many. Where the count wraps around, a thread must not hold 2^32 guards at any time
(`Thread.InRange`).
-/

namespace ScriptClass

/-! ## Contexts one by one -/

namespace Context

theorem toNat_guardsLeft {c : Context} (h : 0 < c.nesting.toNat) :
    c.guardsLeft.toNat = c.nesting.toNat - 1 := by
  have hne : c.nesting ≠ 0 := fun hzero => by
    rw [hzero] at h
    exact Nat.lt_irrefl 0 h
  rw [guardsLeft, if_neg hne]
  exact UInt32.toNat_sub_of_le _ _ (UInt32.le_iff_toNat_le.mpr h)

end Context

namespace Contexts

variable {cs : Contexts} {id : Nat} {c : Context}

@[simp] theorem get?_update (cs : Contexts) (id : Nat) (f : Context → Context) (j : Nat) :
    (cs.update id f).get? j = if id = j then (cs.get? j).map f else cs.get? j :=
  Array.getElem?_modify

theorem get?_update_of_some {j : Nat} (h : cs.get? j = some c) (id : Nat) (f : Context → Context) :
    (cs.update id f).get? j = some (if id = j then f c else c) := by
  rw [get?_update, h]
  split <;> rfl

theorem enter_active (h : cs.active = some id) (maxDepth : Nat) : cs.enter maxDepth =
    (id, cs.update id fun c => { c with nesting := c.nesting + 1 }) := by
  rw [enter, h]

theorem enter_idle (h : cs.active = none) (maxDepth : Nat) :
    cs.enter maxDepth = (cs.all.size,
      { all := cs.all.push { maxDepth, nesting := 1 }, active := some cs.all.size }) := by
  rw [enter, h]

theorem get?_leave (cs : Contexts) (id j : Nat) : (cs.leave id).get? j =
    (cs.update id fun c => { c with nesting := c.guardsLeft }).get? j := by
  have hget : (cs.leave id).get? j = (cs.update id fun c =>
      { c with nesting := ((cs.get? id).map Context.guardsLeft).getD 0 }).get? j := by
    simp only [leave]
    split
    · rfl
    · rfl
  rw [hget, get?_update, get?_update]
  split
  next hj =>
    rw [hj]
    cases cs.get? j with
    | none => rfl
    | some c => rfl
  next => rfl

theorem active_leave (h : cs.get? id = some c) :
    (cs.leave id).active = if c.guardsLeft = 0 then none else cs.active := by
  simp only [leave, h, Option.map_some, Option.getD_some]
  split
  · rfl
  · rfl

/-- A context refuses calls exactly at its limit or beyond. -/
theorem pushCall_error_iff (h : cs.get? id = some c) {e : RuntimeError} :
    cs.pushCall id = .error e ↔ c.maxDepth ≤ c.depth ∧ e = .stackOverflow c.maxDepth := by
  rw [pushCall, h]
  dsimp only
  split
  next hd => simp [hd, eq_comm]
  next hd => simp [hd]

theorem pushCall_ok {cs' : Contexts} (h : cs.pushCall id = .ok cs') :
    ∃ c, cs.get? id = some c ∧ c.depth < c.maxDepth ∧
      cs' = cs.update id fun c => { c with depth := c.depth + 1 } := by
  rw [pushCall] at h
  split at h
  · cases h
  next c hc =>
    split at h
    · cases h
    next hd =>
      cases h
      exact ⟨c, hc, by omega, rfl⟩

/-- The context that the thread is in cannot count one more guard. -/
def isFull (cs : Contexts) : Bool := (cs.active.bind cs.get?).any fun c => c.nesting + 1 == 0

theorem isFull_active (h : cs.active = some id) (hc : cs.get? id = some c) :
    cs.isFull = true ↔ c.nesting.toNat + 1 = 2 ^ 32 := by
  have hlt := c.nesting.toNat_lt
  rw [isFull, h, Option.bind_some, hc, Option.any_some, beq_iff_eq, ← UInt32.toNat_inj,
    UInt32.toNat_add, UInt32.toNat_zero, UInt32.toNat_one]
  omega

theorem isFull_idle (h : cs.active = none) : cs.isFull = false := by
  rw [isFull, h]
  rfl

end Contexts

/-! ## Events -/

/-- What a thread does about contexts. A guard or a frame is dropped by its place among the
live ones; a call may be of any context that the thread knows. -/
inductive ThreadEvent where
  | enter (maxDepth : Nat)
  | dropGuard (place : Nat)
  | call (context : Nat)
  | dropFrame (place : Nat)

/-- What becomes of an `enter` that goes beyond the count of guards: it fails, where additions
are checked, or the count wraps around. -/
inductive Overflow where
  | fails
  | wraps
  deriving DecidableEq

/-- The contexts that a thread has been in, and its live guards and frames, each by the
number of its context, the newest first. -/
structure Thread where
  contexts : Contexts := {}
  guards : List Nat := []
  frames : List Nat := []

namespace Thread

/-- Enters a context and keeps the guard. -/
def enter (t : Thread) (maxDepth : Nat) : Thread :=
  { t with
    contexts := (t.contexts.enter maxDepth).2
    guards := (t.contexts.enter maxDepth).1 :: t.guards }

/-- An `enter` that fails and a call that is refused change nothing, and where nothing is live
nothing is dropped. -/
def step (overflow : Overflow) (t : Thread) : ThreadEvent → Thread
  | .enter maxDepth =>
    if overflow = .fails ∧ t.contexts.isFull = true then t else t.enter maxDepth
  | .dropGuard place =>
    match t.guards[place]? with
    | none => t
    | some id =>
      { t with contexts := t.contexts.leave id, guards := t.guards.eraseIdx place }
  | .call context =>
    match t.contexts.pushCall context with
    | .error _ => t
    | .ok contexts => { t with contexts, frames := context :: t.frames }
  | .dropFrame place =>
    match t.frames[place]? with
    | none => t
    | some id =>
      { t with contexts := t.contexts.popCall id, frames := t.frames.eraseIdx place }

/-- A new thread after a sequence of events. -/
def run (overflow : Overflow) (events : List ThreadEvent) : Thread :=
  events.foldl (step overflow) {}

/-- Where the count of guards wraps around, the thread does not have 2^32 live guards after any
part of the events. -/
def InRange (overflow : Overflow) (events : List ThreadEvent) : Prop :=
  overflow = .wraps → ∀ part, part <+: events → (run overflow part).guards.length < 2 ^ 32

variable {overflow : Overflow} {events : List ThreadEvent}

theorem run_append_one (overflow : Overflow) (events : List ThreadEvent) (e : ThreadEvent) :
    run overflow (events ++ [e]) = (run overflow events).step overflow e := by
  rw [run, List.foldl_append]
  rfl

theorem InRange.part {part : List ThreadEvent} (h : InRange overflow events)
    (hpart : part <+: events) : InRange overflow part :=
  fun hwraps p hp => h hwraps p (hp.trans hpart)

/-- There are no more live guards than there were events. -/
theorem length_guards_run (overflow : Overflow) (events : List ThreadEvent) :
    (run overflow events).guards.length ≤ events.length := by
  induction events using List.reverseRecOn with
  | nil => exact Nat.le_refl 0
  | append_singleton events e ih =>
    have hone : ((run overflow events).step overflow e).guards.length ≤
        (run overflow events).guards.length + 1 := by
      cases e with
      | enter maxDepth =>
        simp only [step]
        split
        · exact Nat.le_succ _
        · exact Nat.le_refl _
      | dropGuard place =>
        simp only [step]
        split
        · exact Nat.le_succ _
        · exact Nat.le_succ_of_le (List.length_eraseIdx_le _ _)
      | call context =>
        simp only [step]
        split <;> exact Nat.le_succ _
      | dropFrame place =>
        simp only [step]
        split <;> exact Nat.le_succ _
    rw [run_append_one, List.length_append]
    exact Nat.le_trans hone (Nat.succ_le_succ ih)

theorem inRange_of_length (h : events.length < 2 ^ 32) : InRange overflow events :=
  fun _ part hpart =>
    Nat.lt_of_le_of_lt (Nat.le_trans (length_guards_run overflow part) hpart.length_le) h

end Thread

end ScriptClass
