import ScriptClass.Proofs.Run.Basic

/-!
# Making objects

A construction has two halves. The first checks and makes the object (`Run.makePair`): either
it is refused and changes nothing, or the wrapper class admits the arguments and the object
is new (`Store.Makes`). The second runs the script constructor on the object, which is there
whatever becomes of that (`Run.runConstructor`).
-/

namespace ScriptClass

/-- The wrapper class lets objects of its host side be made with these arguments. -/
structure Wrapper.Admits (c : Wrapper) (t : HostType) (args : List ScriptValue) : Prop where
  isBound : c.isBound = true
  backing : c.backing = some t
  concrete : c.isAbstract = false
  fit : checkScriptFit (c.backingName ++ "." ++ constructorName) c.plan.constructor args = .ok ()

/-- An object of a wrapper class is made with arguments that the class admits. It starts with
the nearest counter of its type's chain and the prototype's data. -/
structure Store.Makes (s : Store) (c : Wrapper) (args : List ScriptValue) (p : Pair) (s' : Store) :
    Prop where
  wrapper : s.wrapper? p.wrapper = some c
  admits : c.Admits p.type args
  new : s.newPair p.type p.wrapper ⟨p.type.startCounter, c.plan.prototype⟩ = (p, s')

namespace Store.Makes

variable {s s' : Store} {c : Wrapper} {args : List ScriptValue} {p : Pair}

theorem id_eq (h : s.Makes c args p s') : p.id = s.pairs.size :=
  (congrArg Pair.id (Prod.mk.inj h.new).1).symm

theorem store_eq (h : s.Makes c args p s') :
    s' = { s with pairs := s.pairs.push ⟨p.type.startCounter, c.plan.prototype⟩ } :=
  (Prod.mk.inj h.new).2.symm

end Store.Makes

/-- The error says that something is unloaded. -/
def RuntimeError.isUnloaded : RuntimeError → Bool
  | .unloaded _ => true
  | _ => false

namespace Run

variable {α β : Type} {s s' : Store} {w : WrapperRef} {c : Wrapper} {args : List ScriptValue}
  {p : Pair}

/-- What follows a part that gives an answer. -/
theorem run_bind_ok {x : Run α} {s t : Store} {a : α} (h : x.run s = (.ok a, t)) (f : α → Run β) :
    (x >>= f).run s = (f a).run t := by
  rw [run_bind, h]

/-- A run that gives an answer does so through its parts. -/
theorem of_bind_ok {x : Run α} {f : α → Run β} {s s' : Store} {b : β}
    (h : (x >>= f).run s = (.ok b, s')) :
    ∃ a t, x.run s = (.ok a, t) ∧ (f a).run t = (.ok b, s') := by
  rw [run_bind] at h
  rcases hx : x.run s with ⟨e | a, t⟩ <;> rw [hx] at h
  · cases h
  · exact ⟨a, t, rfl, h⟩

theorem run_checkBound (c : Wrapper) (s : Store) : (checkBound c).run s =
    (if c.isBound then .ok () else .error (.failed (.constructionBeforeBinding c.backingName)),
      s) := by
  unfold checkBound
  split <;> rfl

/-- Makes an object and gives it with its wrapper class. -/
def makePair (w : WrapperRef) (args : List ScriptValue) : Run (Wrapper × Pair) := do
  let c ← wrapper w
  checkBound c
  let t ← backing c
  if c.isAbstract then fail (.abstractInstantiation c.backingName)
  else
    ofExcept (checkScriptFit (c.backingName ++ "." ++ constructorName) c.plan.constructor args)
    let p ← ofChange fun s => s.newPair t w ⟨t.startCounter, c.plan.prototype⟩
    return (c, p)

/-- What making an object answers, check by check. -/
theorem run_makePair (hc : s.wrapper? w = some c) (args : List ScriptValue) :
    (makePair w args).run s =
      if c.isBound then
        match c.backing with
        | none => (.error (.failed (.unloaded c.backingName)), s)
        | some t =>
          if c.isAbstract then (.error (.failed (.abstractInstantiation c.backingName)), s)
          else
            match checkScriptFit (c.backingName ++ "." ++ constructorName) c.plan.constructor args with
            | .error e => (.error (.failed e), s)
            | .ok () =>
              (.ok (c, (s.newPair t w ⟨t.startCounter, c.plan.prototype⟩).1),
                (s.newPair t w ⟨t.startCounter, c.plan.prototype⟩).2)
      else (.error (.failed (.constructionBeforeBinding c.backingName)), s) := by
  rw [makePair, run_bind_ok (run_wrapper hc), run_bind, run_checkBound]
  cases c.isBound with
  | false => rfl
  | true =>
    simp only [if_true, run_bind]
    rw [backing]
    cases c.backing with
    | none => rfl
    | some t =>
      cases c.isAbstract with
      | true => rfl
      | false =>
        cases checkScriptFit (c.backingName ++ "." ++ constructorName) c.plan.constructor args with
        | error e => rfl
        | ok => rfl

theorem makePair_ok (h : (makePair w args).run s = (.ok (c, p), s')) :
    p.wrapper = w ∧ s.Makes c args p s' := by
  cases hc : s.wrapper? w with
  | none =>
    rw [makePair, run_bind, run_wrapper_none hc] at h
    cases h
  | some c' =>
    rw [run_makePair hc] at h
    split at h
    next hbound =>
      split at h
      · cases h
      next t hbacking =>
        split at h
        · cases h
        next hconcrete =>
          split at h
          · cases h
          next hfit =>
            cases h
            exact ⟨rfl, hc, ⟨hbound, hbacking, Bool.eq_false_iff.mpr hconcrete, hfit⟩, rfl⟩
    · cases h

/-- Arguments are refused for their number or for the type of one of them. -/
theorem checkScriptFit_error {method : String} {constructor : Option Member} {e : RuntimeError}
    (h : checkScriptFit method constructor args = .error e) :
    (∃ expected actual, e = .argumentCount method expected actual) ∨
      ∃ index expected actual, e = .argumentType method index expected actual := by
  unfold checkScriptFit at h
  repeat' split at h
  all_goals cases h
  all_goals first
    | exact .inl ⟨_, _, rfl⟩
    | exact .inr ⟨_, _, _, rfl⟩

/-- A refusal changes nothing. It speaks of something unloaded only if the wrapper class or its
host side is gone. -/
theorem makePair_error {e : Halt} (h : (makePair w args).run s = (.error e, s')) :
    s' = s ∧ ∃ cause, e = .failed cause ∧ (cause.isUnloaded = false ∨
      s.wrapper? w = none ∧ cause = .unloaded w.backing ∨
        ∃ c, s.wrapper? w = some c ∧ c.backing = none ∧ cause = .unloaded c.backingName) := by
  cases hc : s.wrapper? w with
  | none =>
    rw [makePair, run_bind, run_wrapper_none hc] at h
    cases h
    exact ⟨rfl, _, rfl, .inr (.inl ⟨rfl, rfl⟩)⟩
  | some c =>
    rw [run_makePair hc] at h
    split at h
    · split at h
      next hbacking =>
        cases h
        exact ⟨rfl, _, rfl, .inr (.inr ⟨c, rfl, hbacking, rfl⟩)⟩
      next =>
        split at h
        · cases h
          exact ⟨rfl, _, rfl, .inl rfl⟩
        · split at h
          next hfit =>
            cases h
            refine ⟨rfl, _, rfl, .inl ?_⟩
            obtain ⟨_, _, rfl⟩ | ⟨_, _, _, rfl⟩ := checkScriptFit_error hfit <;> rfl
          next => cases h
    · cases h
      exact ⟨rfl, _, rfl, .inl rfl⟩

/-- Runs the script constructor on a new object. -/
def runConstructor (fuel context : Nat) (c : Wrapper) (p : Pair) (args : List ScriptValue) :
    Run Pair :=
  match c.plan.constructor with
  | none => return p
  | some m => do
    let _ ← callFunction fuel context m.function (.object (.pair p)) args
    return p

theorem construct_succ (fuel context : Nat) (w : WrapperRef) (args : List ScriptValue) :
    construct (fuel + 1) context w args =
      makePair w args >>= fun r => runConstructor fuel context r.1 r.2 args := by
  rw [construct]
  simp only [makePair, bind_assoc]
  refine bind_congr fun c => bind_congr fun _ => bind_congr fun t => ?_
  split
  · rfl
  · simp only [bind_assoc, pure_bind]
    rfl

/-- Whatever the script constructor gives, the answer is the new object. -/
theorem runConstructor_ok {fuel context : Nat} {q : Pair}
    (h : (runConstructor fuel context c p args).run s = (.ok q, s')) : q = p := by
  unfold runConstructor at h
  split at h
  · cases h
    rfl
  · obtain ⟨_, _, -, h⟩ := of_bind_ok h
    cases h
    rfl

/-- An object that is made belongs to the class and has its host side. -/
theorem construct_ok {fuel context : Nat}
    (h : (construct fuel context w args).run s = (.ok p, s')) :
    p.wrapper = w ∧ ∃ c, s.wrapper? w = some c ∧ c.backing = some p.type := by
  cases fuel with
  | zero =>
    rw [construct] at h
    cases h
  | succ fuel =>
    rw [construct_succ] at h
    obtain ⟨⟨c, q⟩, t, hmake, h⟩ := of_bind_ok h
    cases runConstructor_ok h
    obtain ⟨rfl, hmakes⟩ := makePair_ok hmake
    exact ⟨rfl, c, hmakes.wrapper, hmakes.admits.backing⟩

end Run

end ScriptClass
