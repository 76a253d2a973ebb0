import ScriptClass.Proofs.Run.Construction
import ScriptClass.Proofs.Generation.Request
import ScriptClass.Proofs.Value.Conversion

/-!
# Dispatch and forwarding

Dispatch reads an id by the wrapper class of the object that it is dispatched to:
the id of a place runs the callable at that place of that class, once, and a place
beyond its callables is refused. A forwarding method does nothing else in between
(`invoke_forward`): it boxes the arguments, dispatches its id and unboxes what the
callable gives.
-/

namespace ScriptClass

theorem Store.HasMembers.holding {s : Store} {w : WrapperRef} {ms : Members}
    (h : s.HasMembers w ms) (vs : List ScriptValue) : (s.holding vs).HasMembers w ms :=
  h.later (.single (.roots s _))

theorem Store.HasMembers.inside {s : Store} {w : WrapperRef} {ms : Members}
    (h : s.HasMembers w ms) (cs : Contexts) (vs : List ScriptValue) :
    (s.inside cs vs).HasMembers w ms :=
  (h.holding vs).later (.single (.contexts _ cs))

namespace Run

variable {α β : Type}

/-- The run fails and changes nothing. -/
def Refused (x : Run α) (s : Store) : Prop := ∃ e, x.run s = (.error (.failed e), s)

theorem Refused.bind {x : Run α} {s : Store} (h : Refused x s) (f : α → Run β) :
    Refused (x >>= f) s := by
  obtain ⟨e, he⟩ := h
  exact ⟨e, by rw [run_bind, he]⟩

theorem Refused.keeping {x : Run α} {s : Store} {vs : List ScriptValue}
    (h : Refused x (s.holding vs)) : Refused (keeping vs x) s := by
  obtain ⟨e, he⟩ := h
  exact ⟨e, by rw [run_keeping, he, letGo_holding]⟩

theorem refused_fail (e : RuntimeError) (s : Store) : Refused (fail e : Run α) s := ⟨e, rfl⟩

/-! ## Dispatch -/

section Dispatch

variable {s : Store} {w : WrapperRef} {ms own : Members} {facet : Facet} {i : Nat} {m : Member}

theorem dispatch_beyond (h : s.HasMembers w ms) (fitOwn : own.Fit)
    (hi : i < (own.methods facet).length) (hm : (ms.methods facet)[i]? = none)
    (fuel context : Nat) (receiver : Option Pair) (args : List ScriptValue) :
    Refused (dispatch (fuel + 1) context w receiver (.ofIndex facet i) args) s := by
  obtain ⟨c, hc, name, hplan⟩ := h.wrapper
  have hlookup : c.plan.handlers.lookup (.ofIndex facet i) = .default := by
    rw [hplan, Members.lookup_ofIndex name h.fit fitOwn hi,
      if_neg (Nat.not_lt.mpr (List.getElem?_eq_none_iff.mp hm))]
  rw [dispatch]
  refine ⟨.noSuchMember c.backingName (.ofIndex facet i), ?_⟩
  rw [run_bind_ok (run_wrapper hc), hlookup]
  rfl

theorem dispatch_handler (h : s.HasMembers w ms)
    (hm : (ms.methods facet)[i]? = some m) : ∃ c, s.wrapper? w = some c ∧
      c.plan.handlers.lookup (.ofIndex facet i) = .member facet i ∧
      (c.plan.members facet)[i]? = some m := by
  obtain ⟨c, hc, name, hplan⟩ := h.wrapper
  have hi : i < (ms.methods facet).length := (List.getElem?_eq_some_iff.mp hm).1
  refine ⟨c, hc, ?_, ?_⟩
  · rw [hplan, Members.lookup_ofIndex name h.fit h.fit hi, if_pos hi]
  · rw [hplan, WrapperPlan.members_ofMembers, hm]

/-- The id of an instance callable calls it on the receiver. -/
theorem dispatch_instance (h : s.HasMembers w ms)
    (hm : (ms.methods .instances)[i]? = some m) (fuel context : Nat) (p : Pair)
    (args : List ScriptValue) :
    (dispatch (fuel + 1) context w (some p) (.ofIndex .instances i) args).run s =
      (callFunction fuel context m.function (.object (.pair p)) args).run s := by
  obtain ⟨c, hc, hlookup, hmember⟩ := dispatch_handler h hm
  rw [dispatch, run_bind_ok (run_wrapper hc), hlookup]
  dsimp only
  rw [hmember]

/-- Without a receiver an instance callable is refused. -/
theorem dispatch_instance_none (h : s.HasMembers w ms)
    (hm : (ms.methods .instances)[i]? = some m) (fuel context : Nat) (args : List ScriptValue) :
    Refused (dispatch (fuel + 1) context w none (.ofIndex .instances i) args) s := by
  obtain ⟨c, hc, hlookup, hmember⟩ := dispatch_handler h hm
  refine ⟨.incompatibleReceiver c.backingName m.key, ?_⟩
  rw [dispatch, run_bind_ok (run_wrapper hc), hlookup]
  dsimp only
  rw [hmember]
  rfl

/-- The id of a static callable calls it on the static facet. -/
theorem dispatch_static (h : s.HasMembers w ms)
    (hm : (ms.methods .statics)[i]? = some m) (fuel context : Nat) (receiver : Option Pair)
    (args : List ScriptValue) :
    (dispatch (fuel + 1) context w receiver (.ofIndex .statics i) args).run s =
      (do let f ← facetOf w
          callFunction fuel context m.function (.object (.facet f)) args : Run ScriptValue).run s := by
  obtain ⟨c, hc, hlookup, hmember⟩ := dispatch_handler h hm
  rw [dispatch, run_bind_ok (run_wrapper hc), hlookup]
  dsimp only
  rw [hmember]

end Dispatch

/-! ## Forwarding -/

section Forwarding

variable {s : Store} {member : MemberId} {key : String} {sig : Signature} {args : List HostValue}

theorem forward_no_context (h : s.contexts.active = none) (fuel : Nat) (receiver : HostObject) :
    (forward (fuel + 1) member key sig receiver args).run s =
      (.error (.failed .noActiveContext), s) := by
  rw [forward, run_bind, run_currentContext_none h]

/-- A forwarding body refuses what is no object of a generated class. -/
theorem forward_plain (fuel id : Nat) (t : HostType) :
    Refused (forward (fuel + 1) member key sig (.plain id t) args) s := by
  cases h : s.contexts.active with
  | none => exact ⟨_, forward_no_context h fuel _⟩
  | some context =>
    rw [forward]
    exact ⟨_, by rw [run_bind_ok (run_currentContext h)]; rfl⟩

theorem forward_pair {context : Nat} (h : s.contexts.active = some context) (fuel : Nat)
    (p : Pair) :
    (forward (fuel + 1) member key sig (.pair p) args).run s =
      (do let result ← dispatch fuel context p.wrapper (some p) member (HostValue.boxAll args)
          ofConversion (result.unbox sig.returns) : Run HostValue).run s := by
  rw [forward, run_bind_ok (run_currentContext h)]

/-- A forwarding body gives what a script value is unboxed to. -/
theorem forward_ok {fuel : Nat} {receiver : HostObject} {v : HostValue} {s' : Store}
    (h : (forward fuel member key sig receiver args).run s = (.ok v, s')) :
    ∃ result, ScriptValue.unbox result sig.returns = .ok v := by
  cases fuel with
  | zero =>
    rw [forward] at h
    cases h
  | succ fuel =>
    rw [forward] at h
    obtain ⟨context, t, -, h⟩ := of_bind_ok h
    cases receiver with
    | plain id type => cases h
    | pair p =>
      obtain ⟨result, t', -, h⟩ := of_bind_ok h
      refine ⟨result, ?_⟩
      cases hv : result.unbox sig.returns with
      | error e =>
        rw [hv] at h
        cases h
      | ok =>
        rw [hv] at h
        cases h
        rfl

/-- A forwarding body gives what its method returns, so that a `void` method
discards nothing more. -/
theorem forward_void {fuel : Nat} {receiver : HostObject} {v : HostValue} {s' : Store}
    (hv : sig.returns.isVoid = true)
    (h : (forward fuel member key sig receiver args).run s = (.ok v, s')) : v = .void := by
  obtain ⟨result, hresult⟩ := forward_ok h
  rw [beq_iff_eq.mp hv, ScriptValue.unbox_void] at hresult
  exact (Except.ok.inj hresult).symm

theorem runMethod_forward {m : Method} (hm : m.body = .forward member key) (fuel : Nat)
    (owner : HostType) (receiver : HostObject) :
    (runMethod (fuel + 1) owner m (some receiver) args).run s =
      (forward fuel member key m.signature receiver args).run s := by
  rw [runMethod_succ, runBody, hm, run_bind]
  rcases h : (forward fuel member key m.signature receiver args).run s with ⟨e | v, t⟩
  · rfl
  · dsimp only
    by_cases hv : m.signature.returns.isVoid = true
    · rw [if_pos hv, forward_void hv h]
      rfl
    · rw [if_neg hv]
      rfl

theorem invoke_run {receiver : HostObject} {owner : HostType} {m : Method}
    (fit : sig.checkFit args = .ok ()) (hm : receiver.type.virtual? sig = some (owner, m))
    (fuel : Nat) :
    (invoke (fuel + 1) receiver sig args).run s =
      (keeping (.native receiver :: HostValue.boxAll args)
        (runMethod fuel owner m (some receiver) args)).run s := by
  rw [invoke, fit, run_bind_ok (run_ofExcept_ok () s), hm]

theorem invoke_misfit {receiver : HostObject} {e : RuntimeError}
    (fit : sig.checkFit args = .error e) (fuel : Nat) :
    (invoke (fuel + 1) receiver sig args).run s = (.error (.failed e), s) := by
  rw [invoke, fit, run_bind, run_ofExcept_error]

/-- A virtual call that reaches a forwarding body runs it while the receiver and
the arguments are held. -/
theorem invoke_forward {receiver : HostObject} {owner : HostType} {m : Method}
    (fit : sig.checkFit args = .ok ()) (hm : receiver.type.virtual? sig = some (owner, m))
    (hbody : m.body = .forward member key) (fuel : Nat) :
    (invoke (fuel + 2) receiver sig args).run s =
      (keeping (.native receiver :: HostValue.boxAll args)
        (forward fuel member key sig receiver args)).run s := by
  rw [invoke_run fit hm, run_keeping, run_keeping, runMethod_forward hbody]
  obtain ⟨hdeclared, -⟩ := HostType.declaredVirtual?_some.mp (HostType.virtual?_declared hm)
  rw [HostType.declared?_signature hdeclared]

end Forwarding

end Run

end ScriptClass
