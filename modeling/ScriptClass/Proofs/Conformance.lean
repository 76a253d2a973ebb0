import ScriptClass.Proofs.Forwarding
import ScriptClass.Proofs.Value.Passing

/-!
# Unboxed values conform

Host code is statically typed and gets values from script code in two places: as the result of a
method that forwards to script, and as an argument of an inherited method that script calls. Both
are unboxed to the type that host code expects, and have it at every depth
(`unboxed_values_conform`).
-/

namespace ScriptClass

namespace Run

variable {fuel : Nat} {s s' : Store} {m : Method} {owner : HostType} {member : MemberId}
  {key : String} {args : List HostValue} {v : HostValue}

/-- A method that forwards gives what a script value is unboxed to. -/
theorem runMethod_forward_ok {receiver : Option HostObject} (hbody : m.body = .forward member key)
    (h : (runMethod fuel owner m receiver args).run s = (.ok v, s')) :
    ∃ result, ScriptValue.unbox result m.signature.returns = .ok v := by
  cases fuel with
  | zero =>
    rw [runMethod] at h
    cases h
  | succ fuel =>
    cases receiver with
    | none =>
      rw [runMethod_succ, runBody, hbody] at h
      cases h
    | some receiver =>
      rw [runMethod_forward hbody] at h
      exact forward_ok h

/-- A virtual call that reaches a method gives what the method does. -/
theorem of_invoke_ok {receiver : HostObject} {sig : Signature}
    (hm : receiver.type.virtual? sig = some (owner, m))
    (h : (invoke fuel receiver sig args).run s = (.ok v, s')) : ∃ fuel s₀ t,
      (runMethod fuel owner m (some receiver) args).run s₀ = (.ok v, t) := by
  cases fuel with
  | zero =>
    rw [invoke] at h
    cases h
  | succ fuel =>
    cases hfit : sig.checkFit args with
    | error e =>
      rw [invoke_misfit hfit] at h
      cases h
    | ok =>
      rw [invoke_run hfit hm, run_keeping] at h
      obtain ⟨hresult, -⟩ := Prod.mk.inj h
      exact ⟨fuel, _, _, Prod.ext hresult rfl⟩

end Run

/-- What a script value is unboxed to has the type that was asked for at every depth. So what a
forwarding method gives conforms to its return type, and what script passes to an inherited method
conforms to the parameters. -/
theorem unboxed_values_conform :
    (∀ (v : ScriptValue) (t : Descriptor) (h : HostValue), v.unbox t = .ok h →
      h.IsOf t ∧ h.Labelled) ∧
    (∀ (fuel : Nat) (receiver : HostObject) (sig : Signature) (args : List HostValue) (s s' : Store)
        (owner : HostType) (m : Method) (member : MemberId) (key : String) (h : HostValue),
      receiver.type.virtual? sig = some (owner, m) → m.body = .forward member key →
      (Run.invoke fuel receiver sig args).run s = (.ok h, s') →
      h.IsOf sig.returns ∧ h.Labelled ∧ h.passesAs sig.returns = true) ∧
    ∀ (signatures : List Signature) (args : List ScriptValue) (sig : Signature)
        (hostArgs : List HostValue), firstApplicable signatures args = some (sig, hostArgs) →
      sig ∈ signatures ∧ List.Forall₂ HostValue.IsOf hostArgs sig.params ∧
        sig.checkFit hostArgs = .ok () := by
  refine ⟨fun v t h hv => ScriptValue.unbox_isOf v hv, ?_, ?_⟩
  · intro fuel receiver sig args s s' owner m member key h hm hbody hrun
    obtain ⟨fuel, s₀, t, hrun⟩ := Run.of_invoke_ok hm hrun
    obtain ⟨result, hresult⟩ := Run.runMethod_forward_ok hbody hrun
    obtain ⟨hdeclared, -⟩ := HostType.declaredVirtual?_some.mp (HostType.virtual?_declared hm)
    rw [HostType.declared?_signature hdeclared] at hresult
    obtain ⟨hof, hlabelled⟩ := ScriptValue.unbox_isOf result hresult
    exact ⟨hof, hlabelled, hof.passesAs⟩
  · intro signatures args sig hostArgs happlied
    obtain ⟨hmem, hlength, hunbox⟩ := firstApplicable_ok happlied
    have hargs := ScriptValue.unboxArguments_isOf hlength hunbox
    exact ⟨hmem, hargs, checkFit_of_isOf hargs⟩

namespace Sample

/-- Rows of numbers, one of them written as a text, and no row. -/
def rows : ScriptValue := .array [.array [.int 4, .string "5"], .null]

def fill : Signature := ⟨"fill", [.array (.array (.primitive .int))], .primitive .void⟩

end Sample

open Sample in
/-- Rows are unboxed, alone and as an argument, and an object gives the text that its class
draws. -/
theorem rows_and_drawings_conform :
    (∃ h, rows.unbox (.array (.array (.primitive .int))) = .ok h ∧
      h.IsOf (.array (.array (.primitive .int))) ∧ h.Labelled) ∧
    (∃ f p s found h s', object start first = some (f, p, s) ∧
      p.type.virtual? draw = some found ∧ found.2.body = .forward ⟨2⟩ "draw" ∧
      (Run.invoke 6 (.pair p) draw []).run s = (.ok h, s') ∧ h.IsOf .string) ∧
    ∃ hostArgs, firstApplicable [fill] [rows] = some (fill, hostArgs) ∧
      fill.checkFit hostArgs = .ok () := by
  obtain ⟨hunbox, hforward, happly⟩ := unboxed_values_conform
  refine ⟨?_, ?_, ?_⟩
  · obtain ⟨h, hrows⟩ := ScriptValue.fits_iff.mp
      (show rows.fits (.array (.array (.primitive .int))) = true by decide +kernel)
    exact ⟨h, hrows, hunbox _ _ _ hrows⟩
  · have h : (object start first).any (fun (f, p, s) => (p.type.virtual? draw).any fun found =>
        found.2.body = .forward ⟨2⟩ "draw" ∧
          ((Run.invoke 6 (.pair p) draw []).run s).1.toOption.isSome) = true := by decide +kernel
    obtain ⟨⟨f, p, s⟩, ho, h⟩ := (Option.any_eq_true _ _).mp h
    obtain ⟨⟨owner, m⟩, hfound, h⟩ := (Option.any_eq_true _ _).mp h
    obtain ⟨hbody, hrun⟩ := of_decide_eq_true h
    rcases hdraw : (Run.invoke 6 (.pair p) draw []).run s with ⟨e | v, s'⟩
    · rw [hdraw] at hrun
      cases hrun
    · obtain ⟨hof, -, -⟩ := hforward 6 (.pair p) draw [] s s' owner m _ _ v hfound hbody hdraw
      exact ⟨f, p, s, _, v, s', ho, hfound, hbody, hdraw, hof⟩
  · have h : (firstApplicable [fill] [rows]).any (fun x => decide (x.1 = fill)) = true := by
      decide +kernel
    obtain ⟨⟨sig, hostArgs⟩, happlied, h⟩ := (Option.any_eq_true _ _).mp h
    obtain rfl : sig = fill := of_decide_eq_true h
    obtain ⟨-, -, hfit⟩ := happly _ _ _ _ happlied
    exact ⟨hostArgs, happlied, hfit⟩

end ScriptClass
