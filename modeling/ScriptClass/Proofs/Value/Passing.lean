import ScriptClass.Proofs.Value.Unboxing
import ScriptClass.Run.Basic

/-!
# Unboxed arguments may be passed

Arguments fit a signature if each may be passed as its parameter (`checkFit_ok_iff`). Those that were
unboxed to the parameters have their types at every depth (`ScriptValue.unboxArguments_isOf`), so
they fit (`checkFit_of_unboxArguments`).
-/

namespace ScriptClass

/-- Arguments fit if there is one for each parameter and each may be passed. -/
theorem checkFit_ok_iff {s : Signature} {args : List HostValue} : s.checkFit args = .ok () ↔
    List.Forall₂ (fun v t => v.passesAs t = true) args s.params := by
  rw [List.forall₂_iff_zip, Signature.checkFit, Signature.arity]
  by_cases hlength : args.length = s.params.length
  · rw [if_neg (not_not.mpr hlength), and_iff_right hlength]
    split
    next v t index hfind =>
      -- a misfit that is found is an argument that may not be passed
      have hmem := List.fst_mem_of_mem_zipIdx (List.mem_of_find?_eq_some hfind)
      have hmisfit : (!v.passesAs t) = true := by simpa using List.find?_some hfind
      refine ⟨nofun, fun hall => ?_⟩
      rw [show v.passesAs t = true from hall hmem] at hmisfit
      cases hmisfit
    next hnone =>
      refine ⟨fun _ v t hmem => ?_, fun _ => rfl⟩
      obtain ⟨i, hi⟩ := List.mem_iff_getElem?.mp hmem
      have hfits := List.find?_eq_none.mp hnone ((v, t), i) (List.mem_zipIdx_iff_getElem?.mpr hi)
      simpa using hfits
  · rw [if_pos hlength]
    exact ⟨nofun, fun h => absurd h.1 hlength⟩

/-- Arguments that have the types of the parameters fit. -/
theorem checkFit_of_isOf {s : Signature} {args : List HostValue}
    (h : List.Forall₂ HostValue.IsOf args s.params) : s.checkFit args = .ok () :=
  checkFit_ok_iff.mpr (h.imp fun _ _ => HostValue.IsOf.passesAs)

/-- Arguments have the types that they were unboxed to. -/
theorem ScriptValue.unboxArguments_isOf {vs : List ScriptValue} {ts : List Descriptor}
    {hs : List HostValue} (hlength : ts.length = vs.length) (hv : unboxArguments vs ts = .ok hs) :
    List.Forall₂ HostValue.IsOf hs ts := by
  induction vs generalizing ts hs with
  | nil =>
    cases List.length_eq_zero_iff.mp hlength
    cases hv
    exact .nil
  | cons v vs ih =>
    cases ts with
    | nil => cases hlength
    | cons t ts =>
      obtain ⟨first, rest, hfirst, hrest, rfl⟩ := unboxArguments_cons_ok hv
      exact .cons (unbox_isOf v hfirst).1 (ih (Nat.succ.inj hlength) hrest)

/-- Unboxed arguments fit the signature that they were unboxed for. -/
theorem checkFit_of_unboxArguments {s : Signature} {args : List ScriptValue}
    {hostArgs : List HostValue} (hlength : s.params.length = args.length)
    (h : ScriptValue.unboxArguments args s.params = .ok hostArgs) :
    s.checkFit hostArgs = .ok () :=
  checkFit_of_isOf (ScriptValue.unboxArguments_isOf hlength h)

end ScriptClass
