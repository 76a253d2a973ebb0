import ScriptClass.Proofs.Value.Conversion
import ScriptClass.Run.Call

/-!
# What values hold

A value holds the same on both sides: boxing keeps what it holds (`HostValue.holdings_box`),
and unboxing adds nothing to it (`ScriptValue.holdings_unbox`). So whatever a call passes
between the sides, the objects that come out are among those that went in.
-/

namespace ScriptClass

variable {x : Holding}

/-! ## Lists of values -/

theorem mem_holdingsOfScript {vs : List ScriptValue} :
    x ∈ holdingsOfScript vs ↔ ∃ v ∈ vs, x ∈ v.holdings := by
  induction vs with
  | nil => simp [holdingsOfScript]
  | cons v vs ih => simp [holdingsOfScript, ih]

theorem mem_holdingsOfHost {vs : List HostValue} :
    x ∈ holdingsOfHost vs ↔ ∃ v ∈ vs, x ∈ v.holdings := by
  induction vs with
  | nil => simp [holdingsOfHost]
  | cons v vs ih => simp [holdingsOfHost, ih]

theorem holdingsOfScript_append (vs ws : List ScriptValue) :
    holdingsOfScript (vs ++ ws) = holdingsOfScript vs ++ holdingsOfScript ws := by
  induction vs with
  | nil => simp [holdingsOfScript]
  | cons v vs ih => simp [holdingsOfScript, ih]

/-! ## Boxing and unboxing -/

mutual

theorem HostValue.holdings_box (v : HostValue) : v.box.holdings = v.holdings := by
  match v with
  | .object (.pair p) => rw [HostValue.box, ScriptValue.holdings, HostValue.holdings]; rfl
  | .object (.plain id t) => rw [HostValue.box, ScriptValue.holdings, HostValue.holdings]
  | .array e vs =>
    rw [HostValue.box, ScriptValue.holdings, HostValue.holdings, HostValue.holdings_boxAll vs]
  | .void | .null | .bool _ | .byte _ | .short _ | .int _ | .long _ | .float _ | .double _
  | .char _ | .string _ => simp [HostValue.box, ScriptValue.holdings, HostValue.holdings]

theorem HostValue.holdings_boxAll (vs : List HostValue) :
    holdingsOfScript (HostValue.boxAll vs) = holdingsOfHost vs := by
  match vs with
  | [] => rw [HostValue.boxAll, holdingsOfScript, holdingsOfHost]
  | v :: vs =>
    rw [HostValue.boxAll, holdingsOfScript, holdingsOfHost, HostValue.holdings_box v,
      HostValue.holdings_boxAll vs]

end

namespace ScriptValue

variable {t : Descriptor} {h : HostValue}

theorem holding_of_host? {v : ScriptValue} {o : HostObject} (ho : v.host? = some o) :
    v.holdings = [o.holding] := by
  cases v with
  | object so =>
    cases so with
    | pair p => cases ho; rw [holdings]; rfl
    | plain id => cases ho
    | facet f => cases ho
  | native o' => cases ho; rw [holdings]
  | _ => cases ho

/-- A primitive holds nothing. -/
theorem holdings_unboxPrimitive {v : ScriptValue} {kind : Primitive}
    (hv : v.unboxPrimitive kind = .ok h) : h.holdings = [] := by
  have hkind := primitive?_of_unboxPrimitive hv
  cases h with
  | null | string | array | object => cases hkind
  | _ => rfl

theorem holdings_unboxInstance {v : ScriptValue} {name : String}
    (hv : v.unboxInstance name = .ok h) : h.holdings = v.holdings := by
  obtain ⟨o, ho, -, rfl⟩ := unboxInstance_ok hv
  rw [holding_of_host? ho]
  rfl

theorem holdings_unboxString {v : ScriptValue} (hv : v.unboxString = .ok h) : h.holdings = [] := by
  obtain ⟨s, rfl⟩ := unboxString_ok hv
  rfl

theorem holdings_unboxObject {v : ScriptValue} (hv : v.unboxObject = .ok h)
    (hx : x ∈ h.holdings) : x ∈ v.holdings := by
  cases v with
  | bool | float | string =>
    cases hv
    cases hx
  | int n =>
    cases hv
    split at hx <;> cases hx
  | _ =>
    simp only [unboxObject] at hv
    split at hv <;> cases hv
    next o ho =>
      rw [holding_of_host? ho]
      exact hx

/-- Other values than arrays are unboxed in one step. -/
theorem holdings_unbox_single {v : ScriptValue} (harray : ∀ vs, v ≠ .array vs)
    (hv : v.unbox t = .ok h) (hx : x ∈ h.holdings) : x ∈ v.holdings := by
  cases t with
  | primitive kind =>
    rw [unbox_primitive] at hv
    rw [holdings_unboxPrimitive hv] at hx
    cases hx
  | reference name =>
    cases v with
    | array vs => exact absurd rfl (harray vs)
    | undefined | null =>
      simp only [unbox, Except.ok.injEq] at hv
      rw [← hv] at hx
      cases hx
    | _ =>
      simp only [unbox] at hv
      split at hv
      · rw [holdings_unboxString hv] at hx
        cases hx
      · split at hv
        · exact holdings_unboxObject hv hx
        · rw [holdings_unboxInstance hv] at hx
          exact hx
  | array e =>
    cases v with
    | array vs => exact absurd rfl (harray vs)
    | undefined | null =>
      simp only [unbox, Except.ok.injEq] at hv
      rw [← hv] at hx
      cases hx
    | _ =>
      simp only [unbox] at hv
      cases hv

mutual

/-- Unboxing keeps what a value holds, or drops it. -/
theorem holdings_unbox (v : ScriptValue) {t : Descriptor} {h : HostValue} (hv : v.unbox t = .ok h)
    (hx : x ∈ h.holdings) : x ∈ v.holdings := by
  match v with
  | .array vs =>
    have hitems {e : Descriptor} {hs : List HostValue} (hvs : unboxAll vs e = .ok hs)
        (hh : HostValue.array e hs = h) : x ∈ holdingsOfScript vs := by
      rw [← hh, HostValue.holdings] at hx
      exact holdings_unboxAll vs hvs hx
    rw [holdings]
    match t with
    | .primitive kind =>
      rw [unbox_primitive] at hv
      rw [holdings_unboxPrimitive hv] at hx
      cases hx
    | .array e =>
      rw [unbox_array] at hv
      obtain ⟨hs, hvs, hh⟩ := map_ok hv
      exact hitems hvs hh
    | .reference name =>
      rw [unbox] at hv
      split at hv
      · cases hv
      · split at hv
        · obtain ⟨hs, hvs, hh⟩ := map_ok hv
          exact hitems hvs hh
        · cases hv
  | .undefined | .null | .bool _ | .int _ | .float _ | .string _ | .object _ | .function _
  | .native _ => exact holdings_unbox_single (fun vs h => by cases h) hv hx

theorem holdings_unboxAll (vs : List ScriptValue) {t : Descriptor} {hs : List HostValue}
    (hvs : unboxAll vs t = .ok hs) (hx : x ∈ holdingsOfHost hs) : x ∈ holdingsOfScript vs := by
  match vs with
  | [] =>
    cases hvs
    exact hx
  | v :: vs =>
    obtain ⟨first, rest, hfirst, hrest, rfl⟩ := unboxAll_cons_ok hvs
    rw [holdingsOfHost, List.mem_append] at hx
    rw [holdingsOfScript, List.mem_append]
    exact hx.imp (holdings_unbox v hfirst) (holdings_unboxAll vs hrest)

end

theorem holdings_unboxArguments {vs : List ScriptValue} {ts : List Descriptor}
    {hs : List HostValue} (hvs : unboxArguments vs ts = .ok hs) (hx : x ∈ holdingsOfHost hs) :
    x ∈ holdingsOfScript vs := by
  induction vs, ts using unboxArguments.induct generalizing hs with
  | case1 v vs t ts ih =>
    obtain ⟨first, rest, hfirst, hrest, rfl⟩ := unboxArguments_cons_ok hvs
    rw [holdingsOfHost, List.mem_append] at hx
    rw [holdingsOfScript, List.mem_append]
    exact hx.imp (holdings_unbox v hfirst) (ih hrest)
  | case2 vs ts hnot =>
    rw [unboxArguments] at hvs
    · cases hvs
      cases hx
    · exact hnot

end ScriptValue

/-- What is applied is one of the signatures, with the arguments unboxed to its parameters. -/
theorem firstApplicable_ok {signatures : List Signature} {args : List ScriptValue} {s : Signature}
    {hostArgs : List HostValue} (h : firstApplicable signatures args = some (s, hostArgs)) :
    s ∈ signatures ∧ s.params.length = args.length ∧
      ScriptValue.unboxArguments args s.params = .ok hostArgs := by
  obtain ⟨s', hmem, h⟩ := List.exists_of_findSome?_eq_some h
  split at h
  next hlength =>
    split at h <;> cases h
    next hargs => exact ⟨hmem, hlength, hargs⟩
  next => cases h

/-- The arguments that a call of an inherited method gets hold what they held. -/
theorem holdings_firstApplicable {signatures : List Signature} {args : List ScriptValue}
    {s : Signature} {hostArgs : List HostValue}
    (h : firstApplicable signatures args = some (s, hostArgs)) (hx : x ∈ holdingsOfHost hostArgs) :
    x ∈ holdingsOfScript args := by
  obtain ⟨-, -, hargs⟩ := firstApplicable_ok h
  exact ScriptValue.holdings_unboxArguments hargs hx

end ScriptClass
