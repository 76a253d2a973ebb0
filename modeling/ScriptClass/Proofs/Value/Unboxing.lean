import ScriptClass.Proofs.Value.Holding
import ScriptClass.Proofs.Value.RoundTrip

/-!
# What a value is unboxed to

A script value that can be unboxed to a type is unboxed to a host value that has the type at every
depth, and every array in it is labelled truly, also where the type is the root class and says
nothing about items (`ScriptValue.unbox_isOf`). The proof follows the items of arrays; all other
values are unboxed in one step (`ScriptValue.unbox_single`).
-/

namespace ScriptClass

namespace HostValue

variable {v : HostValue} {t : Descriptor}

/-- Every array in the value, however deep, holds only values of the type that it is labelled
with. -/
inductive Labelled : HostValue → Prop where
  | array {element : Descriptor} {items : List HostValue} (h : ∀ v ∈ items, IsOf v element)
    (hitems : ∀ v ∈ items, Labelled v) : Labelled (.array element items)
  | single {v : HostValue} (h : ∀ element items, v ≠ .array element items) : Labelled v

/-- A value may be passed as what it is. -/
theorem IsOf.passesAs (h : v.IsOf t) : v.passesAs t = true := by
  cases h with
  | primitive h => rw [HostValue.passesAs, h, beq_self_eq_true]
  | nullReference | nullArray | string => rfl
  | object hname h => rw [HostValue.passesAs, h, Bool.or_true]
  | root h =>
    cases v with
    | void => cases h
    | _ => rfl
  | array => rw [HostValue.passesAs, beq_self_eq_true, Bool.true_or]

/-- A primitive is no array. -/
theorem Labelled.of_primitive {kind : Primitive} (h : v.primitive? = some kind) : v.Labelled :=
  .single fun _ _ harray => by
    rw [harray] at h
    cases h

end HostValue

namespace ScriptValue

variable {v : ScriptValue} {h : HostValue} {t : Descriptor} {kind : Primitive} {name : String}

/-- The natural host form of a value is not `void`, and no array unless the value is one. -/
theorem unboxObject_ok (hv : v.unboxObject = .ok h) :
    h.isVoid = false ∧ ∀ element items, h ≠ .array element items := by
  cases v with
  | bool | float | string =>
    cases hv
    exact ⟨rfl, fun _ _ => HostValue.noConfusion⟩
  | int n =>
    cases hv
    split <;> exact ⟨rfl, fun _ _ => HostValue.noConfusion⟩
  | _ =>
    simp only [unboxObject] at hv
    split at hv <;> cases hv
    exact ⟨rfl, fun _ _ => HostValue.noConfusion⟩

theorem unboxPrimitive_isOf (hv : v.unboxPrimitive kind = .ok h) :
    h.IsOf (.primitive kind) ∧ h.Labelled :=
  have hkind := primitive?_of_unboxPrimitive hv
  ⟨.primitive hkind, .of_primitive hkind⟩

theorem unboxInstance_isOf (hstring : name ≠ stringName) (hv : v.unboxInstance name = .ok h) :
    h.IsOf (.reference name) ∧ h.Labelled := by
  obtain ⟨o, -, ho, rfl⟩ := unboxInstance_ok hv
  exact ⟨.object hstring ho, .single nofun⟩

/-- Other values than arrays are unboxed in one step. -/
theorem unbox_single (harray : ∀ vs, v ≠ .array vs) (hv : v.unbox t = .ok h) :
    h.IsOf t ∧ h.Labelled := by
  cases t with
  | primitive kind => exact unboxPrimitive_isOf (unbox_primitive v kind ▸ hv)
  | reference name =>
    cases v with
    | array vs => exact absurd rfl (harray vs)
    | undefined | null =>
      cases hv
      exact ⟨.nullReference, .single nofun⟩
    | _ =>
      simp only [unbox] at hv
      split at hv
      next hstring =>
        obtain ⟨s, rfl⟩ := unboxString_ok hv
        exact ⟨hstring ▸ .string, .single nofun⟩
      next hstring =>
        split at hv
        next hroot =>
          obtain ⟨hvoid, hsingle⟩ := unboxObject_ok hv
          exact ⟨hroot ▸ .root hvoid, .single hsingle⟩
        next => exact unboxInstance_isOf hstring hv
  | array element =>
    cases v with
    | array vs => exact absurd rfl (harray vs)
    | undefined | null =>
      cases hv
      exact ⟨.nullArray, .single nofun⟩
    | _ => cases hv

mutual

/-- What a value is unboxed to has the type that was asked for, and its arrays are labelled
truly. -/
theorem unbox_isOf (v : ScriptValue) {t : Descriptor} {h : HostValue} (hv : v.unbox t = .ok h) :
    h.IsOf t ∧ h.Labelled := by
  match v with
  | .array vs =>
    have hitems {e : Descriptor} {hs : List HostValue} (hvs : unboxAll vs e = .ok hs) :
        (HostValue.array e hs).IsOf (.array e) ∧ (HostValue.array e hs).Labelled := by
      have hall := unboxAll_isOf vs hvs
      have hof := fun u hu => (hall u hu).1
      exact ⟨.array hof, .array hof fun u hu => (hall u hu).2⟩
    match t with
    | .primitive kind => exact unboxPrimitive_isOf (unbox_primitive _ kind ▸ hv)
    | .array e =>
      rw [unbox_array] at hv
      obtain ⟨hs, hvs, rfl⟩ := map_ok hv
      exact hitems hvs
    | .reference name =>
      rw [unbox] at hv
      split at hv
      · cases hv
      next hstring =>
        split at hv
        next hroot =>
          obtain ⟨hs, hvs, rfl⟩ := map_ok hv
          exact ⟨hroot ▸ .root rfl, (hitems hvs).2⟩
        next => exact unboxInstance_isOf hstring hv
  | .undefined | .null | .bool _ | .int _ | .float _ | .string _ | .object _ | .function _
  | .native _ => exact unbox_single (fun vs h => by cases h) hv

theorem unboxAll_isOf (vs : List ScriptValue) {t : Descriptor} {hs : List HostValue}
    (hvs : unboxAll vs t = .ok hs) : ∀ h ∈ hs, h.IsOf t ∧ h.Labelled := by
  match vs with
  | [] =>
    cases hvs
    exact nofun
  | v :: vs =>
    obtain ⟨first, rest, hfirst, hrest, rfl⟩ := unboxAll_cons_ok hvs
    exact List.forall_mem_cons.mpr ⟨unbox_isOf v hfirst, unboxAll_isOf vs hrest⟩

end

end ScriptValue

end ScriptClass
