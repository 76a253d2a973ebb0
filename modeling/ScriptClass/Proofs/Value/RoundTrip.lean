import ScriptClass.Proofs.Value.Conversion
import ScriptClass.Store.Basic

/-!
# Values that go to script and back

A host value that has a type at every depth (`HostValue.IsOf`) comes back from script as
it was, though boxing forgets the width of integers, the kind of texts and the host side
of pairs (`values_come_back`). Only the root class is left out, which gives a value
in the host form that is natural for script.

What may be passed as a type is wider than what has the type: an array conforms by its
label alone. Such a value can be unboxed again unless something obstructs it
(`HostValue.Obstructed`): a host object in the place of a text, or an item that the label
of its array vouches for and that neither conforms nor can be converted
(`passed_values_come_back_iff`).
-/

namespace ScriptClass

namespace HostValue

variable {v : HostValue} {t : Descriptor}

/-- The value has the type, and so have the items of an array, however deep. An array is
labelled with exactly the element type; the root class has every value but `void`. -/
inductive IsOf : HostValue → Descriptor → Prop where
  | primitive {v : HostValue} {kind : Primitive} (h : v.primitive? = some kind) :
    IsOf v (.primitive kind)
  | nullReference {name : String} : IsOf .null (.reference name)
  | nullArray {element : Descriptor} : IsOf .null (.array element)
  | string {s : String} : IsOf (.string s) .string
  | object {o : HostObject} {name : String} (hname : name ≠ stringName)
    (h : o.isInstanceOf name = true) : IsOf (.object o) (.reference name)
  | root {v : HostValue} (h : v.isVoid = false) : IsOf v .object
  | array {element : Descriptor} {items : List HostValue} (h : ∀ v ∈ items, IsOf v element) :
    IsOf (.array element items) (.array element)

theorem unbox_box_string (s : String) : (box (.string s)).unbox .string = .ok (.string s) := rfl

theorem unbox_box_object (o : HostObject) {name : String} (hstring : name ≠ stringName)
    (hroot : name ≠ objectName) :
    (box (.object o)).unbox (.reference name) = (box (.object o)).unboxInstance name := by
  cases o with
  | plain | pair => simp only [box, ScriptValue.unbox, if_neg hstring, if_neg hroot]

/-- An instance of a class is unboxed to the handle that was boxed. -/
theorem unbox_box_instance {o : HostObject} {name : String} (hstring : name ≠ stringName)
    (hroot : name ≠ objectName) (h : o.isInstanceOf name = true) :
    (box (.object o)).unbox (.reference name) = .ok (.object o) := by
  rw [unbox_box_object o hstring hroot, ScriptValue.unboxInstance, host?_box]
  exact if_pos h

theorem unbox_box (h : v.IsOf t) (hroot : t.base ≠ .object) : v.box.unbox t = .ok v.quiet := by
  induction h with
  | primitive h => rw [ScriptValue.unbox_primitive, unboxPrimitive_box h]
  | nullReference | nullArray =>
    rw [box, ScriptValue.unbox_null rfl]
    simp only [quiet]
  | string => simp only [unbox_box_string, quiet]
  | object hname h =>
    have hobject := fun e => hroot (congrArg Descriptor.reference e)
    simp only [unbox_box_instance hname hobject h, quiet]
  | root => exact absurd rfl hroot
  | @array element items _ ih =>
    have hitems : ScriptValue.unboxAll (boxAll items) element = .ok (quietAll items) := by
      rw [ScriptValue.unboxAll_ok, boxAll_eq_map, quietAll_eq_map, List.forall₂_map_left_iff,
        List.forall₂_map_right_iff, List.forall₂_same]
      exact fun v hv => ih v hv hroot
    rw [box, ScriptValue.unbox_array, hitems, quiet]
    rfl

/-- A value of a type without the root class comes back from script as it was, each object
as the same handle. Of a NaN of the 32-bit format the payload is lost. -/
theorem values_come_back (h : v.IsOf t) (hroot : t.base ≠ .object) :
    v.box.unbox t = .ok v.quiet ∧ (¬v.HoldsNaN → v.box.unbox t = .ok v) := by
  have hunbox := unbox_box h hroot
  refine ⟨hunbox, fun hnumbers => ?_⟩
  rw [hunbox, v.quiet_of_numbers hnumbers]

namespace Sample

def shape : HostType := .mk { id := 2, name := "app/Shape", modifiers := { isInterface := true } }
  none []

def circle : HostType := .mk { id := 3, name := "app/Circle", modifiers := .onlyPublic }
  (some rootClass) [shape]

/-- A plain object and a pair of one class, null and an array without items. -/
def shapes : HostValue :=
  .array (.array (.reference "app/Shape"))
    [.array (.reference "app/Shape")
      [.object (.plain 0 circle), .object (.pair ⟨0, circle, ⟨0, "Wrapper", "Circle"⟩⟩), .null],
     .null, .array (.reference "app/Shape") []]

theorem shapes_isOf : shapes.IsOf (.array (.array (.reference "app/Shape"))) := by
  have hcircle (o : HostObject) (h : o.type = circle) :
      (HostValue.object o).IsOf (.reference "app/Shape") := by
    refine .object (by decide) ?_
    rw [HostObject.isInstanceOf, h]
    decide
  refine .array ?_
  simp only [List.forall_mem_cons]
  refine ⟨.array ?_, .nullArray, .array nofun, nofun⟩
  simp only [List.forall_mem_cons]
  exact ⟨hcircle _ rfl, hcircle _ rfl, .nullReference, nofun⟩

theorem shapes_hold_numbers : ¬shapes.HoldsNaN := by
  rintro (_ | ⟨hrow, hnan⟩)
  simp only [List.mem_cons, List.not_mem_nil, or_false] at hrow
  rcases hrow with rfl | rfl | rfl
  · obtain _ | ⟨hitem, hnan⟩ := hnan
    simp only [List.mem_cons, List.not_mem_nil, or_false] at hitem
    rcases hitem with rfl | rfl | rfl <;> cases hnan
  · cases hnan
  · obtain _ | ⟨hitem, -⟩ := hnan
    cases hitem

end Sample

open HostValue.Sample in
theorem shapes_come_back : shapes.IsOf (.array (.array (.reference "app/Shape"))) ∧
    Descriptor.base (.array (.array (.reference "app/Shape"))) ≠ .object ∧ ¬shapes.HoldsNaN ∧
    shapes.box.unbox (.array (.array (.reference "app/Shape"))) = .ok shapes :=
  have hroot : Descriptor.base (.array (.array (.reference "app/Shape"))) ≠ .object := by decide
  ⟨shapes_isOf, hroot, shapes_hold_numbers, (values_come_back shapes_isOf hroot).2 shapes_hold_numbers⟩

/-! ## Values that are passed -/

/-- What keeps a value from being unboxed to a type again. -/
inductive Obstructed : HostValue → Descriptor → Prop where
  /-- A host object is no text, whatever its class. -/
  | text (o : HostObject) : Obstructed (.object o) .string
  /-- The label of the array vouches for an item that does not conform. -/
  | vouched {element : Descriptor} {items : List HostValue} {v : HostValue} (hmem : v ∈ items)
    (hpass : v.passesAs element = false) (hfits : v.box.fits element = false) :
    Obstructed (.array element items) (.array element)
  | item {label element : Descriptor} {items : List HostValue} {v : HostValue} (hmem : v ∈ items)
    (h : Obstructed v element) : Obstructed (.array label items) (.array element)

theorem fits_box_array {label element : Descriptor} {items : List HostValue} :
    (box (.array label items)).fits (.array element) = true ↔
      ∀ v ∈ items, v.box.fits element = true := by
  rw [box, ScriptValue.fits_array, boxAll_eq_map, List.forall_mem_map]

theorem Obstructed.not_fits (h : v.Obstructed t) : v.box.fits t = false := by
  induction h with
  | text o =>
    cases o with
    | plain | pair => rw [box]; rfl
  | vouched hmem _ hfits =>
    rw [← Bool.not_eq_true, fits_box_array]
    exact fun hall => Bool.eq_false_iff.mp hfits (hall _ hmem)
  | item hmem _ ih =>
    rw [← Bool.not_eq_true, fits_box_array]
    exact fun hall => Bool.eq_false_iff.mp ih (hall _ hmem)

mutual

/-- Whatever was boxed can be unboxed to the root class. -/
theorem fits_box_root : (v : HostValue) → v.box.fits .object = true
  | .array _ items => by
    rw [box, ScriptValue.fits_array_object, boxAll_eq_map, List.forall_mem_map]
    exact fits_box_root_all items
  | .object (.plain ..) | .object (.pair _) => by rw [box]; rfl
  | .void | .null | .bool _ | .byte _ | .char _ | .short _ | .int _ | .long _ | .float _
  | .double _ | .string _ => by rw [box]; rfl

theorem fits_box_root_all : (vs : List HostValue) → ∀ v ∈ vs, v.box.fits .object = true
  | [] => nofun
  | v :: vs => List.forall_mem_cons.mpr ⟨fits_box_root v, fits_box_root_all vs⟩

end

theorem fits_of_unbox {u : HostValue} (h : v.box.unbox t = .ok u) : v.box.fits t = true :=
  ScriptValue.fits_iff.mpr ⟨u, h⟩

theorem allPassAs_iff {vs : List HostValue} :
    allPassAs vs t = true ↔ ∀ v ∈ vs, v.passesAs t = true := by
  induction vs with
  | nil => simp [allPassAs]
  | cons v vs ih => rw [allPassAs, Bool.and_eq_true, ih, List.forall_mem_cons]

/-- What may be passed as a class other than the root class. -/
theorem passesAs_reference {name : String} (hroot : name ≠ objectName)
    (h : v.passesAs (.reference name) = true) :
    v = .null ∨ (∃ s, v = .string s ∧ name = stringName) ∨
      ∃ o, v = .object o ∧ o.isInstanceOf name = true := by
  have hname : (name == objectName) = false := beq_false_of_ne hroot
  cases v with
  | null => exact .inl rfl
  | string s =>
    rw [passesAs, hname, Bool.false_or, beq_iff_eq] at h
    exact .inr (.inl ⟨s, rfl, h⟩)
  | object o =>
    rw [passesAs, hname, Bool.false_or] at h
    exact .inr (.inr ⟨o, rfl, h⟩)
  | _ => simp [passesAs, hname] at h

/-- What may be passed as an array. -/
theorem passesAs_array {element : Descriptor} (h : v.passesAs (.array element) = true) :
    v = .null ∨ ∃ label items, v = .array label items ∧
      (label = element ∨ ∀ u ∈ items, u.passesAs element = true) := by
  cases v with
  | null => exact .inl rfl
  | array label items =>
    rw [passesAs, Bool.or_eq_true, beq_iff_eq, allPassAs_iff] at h
    exact .inr ⟨label, items, rfl, h⟩
  | _ => simp [passesAs] at h

theorem fits_of_passesAs (h : v.passesAs t = true) (hfree : ¬v.Obstructed t) :
    v.box.fits t = true := by
  induction t generalizing v with
  | primitive kind =>
    rw [passesAs, beq_iff_eq] at h
    refine fits_of_unbox ((ScriptValue.unbox_primitive ..).trans (unboxPrimitive_box h))
  | reference name =>
    by_cases hroot : name = objectName
    · exact hroot ▸ v.fits_box_root
    obtain rfl | ⟨s, rfl, rfl⟩ | ⟨o, rfl, ho⟩ := passesAs_reference hroot h
    · rfl
    · exact fits_of_unbox (unbox_box_string s)
    · have hstring : name ≠ stringName := fun e => hfree (e ▸ .text o)
      exact fits_of_unbox (unbox_box_instance hstring hroot ho)
  | array element ih =>
    obtain rfl | ⟨label, items, rfl, hitems⟩ := passesAs_array h
    · rfl
    rw [fits_box_array]
    intro u hu
    by_cases hpass : u.passesAs element = true
    · exact ih hpass fun hu' => hfree (.item hu hu')
    · -- Not all items conform, so the array is let in by its label.
      obtain rfl := hitems.resolve_right fun hall => hpass (hall u hu)
      by_contra hfits
      exact hfree (.vouched hu (Bool.not_eq_true _ ▸ hpass) (Bool.not_eq_true _ ▸ hfits))

/-- A value that may be passed as a type can be unboxed to it again, unless it is, or an
array holds, a host object in the place of a text or an item that does not conform. -/
theorem passed_values_come_back_iff (h : v.passesAs t = true) :
    (∃ u, v.box.unbox t = .ok u) ↔ ¬v.Obstructed t := by
  rw [← ScriptValue.fits_iff]
  refine ⟨fun hfits hobstructed => ?_, fits_of_passesAs h⟩
  rw [hobstructed.not_fits] at hfits
  cases hfits

theorem labelled_by_root_comes_back :
    (array .object [.int 1, .int (-1)]).passesAs (.array (.primitive .int)) = true ∧
      ¬(array .object [.int 1, .int (-1)]).Obstructed (.array (.primitive .int)) :=
  ⟨by decide, (passed_values_come_back_iff (by decide)).mp ⟨_, rfl⟩⟩

/-- A host object of the string class may be passed as a text, and an array of texts that is
labelled as one of integers as such an array. Neither comes back. -/
theorem passed_values_refused :
    ((object (.plain 0 stringClass)).passesAs .string = true ∧
      (box (object (.plain 0 stringClass))).unbox .string =
        .error (.typeMismatch "host/String" "host/String")) ∧
    (array (.primitive .int) [.string "one"]).passesAs (.array (.primitive .int)) = true ∧
      (box (array (.primitive .int) [.string "one"])).unbox (.array (.primitive .int)) =
        .error (.notANumber "one") :=
  ⟨⟨by decide, rfl⟩, by decide, rfl⟩

end HostValue

end ScriptClass
