import ScriptClass.Value.Conversion
import ScriptClass.Proofs.Number.Rounding
import Mathlib.Data.List.Forall2

/-!
# Boxing and unboxing, case by case

The equations by which the proofs about conversions go: an integer that fits fewer bits is
not changed by narrowing it (`bmod_of_fits`), arrays are converted item by item
(`unboxAll_ok`, `fits_array`), a boxed object leads back to its handle (`host?_box`) and
a boxed primitive is unboxed to itself (`unboxPrimitive_box`), except that the payload of
a NaN of the 32-bit format is lost (`HostValue.quiet`). What is unboxed has the form that was
asked for (`primitive?_of_unboxPrimitive`, `unboxString_ok`, `unboxInstance_ok`).
-/

namespace ScriptClass

theorem ScriptValue.unbox_void (v : ScriptValue) : v.unbox (.primitive .void) = .ok .void := by
  rw [unbox]
  rfl

theorem HostValue.boxAll_eq_map (vs : List HostValue) : boxAll vs = vs.map box := by
  induction vs with
  | nil => rw [boxAll, List.map_nil]
  | cons v vs ih => rw [boxAll, List.map_cons, ih]

/-! ## Integers of fewer bits -/

section Narrow

variable {bits : Nat} {n : Int64}

theorem fitsBits_iff : fitsBits bits n = true ↔
    -(2 ^ (bits - 1) : Int) ≤ n.toInt ∧ n.toInt < 2 ^ (bits - 1) := by
  simp only [fitsBits, Number.twoTo_eq, Nat.cast_pow, Nat.cast_ofNat, Bool.and_eq_true,
    decide_eq_true_eq]

theorem bmod_of_fits (h : fitsBits (bits + 1) n = true) :
    n.toInt.bmod (2 ^ (bits + 1)) = n.toInt := by
  obtain ⟨hlow, hhigh⟩ := fitsBits_iff.mp h
  rw [Nat.add_sub_cancel] at hlow hhigh
  apply Int.bmod_eq_of_le <;> push_cast <;> omega

theorem fitsBits_int8 (m : Int8) : fitsBits 8 m.toInt64 = true :=
  fitsBits_iff.mpr ⟨by simpa using m.le_toInt, by simpa using m.toInt_lt⟩

theorem fitsBits_int16 (m : Int16) : fitsBits 16 m.toInt64 = true :=
  fitsBits_iff.mpr ⟨by simpa using m.le_toInt, by simpa using m.toInt_lt⟩

theorem fitsBits_int32 (m : Int32) : fitsBits 32 m.toInt64 = true :=
  fitsBits_iff.mpr ⟨by simpa using m.le_toInt, by simpa using m.toInt_lt⟩

theorem fitsBits_int64 (n : Int64) : fitsBits 64 n = true :=
  fitsBits_iff.mpr ⟨n.le_toInt, n.toInt_lt⟩

theorem toInt8_toInt64_of_fits (h : fitsBits 8 n = true) : n.toInt8.toInt64 = n := by
  rw [← Int64.toInt_inj, Int8.toInt_toInt64, Int64.toInt_toInt8, bmod_of_fits h]

theorem toInt16_toInt64_of_fits (h : fitsBits 16 n = true) : n.toInt16.toInt64 = n := by
  rw [← Int64.toInt_inj, Int16.toInt_toInt64, Int64.toInt_toInt16, bmod_of_fits h]

theorem toInt32_toInt64_of_fits (h : fitsBits 32 n = true) : n.toInt32.toInt64 = n := by
  rw [← Int64.toInt_inj, Int32.toInt_toInt64, Int64.toInt_toInt32, bmod_of_fits h]

end Narrow

namespace ScriptValue

variable {v : ScriptValue} {vs : List ScriptValue} {t : Descriptor}

theorem unbox_primitive (v : ScriptValue) (kind : Primitive) :
    v.unbox (.primitive kind) = v.unboxPrimitive kind := by
  rw [unbox]

theorem unbox_array (vs : List ScriptValue) (t : Descriptor) :
    (array vs).unbox (.array t) = (unboxAll vs t).map (.array t) := by
  rw [unbox]

theorem unbox_array_object (vs : List ScriptValue) :
    (array vs).unbox .object = (unboxAll vs .object).map (.array .object) := by
  rw [Descriptor.object, unbox]
  rfl

theorem unbox_null (h : t.isReference = true) : null.unbox t = .ok .null := by
  cases t with
  | primitive => cases h
  | reference | array => simp only [unbox]

/-- Arrays are unboxed item by item. -/
theorem unboxAll_ok {hs : List HostValue} :
    unboxAll vs t = .ok hs ↔ List.Forall₂ (fun v h => v.unbox t = .ok h) vs hs := by
  induction vs generalizing hs with
  | nil =>
    rw [unboxAll, List.forall₂_nil_left_iff]
    exact ⟨fun h => (Except.ok.inj h).symm, fun h => h ▸ rfl⟩
  | cons v vs ih =>
    rw [unboxAll, List.forall₂_cons_left_iff]
    constructor
    · intro h
      split at h
      · cases h
      next first hfirst =>
        split at h
        · cases h
        next rest hrest =>
          cases h
          exact ⟨first, rest, hfirst, ih.mp hrest, rfl⟩
    · rintro ⟨first, rest, hfirst, hrest, rfl⟩
      simp only [hfirst, ih.mpr hrest]

theorem fits_iff : v.fits t = true ↔ ∃ h, v.unbox t = .ok h := by
  rw [fits]
  cases v.unbox t with
  | error e => exact ⟨nofun, nofun⟩
  | ok h => exact ⟨fun _ => ⟨h, rfl⟩, fun _ => rfl⟩

theorem isOk_map {α β : Type} {f : α → β} {x : Except ConversionError α} :
    (x.map f).isOk = x.isOk := by
  cases x <;> rfl

theorem isOk_unboxAll : (unboxAll vs t).isOk = true ↔ ∀ v ∈ vs, v.fits t = true := by
  induction vs with
  | nil => simp [unboxAll, Except.isOk, Except.toBool]
  | cons v vs ih =>
    rw [unboxAll, List.forall_mem_cons, ← ih, fits]
    cases v.unbox t with
    | error e => exact ⟨nofun, nofun⟩
    | ok h => cases unboxAll vs t <;> simp [Except.isOk, Except.toBool]

/-- An array fits an array type if each of its items fits the element type. -/
theorem fits_array : (array vs).fits (.array t) = true ↔ ∀ v ∈ vs, v.fits t = true := by
  rw [fits, unbox_array, isOk_map, isOk_unboxAll]

theorem fits_array_object :
    (array vs).fits .object = true ↔ ∀ v ∈ vs, v.fits .object = true := by
  rw [fits, unbox_array_object, isOk_map, isOk_unboxAll]

/-! ## What is unboxed -/

section Unboxed

variable {h : HostValue} {kind : Primitive} {name : String}

theorem map_ok {α β : Type} {f : α → β} {e : Except ConversionError α} {b : β}
    (hmap : e.map f = .ok b) : ∃ a, e = .ok a ∧ f a = b := by
  cases e with
  | error => cases hmap
  | ok a => exact ⟨a, rfl, Except.ok.inj hmap⟩

theorem primitive?_of_unboxChar (hv : v.unboxChar = .ok h) : h.primitive? = some .char := by
  cases v with
  | string s =>
    rw [unboxChar] at hv
    generalize s.toList = cs at hv
    rcases cs with _ | ⟨c, _ | ⟨d, cs⟩⟩ <;> cases hv
    rfl
  | int n =>
    rw [unboxChar] at hv
    by_cases hn : 0 ≤ n.toInt ∧ n.toInt.toNat.isValidChar
    · rw [dif_pos hn] at hv
      cases hv
      rfl
    · rw [dif_neg hn] at hv
      cases hv
  | _ => cases hv

theorem bind_ok_iff {α β : Type} {f : α → Except ConversionError β} {e : Except ConversionError α}
    {b : β} : e >>= f = .ok b ↔ ∃ a, e = .ok a ∧ f a = .ok b := by
  cases e with
  | error => exact ⟨nofun, nofun⟩
  | ok a => exact ⟨fun h => ⟨a, rfl, h⟩, fun ⟨_, ha, h⟩ => Except.ok.inj ha ▸ h⟩

/-- A value is unboxed to a primitive of just the kind that is asked for. -/
theorem primitive?_of_unboxPrimitive (hv : v.unboxPrimitive kind = .ok h) :
    h.primitive? = some kind := by
  unfold unboxPrimitive at hv
  split at hv
  next hvoid =>
    cases hv
    exact congrArg some hvoid.symm
  next =>
    split at hv
    · cases hv
    · cases kind with
      | void =>
        cases hv
        rfl
      | bool =>
        rw [unboxPresent] at hv
        split at hv <;> cases hv
        rfl
      | char => exact primitive?_of_unboxChar hv
      | byte | short | int | long =>
        obtain ⟨n, -, rfl⟩ := map_ok hv
        rfl
      | float | double =>
        obtain ⟨n, -, rfl⟩ := map_ok hv
        cases n <;> rfl

theorem unboxString_ok (hv : v.unboxString = .ok h) : ∃ s, h = .string s := by
  cases v <;> cases hv <;> exact ⟨_, rfl⟩

theorem unboxInstance_ok (hv : v.unboxInstance name = .ok h) :
    ∃ o, v.host? = some o ∧ o.isInstanceOf name = true ∧ h = .object o := by
  unfold unboxInstance at hv
  split at hv
  next o ho =>
    split at hv
    next hinstance =>
      cases hv
      exact ⟨o, ho, hinstance, rfl⟩
    next => cases hv
  next => cases hv

theorem unboxAll_cons_ok {v : ScriptValue} {vs : List ScriptValue} {hs : List HostValue}
    (h : unboxAll (v :: vs) t = .ok hs) :
    ∃ first rest, v.unbox t = .ok first ∧ unboxAll vs t = .ok rest ∧ hs = first :: rest := by
  obtain ⟨first, rest, hfirst, hrest, rfl⟩ := List.forall₂_cons_left_iff.mp (unboxAll_ok.mp h)
  exact ⟨first, rest, hfirst, unboxAll_ok.mpr hrest, rfl⟩

/-- Arguments are unboxed one by one, each to the type of its place. -/
theorem unboxArguments_cons_ok {ts : List Descriptor} {hs : List HostValue}
    (h : unboxArguments (v :: vs) (t :: ts) = .ok hs) :
    ∃ first rest, v.unbox t = .ok first ∧ unboxArguments vs ts = .ok rest ∧ hs = first :: rest := by
  rw [unboxArguments] at h
  cases hfirst : v.unbox t with
  | error e =>
    rw [hfirst] at h
    cases h
  | ok first =>
    cases hrest : unboxArguments vs ts with
    | error e =>
      rw [hfirst, hrest] at h
      cases h
    | ok rest =>
      rw [hfirst, hrest] at h
      cases h
      exact ⟨first, rest, rfl, rfl, rfl⟩

end Unboxed

end ScriptValue

namespace HostValue

/-! ## The payload of a NaN -/

mutual

/-- The value, with the canonical NaN for every NaN of the 32-bit format. -/
def quiet : HostValue → HostValue
  | .float x => .float x.quiet
  | .array element items => .array element (quietAll items)
  | v => v

def quietAll : List HostValue → List HostValue
  | [] => []
  | v :: vs => v.quiet :: quietAll vs

end

theorem quietAll_eq_map (vs : List HostValue) : quietAll vs = vs.map quiet := by
  induction vs with
  | nil => rw [quietAll, List.map_nil]
  | cons v vs ih => rw [quietAll, List.map_cons, ih]

/-- A NaN of the 32-bit format is the value or one of its items, however deep. -/
inductive HoldsNaN : HostValue → Prop
  | float {x : Number.Single} (h : x.isNaN = true) : HoldsNaN (.float x)
  | item {element : Descriptor} {items : List HostValue} {v : HostValue} (hmem : v ∈ items)
    (h : HoldsNaN v) : HoldsNaN (.array element items)

mutual

theorem quiet_of_numbers : (v : HostValue) → ¬v.HoldsNaN → v.quiet = v
  | .float x, h => by
    have hnumber : x.isNaN = false := Bool.not_eq_true _ ▸ mt HoldsNaN.float h
    rw [quiet, Number.Single.quiet_of_number hnumber]
  | .array element items, h => by
    rw [quiet, quietAll_of_numbers items fun v hv hnan => h (.item hv hnan)]
  | .void, _ | .null, _ | .bool _, _ | .byte _, _ | .char _, _ | .short _, _ | .int _, _
  | .long _, _ | .double _, _ | .string _, _ | .object _, _ => by simp only [quiet]

theorem quietAll_of_numbers : (vs : List HostValue) → (∀ v ∈ vs, ¬v.HoldsNaN) → quietAll vs = vs
  | [], _ => by rw [quietAll]
  | v :: vs, h => by
    rw [quietAll, quiet_of_numbers v (h v List.mem_cons_self),
      quietAll_of_numbers vs fun u hu => h u (List.mem_cons_of_mem _ hu)]

end

/-! ## Boxed values -/

theorem host?_box (o : HostObject) : (box (.object o)).host? = some o := by
  cases o with
  | plain => rw [box]; rfl
  | pair => rw [box]; rfl

/-- An integer that lies in the range of so many bits is taken as it is. -/
theorem toInteger_int {kind : Primitive} {bits : Nat} {n : Int64} (h : fitsBits bits n = true) :
    (ScriptValue.int n).toInteger kind bits = .ok n := by
  show (if fitsBits bits n then Except.ok n else _) = _
  rw [if_pos h]

theorem unboxPrimitive_present (v : ScriptValue) (kind : Primitive) (hkind : kind ≠ .void)
    (hpresent : v.isNullish = false) : v.unboxPrimitive kind = v.unboxPresent kind := by
  rw [ScriptValue.unboxPrimitive, if_neg hkind, hpresent, if_neg Bool.false_ne_true]

/-- A primitive comes back from script as it was: an integer still lies in the range of its
width, and widening loses nothing of a number. -/
theorem unboxPrimitive_box {v : HostValue} {kind : Primitive} (h : v.primitive? = some kind) :
    v.box.unboxPrimitive kind = .ok v.quiet := by
  cases v with
  | void | bool | double => cases h; rfl
  | byte n =>
    cases h
    rw [box, unboxPrimitive_present _ .byte nofun rfl, ScriptValue.unboxPresent,
      toInteger_int (fitsBits_int8 n), Except.map, Int8.toInt8_toInt64]
    rfl
  | short n =>
    cases h
    rw [box, unboxPrimitive_present _ .short nofun rfl, ScriptValue.unboxPresent,
      toInteger_int (fitsBits_int16 n), Except.map, Int16.toInt16_toInt64]
    rfl
  | int n =>
    cases h
    rw [box, unboxPrimitive_present _ .int nofun rfl, ScriptValue.unboxPresent,
      toInteger_int (fitsBits_int32 n), Except.map, Int32.toInt32_toInt64]
    rfl
  | long n =>
    cases h
    rw [box, unboxPrimitive_present _ .long nofun rfl, ScriptValue.unboxPresent,
      toInteger_int (fitsBits_int64 n), Except.map]
    rfl
  | float x =>
    cases h
    rw [box, unboxPrimitive_present _ .float nofun rfl, ScriptValue.unboxPresent, quiet,
      ← x.toSingle_toDouble]
    rfl
  | char c =>
    cases h
    rw [box, unboxPrimitive_present _ .char nofun rfl, ScriptValue.unboxPresent]
    simp only [ScriptValue.unboxChar, String.toList_singleton, quiet]
  | null | string | array | object => cases h

end HostValue

end ScriptClass
