import ScriptClass.Proofs.Value.Conversion

/-!
# Values as objects of the root class

The root class takes every script value except functions and script objects that stand for no host
object, and arrays that hold one (`ScriptValue.Unhosted`). What it takes comes back as it was, but
that `undefined` has become null and the host handle of a pair its script object
(`ScriptValue.normal`), so nothing of a number, a text or the identity of an object is lost
(`root_takes_and_returns`).
-/

namespace ScriptClass

namespace ScriptValue

variable {v : ScriptValue} {h : HostValue}

/-- The value is or holds, however deep, a function or a script object without a host object. -/
inductive Unhosted : ScriptValue → Prop where
  | function (f : FunctionRef) : Unhosted (.function f)
  | object {o : ScriptObject} (h : o.host? = none) : Unhosted (.object o)
  | item {items : List ScriptValue} {v : ScriptValue} (hmem : v ∈ items) (h : Unhosted v) :
    Unhosted (.array items)

mutual

/-- The one of several values of script that host code cannot tell apart in which it comes back. -/
def normal : ScriptValue → ScriptValue
  | .undefined => .null
  | .native (.pair p) => .object (.pair p)
  | .array items => .array (normalAll items)
  | v => v

def normalAll : List ScriptValue → List ScriptValue
  | [] => []
  | v :: vs => v.normal :: normalAll vs

end

theorem unhosted_array {items : List ScriptValue} :
    Unhosted (.array items) ↔ ∃ v ∈ items, v.Unhosted :=
  ⟨fun | .item hmem h => ⟨_, hmem, h⟩, fun ⟨_, hmem, h⟩ => .item hmem h⟩

theorem unhosted_object {o : ScriptObject} : Unhosted (.object o) ↔ o.host? = none :=
  ⟨fun | .object h => h, .object⟩

/-- An object is taken by the root class if there is a host object behind it. -/
theorem fits_object_iff (o : ScriptObject) :
    (object o).fits .object = true ↔ ¬(object o).Unhosted := by
  rw [unhosted_object]
  cases o with
  | plain | facet => exact ⟨nofun, fun h => absurd rfl h⟩
  | pair => exact ⟨fun _ => nofun, fun _ => rfl⟩

mutual

theorem fits_root_iff : (v : ScriptValue) → (v.fits .object = true ↔ ¬v.Unhosted)
  | .array items => by
    rw [fits_array_object, unhosted_array, fits_root_all_iff items]
    exact ⟨fun h ⟨v, hmem, hv⟩ => h v hmem hv, fun h v hmem hv => h ⟨v, hmem, hv⟩⟩
  | .object o => fits_object_iff o
  | .function f => ⟨nofun, fun h => absurd (.function f) h⟩
  | .undefined | .null | .bool _ | .int _ | .float _ | .string _ | .native _ =>
    ⟨fun _ => nofun, fun _ => rfl⟩

theorem fits_root_all_iff : (vs : List ScriptValue) →
    ((∀ v ∈ vs, v.fits .object = true) ↔ ∀ v ∈ vs, ¬v.Unhosted)
  | [] => ⟨fun _ => nofun, fun _ => nofun⟩
  | v :: vs => by
    rw [List.forall_mem_cons, List.forall_mem_cons, fits_root_iff v, fits_root_all_iff vs]

end

/-- An integer is the same in the narrower host type that holds it. -/
theorem box_of_int {n : Int64} (hn : (int n).unbox .object = .ok h) : h.box = .int n := by
  have hnarrow : (if fitsBits 32 n then HostValue.int n.toInt32 else .long n) = h :=
    Except.ok.inj hn
  split at hnarrow
  next hfits => rw [← hnarrow, HostValue.box, toInt32_toInt64_of_fits hfits]
  next => rw [← hnarrow, HostValue.box]

mutual

theorem box_of_root : (v : ScriptValue) → {h : HostValue} → v.unbox .object = .ok h →
    h.box = v.normal
  | .array items, h, hv => by
    rw [unbox_array_object] at hv
    obtain ⟨hs, hitems, rfl⟩ := map_ok hv
    rw [HostValue.box, normal, boxAll_of_root items hitems]
  | .int n, h, hv => by simp only [box_of_int hv, normal]
  | .undefined, _, rfl | .null, _, rfl | .bool _, _, rfl | .float _, _, rfl | .string _, _, rfl
  | .object (.pair _), _, rfl | .native (.pair _), _, rfl | .native (.plain _ _), _, rfl => by
    simp only [HostValue.box, normal]

theorem boxAll_of_root : (vs : List ScriptValue) → {hs : List HostValue} →
    unboxAll vs .object = .ok hs → HostValue.boxAll hs = normalAll vs
  | [], _, rfl => by rw [HostValue.boxAll, normalAll]
  | v :: vs, hs, hvs => by
    obtain ⟨first, rest, hfirst, hrest, rfl⟩ := unboxAll_cons_ok hvs
    rw [HostValue.boxAll, normalAll, box_of_root v hfirst, boxAll_of_root vs hrest]

end

end ScriptValue

/-- The root class refuses exactly the values that are or hold something without a host object, and
what it takes comes back in its normal form. -/
theorem root_takes_and_returns (v : ScriptValue) :
    ((∃ e, v.unbox .object = .error e) ↔ v.Unhosted) ∧
    ∀ h, v.unbox .object = .ok h → h.box = v.normal := by
  refine ⟨?_, fun h hv => v.box_of_root hv⟩
  rw [← not_iff_not, ← v.fits_root_iff, ScriptValue.fits_iff]
  cases v.unbox .object with
  | error e => exact ⟨fun h => absurd ⟨e, rfl⟩ h, nofun⟩
  | ok h => exact ⟨fun _ => ⟨h, rfl⟩, fun _ => nofun⟩

namespace Sample

def mug : Pair := ⟨4, .mk { id := 3, name := "app/Mug", modifiers := .onlyPublic } none [],
  ⟨0, "Wrapper", "Mug"⟩⟩

/-- Integers on both sides of the 32-bit boundary, and the host handle of a pair in an array. -/
def mixed : ScriptValue :=
  .array [.int 2147483647, .int 2147483648, .undefined, .array [.native (.pair mug), .string ""]]

end Sample

open Sample in
theorem mixed_comes_back : ∃ h, mixed.unbox .object = .ok h ∧ h.box =
    .array [.int 2147483647, .int 2147483648, .null, .array [.object (.pair mug), .string ""]] :=
  ⟨.array .object [.int 2147483647, .long 2147483648, .null,
      .array .object [.object (.pair mug), .string ""]],
    rfl, (root_takes_and_returns mixed).2 _ rfl⟩

end ScriptClass
