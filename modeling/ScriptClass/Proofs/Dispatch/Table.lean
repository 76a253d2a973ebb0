import ScriptClass.Dispatch.Table
import Mathlib.Algebra.Group.Nat.Defs

/-!
# Reading dispatch tables

A table of so many static and instance members sends the id of each of them to
its place, the constructor's id to the constructor and every other id to the
default, as long as the ids fit into 32 bits (`FitIds`).
-/

namespace ScriptClass

/-- So many static and instance members have ids of 32 bits; numbering more of them
overflows. -/
def FitIds (statics instances : Nat) : Prop := statics ≤ 2 ^ 31 ∧ instances + 2 ≤ 2 ^ 31

namespace MemberId

theorem toInt_ofIndex_instances {i : Nat} (h : i + 2 < 2 ^ 31) :
    (ofIndex .instances i).value.toInt = 2 + i :=
  Int32.toInt_ofInt_of_le (by omega) (by omega)

theorem toInt_ofIndex_statics {i : Nat} (h : i < 2 ^ 31) :
    (ofIndex .statics i).value.toInt = -1 - i :=
  Int32.toInt_ofInt_of_le (by omega) (by omega)

end MemberId

namespace HandlerTable

variable {statics instances : Nat}

theorem toInt_firstId (h : FitIds statics instances) :
    (ofCounts statics instances).firstId.value.toInt = -statics :=
  Int32.toInt_ofInt_of_le (by have := h.1; omega) (by omega)

theorem size_ofCounts : (ofCounts statics instances).size = statics + 2 + instances := by
  simp only [size, ofCounts, List.length_append, List.length_map, List.length_reverse,
    List.length_range, List.length_cons, List.length_nil]

/-- Counting up from the first id does not overflow if the table's size has 32 bits. -/
theorem toInt_idAt (hsize : (ofCounts statics instances).size < 2 ^ 31) {place : Nat}
    (h : place < (ofCounts statics instances).size) :
    ((ofCounts statics instances).idAt place).value.toInt =
      (ofCounts statics instances).firstId.value.toInt + place := by
  rw [size_ofCounts] at hsize h
  have hfirst : (ofCounts statics instances).firstId.value.toInt = -statics :=
    toInt_firstId ⟨by omega, by omega⟩
  rw [idAt, hfirst]
  exact Int32.toInt_ofInt_of_le (by omega) (by omega)

theorem toInt_lastId (hsize : (ofCounts statics instances).size < 2 ^ 31) :
    (ofCounts statics instances).lastId.value.toInt =
      (ofCounts statics instances).firstId.value.toInt + (ofCounts statics instances).size - 1 := by
  have hsome : 0 < (ofCounts statics instances).size := by
    rw [size_ofCounts]
    omega
  have hplace : ((ofCounts statics instances).firstId.value.toInt +
      (ofCounts statics instances).size - 1) = (ofCounts statics instances).firstId.value.toInt +
        ((ofCounts statics instances).size - 1 : Nat) := by
    omega
  rw [lastId, hplace]
  exact toInt_idAt hsize (Nat.sub_lt hsome Nat.one_pos)

/-- A member of the class itself stands before the default. -/
theorem handlers_statics {i : Nat} (h : i < statics) :
    (ofCounts statics instances).handlers[statics - 1 - i]? = some (.member .statics i) := by
  have hlt : statics - 1 - i < ((List.range statics).reverse.map (Handler.member .statics)).length := by
    simp only [List.length_map, List.length_reverse, List.length_range]
    omega
  rw [ofCounts, List.append_assoc, List.getElem?_append_left hlt, List.getElem?_map,
    List.getElem?_reverse (by rw [List.length_range]; omega), List.length_range]
  have hi : statics - 1 - (statics - 1 - i) = i := by omega
  rw [hi, List.getElem?_range h]
  rfl

/-- From the default on, the table no longer depends on the static members. -/
theorem handlers_add (n : Nat) :
    (ofCounts statics instances).handlers[statics + n]? =
      ([.default, .constructor] ++ (List.range instances).map (Handler.member .instances))[n]? := by
  rw [ofCounts, List.append_assoc, List.getElem?_append_right (by simp)]
  simp

/-- What a table says of an id that lies `n` from the default. -/
theorem lookup_of_toInt (h : FitIds statics instances) {id : MemberId} {n : Nat}
    (hid : id.value.toInt = n) :
    (ofCounts statics instances).lookup id =
      (([.default, .constructor] ++
        (List.range instances).map (Handler.member .instances))[n]?).getD .default := by
  have hoffset : id.value.toInt - (ofCounts statics instances).firstId.value.toInt =
      ((statics + n : Nat) : Int) := by
    rw [toInt_firstId h, hid]
    omega
  simp only [lookup, hoffset, Int.toNat_natCast, handlers_add]
  rw [if_neg (by omega)]

theorem lookup_default (h : FitIds statics instances) :
    (ofCounts statics instances).lookup .default = .default :=
  lookup_of_toInt (n := 0) h rfl

theorem lookup_constructor (h : FitIds statics instances) :
    (ofCounts statics instances).lookup .constructor = .constructor :=
  lookup_of_toInt (n := 1) h rfl

/-- An instance member has its place, and an id beyond them has none. -/
theorem lookup_instances (h : FitIds statics instances) {i : Nat} (hi : i + 2 < 2 ^ 31) :
    (ofCounts statics instances).lookup (.ofIndex .instances i) =
      if i < instances then .member .instances i else .default := by
  have hid : (MemberId.ofIndex .instances i).value.toInt = ((2 + i : Nat) : Int) := by
    rw [MemberId.toInt_ofIndex_instances hi]
    omega
  rw [lookup_of_toInt h hid, List.getElem?_append_right (by simp)]
  simp only [List.length_cons, List.length_nil, Nat.add_sub_cancel_left, List.getElem?_map]
  split
  next hlt => rw [List.getElem?_range hlt]; rfl
  next hge => rw [List.getElem?_eq_none (by rw [List.length_range]; omega)]; rfl

/-- A static member has its place, and an id beyond them has none. -/
theorem lookup_statics (h : FitIds statics instances) {i : Nat} (hi : i < 2 ^ 31) :
    (ofCounts statics instances).lookup (.ofIndex .statics i) =
      if i < statics then .member .statics i else .default := by
  simp only [lookup, toInt_firstId h, MemberId.toInt_ofIndex_statics hi]
  split
  next hlt => rw [if_neg (by omega)]
  next hge =>
    have hn : (-1 - (i : Int) - -(statics : Int)).toNat = statics - 1 - i := by omega
    rw [hn, handlers_statics (by omega), if_pos (by omega)]
    rfl

end HandlerTable

end ScriptClass
