import ScriptClass.Proofs.Dispatch.Table

/-!
# Numbering the handlers

What an id stands for follows from the id and the two counts (`Handler.numbered`). If there are ids
of 32 bits for all members, a table finds just that (`HandlerTable.lookup_eq_numbered`), the machine
arithmetic that numbers its places and looks up an id does not overflow (`ExactArithmetic`), and its
list runs through the ids from the first to the last (`HandlerTable.numbers_every_id`).
-/

namespace ScriptClass

/-- The handler of an id in a class of so many static and instance members. -/
def Handler.numbered (statics instances : Nat) (id : Int) : Handler :=
  if -statics ≤ id ∧ id ≤ -1 then .member .statics (-1 - id).toNat
  else if id = 1 then .constructor
  else if 2 ≤ id ∧ id ≤ instances + 1 then .member .instances (id - 2).toNat
  else .default

namespace Handler

variable (statics instances i : Nat)

theorem numbered_zero : numbered statics instances 0 = .default := by
  rw [numbered, if_neg (by omega), if_neg (by omega), if_neg (by omega)]

theorem numbered_one : numbered statics instances 1 = .constructor := by
  rw [numbered, if_neg (by omega), if_pos rfl]

theorem numbered_instances : numbered statics instances (2 + i) =
    if i < instances then .member .instances i else .default := by
  have hindex : (2 + (i : Int) - 2).toNat = i := by omega
  unfold numbered
  split
  · omega
  · split
    · omega
    · rw [hindex]
      exact ite_congr (propext (by omega)) (fun _ => rfl) fun _ => rfl

theorem numbered_statics : numbered statics instances (-1 - i) =
    if i < statics then .member .statics i else .default := by
  have hindex : (-1 - (-1 - (i : Int))).toNat = i := by omega
  unfold numbered
  rw [hindex]
  refine ite_congr (propext (by omega)) (fun _ => rfl) fun _ => ?_
  rw [if_neg (by omega), if_neg (by omega)]

end Handler

/-- Every id of 32 bits is that of no member, of the constructor or of a place. -/
theorem MemberId.place_cases (id : MemberId) : id = .default ∨ id = .constructor ∨
    (∃ i, i + 2 < 2 ^ 31 ∧ id = .ofIndex .instances i) ∨
      ∃ i, i < 2 ^ 31 ∧ id = .ofIndex .statics i := by
  have hlow := id.value.le_toInt
  have hhigh := id.value.toInt_lt
  have hid (n : Int) (hn : n = id.value.toInt) : id = ⟨Int32.ofInt n⟩ := by
    rw [hn, Int32.ofInt_toInt]
  rcases Int.lt_trichotomy id.value.toInt 0 with hneg | hzero | hpos
  · exact .inr (.inr (.inr ⟨(-1 - id.value.toInt).toNat, by omega, hid _ (by omega)⟩))
  · exact .inl (hid 0 hzero.symm)
  · by_cases hone : id.value.toInt = 1
    · exact .inr (.inl (hid 1 hone.symm))
    · exact .inr (.inr (.inl ⟨(id.value.toInt - 2).toNat, by omega, hid _ (by omega)⟩))

namespace HandlerTable

variable {statics instances place : Nat} {id : MemberId} {handler : Handler}

/-! ## Lookup -/

theorem lookup_eq_numbered (h : FitIds statics instances) (id : MemberId) :
    (ofCounts statics instances).lookup id =
      Handler.numbered statics instances id.value.toInt := by
  rcases id.place_cases with rfl | rfl | ⟨i, hi, rfl⟩ | ⟨i, hi, rfl⟩
  · rw [lookup_default h]
    exact (Handler.numbered_zero statics instances).symm
  · rw [lookup_constructor h]
    exact (Handler.numbered_one statics instances).symm
  · rw [lookup_instances h hi, MemberId.toInt_ofIndex_instances hi, Handler.numbered_instances]
  · rw [lookup_statics h hi, MemberId.toInt_ofIndex_statics hi, Handler.numbered_statics]

/-! ## Machine integers -/

/-- The arithmetic of a table, done in machine integers, gives the exact integers: negating the
number of static members and counting up from the first id in 32 bits, and measuring how far an id
lies from the first one in 64 bits. -/
structure ExactArithmetic (statics instances : Nat) : Prop where
  firstId : (ofCounts statics instances).firstId.value = -Int32.ofNat statics ∧
    (-Int32.ofNat statics).toInt = -statics
  /-- Beyond the last id is the place at the size. -/
  sum : ∀ place ≤ (ofCounts statics instances).size, (Int32.ofNat place).toInt = place ∧
    (-Int32.ofNat statics + Int32.ofNat place).toInt = place - statics
  idAt : ∀ place ≤ (ofCounts statics instances).size,
    ((ofCounts statics instances).idAt place).value = -Int32.ofNat statics + Int32.ofNat place
  lastId : (ofCounts statics instances).lastId.value =
      -Int32.ofNat statics + Int32.ofNat (ofCounts statics instances).size - 1 ∧
    (-Int32.ofNat statics + Int32.ofNat (ofCounts statics instances).size - 1).toInt = instances + 1
  offset : ∀ id : MemberId, (id.value.toInt64 - (-Int32.ofNat statics).toInt64).toInt =
    id.value.toInt - (ofCounts statics instances).firstId.value.toInt

theorem exactArithmetic (h : statics + instances + 2 < 2 ^ 31) :
    ExactArithmetic statics instances := by
  have hnegated : (-Int32.ofNat statics).toInt = -statics := by
    rw [Int32.toInt_neg, Int32.toInt_ofNat_of_lt (by omega)]
    exact Int.bmod_eq_of_le (by omega) (by omega)
  have hfirst : (ofCounts statics instances).firstId.value.toInt = -statics :=
    toInt_firstId ⟨by omega, by omega⟩
  have hsum (place : Nat) (hplace : place ≤ (ofCounts statics instances).size) :
      (Int32.ofNat place).toInt = place ∧
        (-Int32.ofNat statics + Int32.ofNat place).toInt = place - statics := by
    rw [size_ofCounts] at hplace
    have hcount : (Int32.ofNat place).toInt = place := Int32.toInt_ofNat_of_lt (by omega)
    refine ⟨hcount, ?_⟩
    rw [Int32.toInt_add, hnegated, hcount, Int.bmod_eq_of_le (by omega) (by omega)]
    omega
  have hlast : (-Int32.ofNat statics + Int32.ofNat (ofCounts statics instances).size - 1).toInt =
      instances + 1 := by
    rw [Int32.toInt_sub, (hsum _ (Nat.le_refl _)).2, size_ofCounts, Int32.toInt_one,
      Int.bmod_eq_of_le (by omega) (by omega)]
    omega
  refine ⟨⟨?_, hnegated⟩, hsum, fun place hplace => ?_, ⟨?_, hlast⟩, fun id => ?_⟩
  · rw [← Int32.toInt_inj, hfirst, hnegated]
  · rw [← Int32.toInt_inj, (hsum place hplace).2, idAt, hfirst]
    rw [size_ofCounts] at hplace
    rw [Int32.toInt_ofInt_of_le (by omega) (by omega)]
    omega
  · rw [← Int32.toInt_inj, hlast, toInt_lastId (by rw [size_ofCounts]; omega), hfirst,
      size_ofCounts]
    omega
  · have hlow := id.value.le_toInt
    have hhigh := id.value.toInt_lt
    rw [Int64.toInt_sub, Int32.toInt_toInt64, Int32.toInt_toInt64, hnegated, hfirst]
    exact Int.bmod_eq_of_le (by omega) (by omega)

/-! ## Enumeration -/

/-- The handler at a place is the one found for the id of the place. -/
theorem handlers_eq_lookup (hsize : (ofCounts statics instances).size < 2 ^ 31)
    (h : place < (ofCounts statics instances).size) :
    (ofCounts statics instances).handlers[place]? =
      some ((ofCounts statics instances).lookup ((ofCounts statics instances).idAt place)) := by
  have hoffset : ((ofCounts statics instances).idAt place).value.toInt -
      (ofCounts statics instances).firstId.value.toInt = place := by
    rw [toInt_idAt hsize h]
    omega
  rw [lookup, hoffset, if_neg (by omega), Int.toNat_natCast, List.getElem?_eq_getElem h,
    Option.getD_some]

theorem toList_eq (hsize : (ofCounts statics instances).size < 2 ^ 31) :
    (ofCounts statics instances).toList = (List.range (ofCounts statics instances).size).map
      fun place => ((ofCounts statics instances).idAt place,
        (ofCounts statics instances).lookup ((ofCounts statics instances).idAt place)) := by
  refine List.ext_getElem? fun place => ?_
  rw [toList, List.getElem?_map, List.getElem?_zipIdx, List.getElem?_map]
  by_cases h : place < (ofCounts statics instances).size
  · rw [handlers_eq_lookup hsize h, List.getElem?_range h, Option.map_some, Option.map_some,
      Option.map_some, Nat.zero_add]
  · have hrange : (List.range (ofCounts statics instances).size)[place]? = none :=
      List.getElem?_eq_none (by rw [List.length_range]; omega)
    rw [List.getElem?_eq_none (Nat.le_of_not_lt h), hrange]
    rfl

/-- The ids of the places are those from the first to the last. -/
theorem exists_idAt_iff (hsize : (ofCounts statics instances).size < 2 ^ 31) :
    (∃ place, place < (ofCounts statics instances).size ∧
      id = (ofCounts statics instances).idAt place) ↔
      (ofCounts statics instances).firstId.value ≤ id.value ∧
        id.value ≤ (ofCounts statics instances).lastId.value := by
  rw [Int32.le_iff_toInt_le, Int32.le_iff_toInt_le, toInt_lastId hsize]
  constructor
  · rintro ⟨place, hplace, rfl⟩
    rw [toInt_idAt hsize hplace]
    omega
  · rintro ⟨hfirst, hlast⟩
    obtain ⟨place, hplace⟩ := Int.eq_ofNat_of_zero_le (Int.sub_nonneg_of_le hfirst)
    have hid : (ofCounts statics instances).firstId.value.toInt + place = id.value.toInt := by omega
    refine ⟨place, by omega, ?_⟩
    rw [idAt, hid, Int32.ofInt_toInt]

theorem mem_toList (hsize : (ofCounts statics instances).size < 2 ^ 31) :
    (id, handler) ∈ (ofCounts statics instances).toList ↔
      (ofCounts statics instances).firstId.value ≤ id.value ∧
        id.value ≤ (ofCounts statics instances).lastId.value ∧
        handler = (ofCounts statics instances).lookup id := by
  rw [← and_assoc, ← exists_idAt_iff hsize, toList_eq hsize, List.mem_map]
  simp only [List.mem_range, Prod.mk.injEq]
  constructor
  · rintro ⟨place, hplace, rfl, rfl⟩
    exact ⟨⟨place, hplace, rfl⟩, rfl⟩
  · rintro ⟨⟨place, hplace, rfl⟩, rfl⟩
    exact ⟨place, hplace, rfl, rfl⟩

theorem pairwise_toList (hsize : (ofCounts statics instances).size < 2 ^ 31) :
    (ofCounts statics instances).toList.Pairwise fun a b => a.1.value < b.1.value := by
  rw [toList_eq hsize, List.pairwise_map]
  refine List.pairwise_lt_range.imp_of_mem fun {i j} hi hj hlt => ?_
  rw [Int32.lt_iff_toInt_lt, toInt_idAt hsize (List.mem_range.mp hi),
    toInt_idAt hsize (List.mem_range.mp hj)]
  omega

/-- A table of members that have ids of 32 bits says of every id what it stands for, computes with
no overflow, and lists the ids from the first to the last once each, in ascending order, with the
handlers that it finds for them. -/
theorem numbers_every_id {statics instances : Nat} (h : statics + instances + 2 < 2 ^ 31) :
    (∀ id, (ofCounts statics instances).lookup id =
      Handler.numbered statics instances id.value.toInt) ∧
    ExactArithmetic statics instances ∧
    (ofCounts statics instances).toList.Pairwise (fun a b => a.1.value < b.1.value) ∧
    ∀ id handler, (id, handler) ∈ (ofCounts statics instances).toList ↔
      (ofCounts statics instances).firstId.value ≤ id.value ∧
        id.value ≤ (ofCounts statics instances).lastId.value ∧
        handler = (ofCounts statics instances).lookup id := by
  have hsize : (ofCounts statics instances).size < 2 ^ 31 := by
    rw [size_ofCounts]
    omega
  exact ⟨lookup_eq_numbered ⟨by omega, by omega⟩, exactArithmetic h, pairwise_toList hsize,
    fun _ _ => mem_toList hsize⟩

end HandlerTable

open HandlerTable in
/-- Two static and three instance members, and the ids at both ends of 32 bits. -/
theorem small_table_numbers :
    2 + 3 + 2 < 2 ^ 31 ∧ (ofCounts 2 3).lookup ⟨-2⟩ = .member .statics 1 ∧
      (ofCounts 2 3).lookup ⟨4⟩ = .member .instances 2 ∧
      (ofCounts 2 3).lookup ⟨Int32.minValue⟩ = .default ∧
      (ofCounts 2 3).lookup ⟨Int32.maxValue⟩ = .default ∧
      (⟨4⟩, .member .instances 2) ∈ (ofCounts 2 3).toList := by
  have hsum : 2 + 3 + 2 < 2 ^ 31 := by decide
  obtain ⟨hlookup, -, -, hmem⟩ := numbers_every_id hsum
  have hlast : (ofCounts 2 3).lookup ⟨4⟩ = .member .instances 2 := hlookup ⟨4⟩
  exact ⟨hsum, hlookup ⟨-2⟩, hlast, hlookup ⟨Int32.minValue⟩, hlookup ⟨Int32.maxValue⟩,
    (hmem _ _).mpr ⟨by decide, by decide, hlast.symm⟩⟩

end ScriptClass
