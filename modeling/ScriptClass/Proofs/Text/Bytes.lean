import ScriptClass.Scanner

/-!
# Offsets and characters

An offset is a character boundary exactly if it stands behind the bytes of some of the characters
(`isBoundary_iff`). What stands there is then known from the characters that follow: the bytes from
there on, the text up to another boundary, and the next boundary (`Splits`).

The first byte of a character is the character itself if that is one of ASCII, and is none of ASCII
otherwise (`exists_lead`). So a byte that looks like one of ASCII always is one.
-/

namespace ScriptClass.Text

open Descriptor (byteLength dropBytes)

/-! ## Bytes -/

theorem octets_eq (text : String) : octets text = text.toList.flatMap octetsOf := by
  rw [octets, ← String.utf8Encode_toList, List.utf8Encode, List.toList_data_toByteArray,
    List.map_flatMap]
  rfl

theorem length_octetsOf (c : Char) : (octetsOf c).length = c.utf8Size := by
  rw [octetsOf, List.length_map, String.length_utf8EncodeChar]

theorem length_flatMap_octetsOf (cs : List Char) :
    (cs.flatMap octetsOf).length = byteLength cs := by
  induction cs with
  | nil => rfl
  | cons c cs ih =>
    rw [List.flatMap_cons, List.length_append, ih, length_octetsOf, byteLength]

theorem size_utf8Encode (cs : List Char) : cs.utf8Encode.size = byteLength cs := by
  rw [← length_flatMap_octetsOf, ← String.toList_ofList (l := cs), ← octets_eq,
    String.toList_ofList, octets, List.length_map, Array.length_toList, ByteArray.size_data, String.toByteArray_ofList]

theorem byteLength_toList (text : String) : byteLength text.toList = text.utf8ByteSize := by
  rw [← size_utf8Encode, String.utf8Encode_toList, String.size_toByteArray]

theorem byteLength_append (xs ys : List Char) :
    byteLength (xs ++ ys) = byteLength xs + byteLength ys := by
  rw [← size_utf8Encode, List.utf8Encode_append, ByteArray.size_append, size_utf8Encode,
    size_utf8Encode]

theorem byteLength_pos {cs : List Char} (h : cs ≠ []) : 0 < byteLength cs := by
  cases cs with
  | nil => exact absurd rfl h
  | cons c cs => exact Nat.add_pos_left c.utf8Size_pos _

theorem toNat_ofUInt8 (b : UInt8) : (Char.ofUInt8 b).toNat = b.toNat := UInt8.toNat_toUInt32 b

theorem octetsOf_ascii {c : Char} (h : c.toNat < 0x80) : octetsOf c = [c] := by
  have hsize : c.utf8Size = 1 :=
    Char.utf8Size_eq_one_iff.mpr (UInt32.le_iff_toNat_le.mpr (Nat.le_of_lt_succ h))
  have hcode : (Char.ofUInt8 c.val.toUInt8).toNat = c.toNat := by
    rw [toNat_ofUInt8, UInt32.toNat_toUInt8]
    exact Nat.mod_eq_of_lt (Nat.lt_trans h (by decide))
  rw [octetsOf, String.utf8EncodeChar_eq_singleton hsize, List.map_singleton,
    Char.toNat_inj.mp hcode]

theorem octetsOf_of_le {c : Char} (h : 0x80 ≤ c.toNat) :
    ∃ lead tail, octetsOf c = lead :: tail ∧ 0x80 ≤ lead.toNat := by
  have hlead {low mark : Nat} (tail : List UInt8) (hmark : 0x80 ≤ mark) (hbyte : low + mark < 256) :
      ∃ lead rest, (UInt8.ofNat (low + mark) :: tail).map Char.ofUInt8 = lead :: rest ∧
        0x80 ≤ lead.toNat := by
    refine ⟨_, _, List.map_cons, ?_⟩
    rw [toNat_ofUInt8, UInt8.toNat_ofNat_of_lt' hbyte]
    omega
  unfold octetsOf
  fun_cases String.utf8EncodeChar c with
  | case1 v hone => exact absurd h (Nat.not_le.mpr (Nat.lt_succ_of_le hone))
  | case2 v => exact hlead _ (by decide) (by omega)
  | case3 v => exact hlead _ (by decide) (by omega)
  | case4 v => exact hlead _ (by decide) (by omega)

/-- Looking at the first byte is as good as looking at the character, to tell whether it is a
certain one of ASCII. -/
theorem exists_lead (c : Char) : ∃ lead tail, octetsOf c = lead :: tail ∧
    ∀ d : Char, d.toNat < 0x80 → (lead = d ↔ c = d) := by
  by_cases h : c.toNat < 0x80
  · exact ⟨c, [], octetsOf_ascii h, fun d _ => Iff.rfl⟩
  · obtain ⟨lead, tail, hoctets, hle⟩ := octetsOf_of_le (Nat.le_of_not_lt h)
    refine ⟨lead, tail, hoctets, fun d hd => iff_of_false ?_ ?_⟩
    · rintro rfl
      omega
    · rintro rfl
      omega

/-- A run of one character of ASCII is as long in bytes. -/
theorem takeWhile_octets {d : Char} (hd : d.toNat < 0x80) (cs : List Char) :
    (cs.flatMap octetsOf).takeWhile (· == d) = cs.takeWhile (· == d) := by
  induction cs with
  | nil => rfl
  | cons c cs ih =>
    rw [List.flatMap_cons]
    by_cases hc : c = d
    · rw [hc, octetsOf_ascii hd, List.singleton_append, List.takeWhile_cons, List.takeWhile_cons,
        ih]
    · obtain ⟨lead, tail, hoctets, hlead⟩ := exists_lead c
      have hstop : ¬(lead == d) = true := fun h => hc ((hlead d hd).mp (beq_iff_eq.mp h))
      rw [hoctets, List.cons_append, List.takeWhile_cons, if_neg hstop, List.takeWhile_cons,
        if_neg (mt beq_iff_eq.mp hc)]

theorem offsetOf?_ofList (c : Char) (cs : List Char) : offsetOf? c (String.ofList cs) =
    if c ∈ cs then some (byteLength (cs.takeWhile (· != c))) else none := by
  rw [offsetOf?, String.toList_ofList, ← byteLength_toList, String.toList_ofList]

/-! ## Boundaries -/

/-- The offset stands between these characters of the text. -/
structure Splits (text : String) (offset : Nat) (before after : List Char) : Prop where
  eq_append : text.toList = before ++ after
  offset_eq : offset = byteLength before

theorem isBoundary_iff {text : String} {offset : Nat} :
    IsBoundary text offset ↔ ∃ before after, Splits text offset before after := by
  rw [IsBoundary, String.Pos.Raw.isValid_iff_exists_append]
  constructor
  · rintro ⟨s, t, rfl, h⟩
    refine ⟨s.toList, t.toList, String.toList_append, ?_⟩
    rw [byteLength_toList]
    exact congrArg String.Pos.Raw.byteIdx h
  · rintro ⟨before, after, happend, rfl⟩
    refine ⟨String.ofList before, String.ofList after, ?_, ?_⟩
    · rw [← String.ofList_append, ← happend, String.ofList_toList]
    · rw [String.Pos.Raw.ext_iff, String.byteIdx_rawEndPos, ← byteLength_toList,
        String.toList_ofList]

theorem splits_start (text : String) : Splits text 0 [] text.toList := ⟨rfl, rfl⟩

namespace Splits

variable {text other : String} {offset stop : Nat} {before before' mid after rest : List Char}
  {c : Char}

theorem isBoundary (h : Splits text offset before after) : IsBoundary text offset :=
  isBoundary_iff.mpr ⟨before, after, h⟩

theorem advance (mid : List Char) (h : Splits text offset before (mid ++ after)) :
    Splits text (offset + byteLength mid) (before ++ mid) after where
  eq_append := by rw [h.eq_append, List.append_assoc]
  offset_eq := by rw [h.offset_eq, byteLength_append]

theorem utf8ByteSize_eq (h : Splits text offset before after) :
    text.utf8ByteSize = offset + byteLength after := by
  rw [← byteLength_toList, h.eq_append, byteLength_append, h.offset_eq]

/-- An offset is what the characters that follow leave of the text. -/
theorem byteLength_sub (h : Splits text offset before after) :
    byteLength text.toList - byteLength after = offset := by
  rw [h.eq_append, byteLength_append, Nat.add_sub_cancel, h.offset_eq]

/-- How far an offset is from an earlier one is what the characters in between take up. -/
theorem add_sub_eq (h : Splits text offset before after) (h' : Splits text stop before' rest)
    (hle : offset ≤ stop) : offset + (byteLength after - byteLength rest) = stop := by
  have hsize := h.utf8ByteSize_eq
  have hsize' := h'.utf8ByteSize_eq
  omega

theorem drop_octets (h : Splits text offset before after) :
    (octets text).drop offset = after.flatMap octetsOf := by
  rw [octets_eq, h.eq_append, List.flatMap_append]
  exact List.drop_left' (by rw [length_flatMap_octetsOf, h.offset_eq])

theorem getElem?_end (h : Splits text offset before []) : (octets text)[offset]? = none := by
  rw [← List.head?_drop, h.drop_octets, List.flatMap_nil, List.head?_nil]

theorem getElem?_lead (h : Splits text offset before (c :: after)) :
    ∃ lead, (octets text)[offset]? = some lead ∧
      ∀ d : Char, d.toNat < 0x80 → (lead = d ↔ c = d) := by
  obtain ⟨lead, tail, hoctets, hlead⟩ := exists_lead c
  refine ⟨lead, ?_, hlead⟩
  rw [← List.head?_drop, h.drop_octets, List.flatMap_cons, hoctets, List.cons_append,
    List.head?_cons]

theorem extract_toByteArray (h : Splits text offset before (mid ++ after)) :
    text.toByteArray.extract offset (offset + byteLength mid) =
      (String.ofList mid).toByteArray := by
  have hbefore : offset = before.utf8Encode.size := by rw [size_utf8Encode, h.offset_eq]
  rw [← String.utf8Encode_toList, h.eq_append, List.utf8Encode_append, List.utf8Encode_append,
    String.toByteArray_ofList, ← Nat.add_zero offset, Nat.add_assoc, Nat.zero_add,
    ByteArray.extract_append_size_add' hbefore,
    ByteArray.extract_append_eq_left (size_utf8Encode mid).symm]

theorem cut?_eq (h : Splits text offset before (mid ++ after)) :
    cut? text offset (offset + byteLength mid) = some (String.ofList mid) := by
  have hbounds : offset ≤ offset + byteLength mid ∧ IsBoundary text offset ∧
      IsBoundary text (offset + byteLength mid) :=
    ⟨Nat.le_add_right _ _, h.isBoundary, (h.advance mid).isBoundary⟩
  rw [cut?, dif_pos hbounds, Option.some_inj, ← String.toByteArray_inj, String.toByteArray_extract]
  exact h.extract_toByteArray

theorem cutFrom?_eq (h : Splits text offset before after) :
    cutFrom? text offset = some (String.ofList after) := by
  rw [cutFrom?, h.utf8ByteSize_eq]
  rw [← List.append_nil after] at h
  exact h.cut?_eq

theorem dropBytes_eq (h : Splits text offset before after) :
    dropBytes offset text.toList = after := by
  rw [h.eq_append, h.offset_eq]
  clear h
  induction before with
  | nil => rw [byteLength, dropBytes, List.nil_append]
  | cons c before ih =>
    obtain ⟨n, hn⟩ : ∃ n, c.utf8Size + byteLength before = n + 1 :=
      Nat.exists_eq_succ_of_ne_zero (Nat.ne_of_gt (byteLength_pos (List.cons_ne_nil c before)))
    have hrest : n + 1 - c.utf8Size = byteLength before := by omega
    rw [byteLength, hn, List.cons_append, dropBytes, hrest, ih]

/-- Texts that have the same bytes up to a boundary have the same characters there. -/
theorem of_shared (h : Splits text offset before after)
    (hshared : other.toByteArray.extract 0 offset = text.toByteArray.extract 0 offset) :
    ∃ rest, Splits other offset before rest := by
  obtain ⟨hle, hvalid⟩ := String.Pos.Raw.isValid_iff_isValidUTF8_extract_zero.mp h.isBoundary
  have hsize := congrArg ByteArray.size hshared
  rw [ByteArray.size_extract, ByteArray.size_extract, String.size_toByteArray,
    String.size_toByteArray, h.utf8ByteSize_eq] at hsize
  have hother : IsBoundary other offset := by
    refine String.Pos.Raw.isValid_iff_isValidUTF8_extract_zero.mpr ⟨?_, ?_⟩
    · rw [String.Pos.Raw.le_iff, String.byteIdx_rawEndPos]
      dsimp only
      omega
    · rw [hshared]
      exact hvalid
  obtain ⟨before', rest, h'⟩ := isBoundary_iff.mp hother
  have hfirst {s : String} {xs ys : List Char} (hs : Splits s offset xs ys) :
      s.toByteArray.extract 0 offset = (String.ofList xs).toByteArray := by
    have := splits_start s
    rw [hs.eq_append] at this
    have := this.extract_toByteArray
    rwa [Nat.zero_add, ← hs.offset_eq] at this
  rw [hfirst h', hfirst h, String.toByteArray_inj, String.ofList_inj] at hshared
  exact ⟨rest, hshared ▸ h'⟩

end Splits

end ScriptClass.Text
