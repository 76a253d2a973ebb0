import ScriptClass.Proofs.Text.Bytes
import ScriptClass.Proofs.Signature

/-!
# Scanning in place

A scan that starts between two characters never cuts inside one: it comes to what the reader of the
characters comes to (`Scan.Follows`), and where it ends another can go on. So types can be scanned
wherever one may stand (`Descriptor.scanAt_eq`), parameters one behind the other
(`Signature.scanParams_follows`), and whole method descriptors (`Signature.scan_eq`).

What is scanned depends on the text up to its end alone, and spells it
(`Descriptor.scans_stay_between_characters`).
-/

namespace ScriptClass

open Text (octets IsBoundary Splits)

variable {α β : Type} {text : String} {position start stop : Nat} {before cs rest : List Char}
  {t : Descriptor}

/-! ## Scans and readers -/

namespace Scan

/-- A scan comes to the fault that a reader of the characters comes to, or to the same value and the
offset before the characters that are left. -/
def Follows (text : String) (scan : Scan (Scanned α start)) :
    Except DescriptorFault (α × List Char) → Prop
  | .error fault => scan = throw fault
  | .ok (value, rest) => ∃ scanned before, scan = pure scanned ∧ scanned.value = value ∧
      Splits text scanned.stop before rest

namespace Follows

variable {scan : Scan (Scanned α start)} {read : Except DescriptorFault (α × List Char)} {value : α}
  {fault : DescriptorFault}

theorem of_error (h : Follows text scan read) (hread : read = .error fault) :
    scan = throw fault := by
  rwa [hread] at h

theorem of_ok (h : Follows text scan read) (hread : read = .ok (value, rest)) :
    ∃ scanned before, scan = pure scanned ∧ scanned.value = value ∧
      Splits text scanned.stop before rest := by
  rwa [hread] at h

end Follows

theorem some_bind (a : α) (next : α → Scan β) : (liftM (some a) : Scan α) >>= next = next a := rfl

end Scan

open Scan (Follows)

/-! ## One type -/

namespace Descriptor

theorem scanReference_follows (h : Splits text position before ('L' :: cs)) :
    Follows text (scanReference text position) (readBase position ('L' :: cs)) := by
  have hname : Splits text (position + 1) (before ++ ['L']) cs := h.advance ['L']
  rw [scanReference, hname.cutFrom?_eq, Scan.some_bind, Text.offsetOf?_ofList, readBase]
  by_cases hmem : ';' ∈ cs
  · obtain ⟨name, after, rfl, hfirst⟩ := List.eq_append_cons_of_mem hmem
    have hempty : (String.ofList name).isEmpty = name.isEmpty := by
      rw [Bool.eq_iff_iff, String.isEmpty_iff, String.ofList_eq_empty_iff, List.isEmpty_iff]
    rw [if_pos hmem, Text.takeWhile_ne_append hfirst, Text.dropWhile_ne_append hfirst]
    dsimp only
    rw [hname.cut?_eq, Scan.some_bind, hempty, String.toList_ofList]
    split
    · exact rfl
    · cases name.find? isReserved with
      | some c => exact rfl
      | none => exact ⟨_, _, rfl, rfl, (hname.advance name).advance [';']⟩
  · have hdrop : cs.dropWhile (· != ';') = [] :=
      List.dropWhile_eq_nil_iff.mpr fun c hc => bne_iff_ne.mpr fun e => hmem (e ▸ hc)
    rw [if_neg hmem, hdrop]
    exact rfl

/-- A letter is told by its first byte. -/
theorem ofLetter?_congr {lead c : Char} (h : ∀ d : Char, d.toNat < 0x80 → (lead = d ↔ c = d)) :
    Primitive.ofLetter? lead = Primitive.ofLetter? c := by
  have hiff (d : Char) (kind : Primitive) : Primitive.ofLetter? d = some kind ↔ d = kind.letter :=
    ⟨fun h => (Primitive.letter_of_ofLetter? h).symm, fun h => h ▸ Primitive.ofLetter?_letter kind⟩
  refine Option.ext fun kind => ?_
  rw [hiff, hiff]
  exact h _ (by cases kind <;> decide)

theorem scanBase_follows (h : Splits text position before cs) :
    Follows text (scanBase text position) (readBase position cs) := by
  match cs with
  | [] =>
    rw [scanBase, h.getElem?_end]
    exact rfl
  | c :: rest =>
    obtain ⟨lead, hfirst, hlead⟩ := h.getElem?_lead
    rw [scanBase, hfirst]
    split
    next hnone => cases hnone
    next hL =>
      obtain rfl : c = 'L' := (hlead 'L' (by decide)).mp (Option.some.inj hL)
      exact scanReference_follows h
    next hne heq =>
      cases heq
      have hc : c ≠ 'L' := mt (hlead 'L' (by decide)).mpr fun h => hne (h ▸ rfl)
      rw [ofLetter?_congr hlead, readBase]
      · cases hkind : Primitive.ofLetter? c with
        | some kind =>
          have hone : byteLength [c] = 1 := by
            rw [← Primitive.letter_of_ofLetter? hkind]
            cases kind <;> rfl
          exact ⟨_, _, rfl, rfl, hone ▸ h.advance [c]⟩
        | none =>
          dsimp only
          rw [h.cutFrom?_eq, Scan.some_bind, String.toList_ofList]
          exact rfl
      · exact hc

theorem byteLength_brackets (n : Nat) : byteLength (List.replicate n '[') = n := by
  induction n with
  | zero => rfl
  | succ n ih =>
    rw [List.replicate_succ, byteLength, ih]
    exact Nat.add_comm 1 n

theorem scanType_follows (h : Splits text start before cs) :
    Follows text (scanType text start) (readType start cs) := by
  have hbase : Splits text (start + (cs.takeWhile (· == '[')).length)
      (before ++ cs.takeWhile (· == '[')) (cs.dropWhile (· == '[')) := by
    rw [← List.takeWhile_append_dropWhile (p := (· == '[')) (l := cs)] at h
    have hadvance := h.advance _
    rwa [takeWhile_brackets, byteLength_brackets, ← takeWhile_brackets] at hadvance
  have hfollows := scanBase_follows hbase
  rw [scanType, h.drop_octets, Text.takeWhile_octets (by decide), scanNested, readType]
  dsimp only
  split
  · exact rfl
  · cases hread : readBase (start + (cs.takeWhile (· == '[')).length) (cs.dropWhile (· == '[')) with
    | error fault =>
      rw [hfollows.of_error hread]
      exact rfl
    | ok read =>
      obtain ⟨base, before', hscan, hvalue, hsplits⟩ := hfollows.of_ok hread
      rw [hscan, pure_bind, hvalue]
      dsimp only
      split
      · exact rfl
      · exact ⟨_, before', rfl, rfl, hsplits⟩

end Descriptor

/-! ## Method descriptors -/

namespace Signature

theorem scanParams_open {c : Char} (h : Splits text position before (c :: rest)) (hc : c ≠ ')') :
    scanParams text position = (do
      let param ← Descriptor.scanType text position
      if param.value.isVoid then throw (.voidParameter position)
      else do
        let params ← scanParams text param.stop
        pure ⟨param.value :: params.value, params.stop, Nat.lt_trans param.lt params.lt⟩) := by
  obtain ⟨lead, hfirst, hlead⟩ := h.getElem?_lead
  obtain ⟨hlt, hget⟩ := List.getElem?_eq_some_iff.mp hfirst
  have hopen : (octets text)[position] ≠ ')' := by
    rw [hget]
    exact mt (hlead ')' (by decide)).mp hc
  rw [scanParams, dif_pos hlt, if_neg hopen]

theorem scanParams_follows (h : Splits text position before cs) :
    Follows text (scanParams text position) (readParams position cs) := by
  fun_induction readParams position cs generalizing before with
  | case1 position =>
    have hend := List.getElem?_eq_none_iff.mp h.getElem?_end
    rw [scanParams, dif_neg (Nat.not_lt.mpr hend)]
    exact rfl
  | case2 position rest =>
    obtain ⟨lead, hfirst, hlead⟩ := h.getElem?_lead
    obtain ⟨hlt, hget⟩ := List.getElem?_eq_some_iff.mp hfirst
    rw [scanParams, dif_pos hlt, if_pos (hget.trans ((hlead ')' (by decide)).mpr rfl))]
    exact ⟨_, _, rfl, rfl, h.advance [')']⟩
  | case3 position c tail hc fault hread =>
    rw [scanParams_open h hc, (Descriptor.scanType_follows h).of_error hread]
    exact rfl
  | case4 position c tail hc t rest hread hvoid =>
    obtain ⟨param, -, hscan, rfl, -⟩ := (Descriptor.scanType_follows h).of_ok hread
    rw [scanParams_open h hc, hscan, pure_bind, if_pos hvoid]
    exact rfl
  | case5 position c tail hc t rest hread hvoid hlt next fault hrest =>
    rename_i ih
    obtain ⟨param, before', hscan, rfl, hsplits⟩ := (Descriptor.scanType_follows h).of_ok hread
    have hnext : next = param.stop := h.add_sub_eq hsplits (Nat.le_of_lt param.lt)
    rw [hnext] at ih hrest
    rw [scanParams_open h hc, hscan, pure_bind, if_neg hvoid, (ih hsplits).of_error hrest]
    exact rfl
  | case6 position c tail hc t rest hread hvoid hlt next ts left hrest =>
    rename_i ih
    obtain ⟨param, before', hscan, rfl, hsplits⟩ := (Descriptor.scanType_follows h).of_ok hread
    have hnext : next = param.stop := h.add_sub_eq hsplits (Nat.le_of_lt param.lt)
    rw [hnext] at ih hrest
    obtain ⟨params, before'', hparams, rfl, hleft⟩ := (ih hsplits).of_ok hrest
    rw [scanParams_open h hc, hscan, pure_bind, if_neg hvoid, hparams, pure_bind]
    exact ⟨_, before'', rfl, rfl, hleft⟩

/-- Behind the parameters, only the return type is left to scan. -/
theorem scanDescriptor_of_params {tail : List Char} {params : List Descriptor}
    (h : text.toList = '(' :: tail) (hread : readParams 1 tail = .ok (params, rest)) :
    ∃ before,
      Splits text (Descriptor.byteLength ('(' :: tail) - Descriptor.byteLength rest) before rest ∧
      scanDescriptor text = (do
        let returns ← Descriptor.scanType text
          (Descriptor.byteLength ('(' :: tail) - Descriptor.byteLength rest)
        if returns.stop = text.utf8ByteSize then pure (params, returns.value)
        else throw (.trailingCharacters returns.stop)) := by
  have htail : Splits text 1 ['('] tail := ⟨h, rfl⟩
  obtain ⟨scanned, before, hscan, rfl, hrest⟩ := (scanParams_follows htail).of_ok hread
  rw [← h, hrest.byteLength_sub]
  refine ⟨before, hrest, ?_⟩
  rw [scanDescriptor, h]
  dsimp only [List.head?_cons]
  rw [hscan, pure_bind]
  rfl

theorem scanDescriptor_eq (text : String) :
    (scanDescriptor text).run = some (readDescriptor text.toList) := by
  generalize h : text.toList = cs
  fun_cases readDescriptor cs with
  | case1 =>
    rw [scanDescriptor, h]
    rfl
  | case2 tail fault hread =>
    have htail : Splits text 1 ['('] tail := ⟨h, rfl⟩
    rw [scanDescriptor, h]
    dsimp only [List.head?_cons]
    rw [(scanParams_follows htail).of_error hread]
    rfl
  | case3 tail params rest hread fault place hreturns =>
    obtain ⟨before, hrest, hscan⟩ := scanDescriptor_of_params h hread
    rw [hscan, (Descriptor.scanType_follows hrest).of_error hreturns]
    rfl
  | case4 tail params rest hread t place hreturns =>
    obtain ⟨before, hrest, hscan⟩ := scanDescriptor_of_params h hread
    obtain ⟨returns, before', hscan', rfl, hend⟩ :=
      (Descriptor.scanType_follows hrest).of_ok hreturns
    have hall : returns.stop = text.utf8ByteSize := hend.utf8ByteSize_eq.symm
    rw [hscan, hscan', pure_bind, if_pos hall]
    rfl
  | case5 tail params rest hread t left hleft place hreturns =>
    obtain ⟨before, hrest, hscan⟩ := scanDescriptor_of_params h hread
    obtain ⟨returns, before', hscan', rfl, hend⟩ :=
      (Descriptor.scanType_follows hrest).of_ok hreturns
    have hmore : returns.stop ≠ text.utf8ByteSize := by
      have := Text.byteLength_pos hleft
      have := hend.utf8ByteSize_eq
      omega
    have hplace : place left = returns.stop := by
      rw [← hend.byteLength_sub, h]
    rw [hscan, hscan', pure_bind, if_neg hmore, hplace]
    rfl
  | case6 cs hnil hopen =>
    rw [scanDescriptor, h]
    cases cs with
    | nil => exact absurd rfl hnil
    | cons c tail =>
      dsimp only [List.head?_cons]
      split
      next h => cases h
      next h => exact absurd (congrArg (· :: tail) (Option.some.inj h)) (hopen tail)
      next => rfl

theorem scan_eq (name descriptor : String) :
    scan name descriptor = some (parse name descriptor) := by
  rw [scan, scanDescriptor_eq, parse]
  cases readDescriptor descriptor.toList with
  | error fault => rfl
  | ok read => rfl

end Signature

/-! ## Types inside a text -/

namespace Descriptor

theorem scanAt_eq (h : Splits text start before cs) :
    scanAt text start = some (parseAt text start) := by
  rw [scanAt, parseAt, h.dropBytes_eq]
  cases hread : readType start cs with
  | error fault =>
    rw [(scanType_follows h).of_error hread]
    rfl
  | ok read =>
    obtain ⟨scanned, before', hscan, hvalue, hsplits⟩ := (scanType_follows h).of_ok hread
    dsimp only
    rw [hscan, h.add_sub_eq hsplits (Nat.le_of_lt scanned.lt), ← hvalue]
    rfl

theorem parseAt_ok (h : Splits text start before cs) : parseAt text start = .ok (t, stop) ↔
    t.WellFormed ∧ ∃ rest, cs = t.chars ++ rest ∧ stop = start + byteLength t.chars := by
  rw [parseAt, h.dropBytes_eq]
  constructor
  · intro hparse
    split at hparse
    · cases hparse
    next t rest hread =>
      cases hparse
      obtain ⟨hwf, rfl⟩ := readType_ok.mp hread
      refine ⟨hwf, rest, rfl, ?_⟩
      rw [Text.byteLength_append, Nat.add_sub_cancel]
  · rintro ⟨hwf, rest, rfl, rfl⟩
    have hread : readType start (t.chars ++ rest) = .ok (t, rest) := readType_ok.mpr ⟨hwf, rfl⟩
    rw [hread, Text.byteLength_append]
    dsimp only
    rw [Nat.add_sub_cancel]

/-- From an offset between two characters a scan cuts inside none. The type that it reads ends beyond
its start, again between two characters, is spelled by the bytes in between, and is the one that is
read whatever text follows. So method descriptors are scanned without such a cut as well, and what is
read of one spells all of it. -/
theorem scans_stay_between_characters (text : String) :
    (∀ start, IsBoundary text start →
      scanAt text start = some (parseAt text start) ∧
      ∀ t stop, parseAt text start = .ok (t, stop) →
        start < stop ∧ IsBoundary text stop ∧
        text.toByteArray.extract start stop = t.text.toByteArray ∧
        ∀ other, other.toByteArray.extract 0 stop = text.toByteArray.extract 0 stop →
          scanAt other start = some (.ok (t, stop))) ∧
    ∀ name, Signature.scan name text = some (Signature.parse name text) ∧
      ∀ s, Signature.parse name text = .ok s → s.descriptor = text := by
  refine ⟨fun start hstart => ?_, fun name => ⟨Signature.scan_eq name text, fun s hs => ?_⟩⟩
  · obtain ⟨before, cs, h⟩ := Text.isBoundary_iff.mp hstart
    refine ⟨scanAt_eq h, fun t stop hparse => ?_⟩
    obtain ⟨hwf, rest, rfl, rfl⟩ := (parseAt_ok h).mp hparse
    refine ⟨Nat.lt_add_of_pos_right (Text.byteLength_pos t.chars_ne_nil),
      (h.advance t.chars).isBoundary, h.extract_toByteArray, fun other hshared => ?_⟩
    -- the other text has the same characters up to the end of the type
    obtain ⟨rest', h'⟩ := (h.advance t.chars).of_shared hshared
    have hother : Splits other start before (t.chars ++ rest') :=
      ⟨by rw [h'.eq_append, List.append_assoc], h.offset_eq⟩
    rw [scanAt_eq hother, (parseAt_ok hother).mpr ⟨hwf, rest', rfl, rfl⟩]
  · exact (Signature.parse_ok.mp hs).2.2

end Descriptor

namespace Sample

/-- The descriptor of a method, with a name beyond ASCII. -/
def streets : String := "(J[[Lcafé/Straße;I)V"

/-- What `streets` starts with, and another text behind it. -/
def streetsElsewhere : String := "(J[[Lcafé/Straße;→"

/-- The second parameter of `streets`. -/
def street : Descriptor := .array (.array (.reference "café/Straße"))

end Sample

open Sample in
/-- The second parameter is read from the third byte on, and ends behind the nineteenth. -/
theorem street_is_scanned :
    Descriptor.scanAt streets 2 = some (.ok (street, 19)) ∧ IsBoundary streets 19 ∧
      streets.toByteArray.extract 2 19 = street.text.toByteArray ∧
      Descriptor.scanAt streetsElsewhere 2 = some (.ok (street, 19)) ∧
      ∃ s, Signature.scan "walk" streets = some (.ok s) ∧ s.descriptor = streets := by
  obtain ⟨htypes, hmethods⟩ := Descriptor.scans_stay_between_characters streets
  obtain ⟨hscan, hread⟩ := htypes 2 (by decide +kernel)
  have hparse : Descriptor.parseAt streets 2 = .ok (street, 19) := by decide +kernel
  obtain ⟨-, hstop, hbytes, hlocal⟩ := hread street 19 hparse
  obtain ⟨hmethod, hspelled⟩ := hmethods "walk"
  have hwalk : Signature.parse "walk" streets =
      .ok ⟨"walk", [.primitive .long, street, .primitive .int], .primitive .void⟩ := by
    decide +kernel
  exact ⟨hscan.trans (congrArg some hparse), hstop, hbytes, hlocal _ (by decide +kernel), _,
    hmethod.trans (congrArg some hwalk), hspelled _ hwalk⟩

end ScriptClass
