import ScriptClass.Member.Key
import ScriptClass.Proofs.Signature

/-!
# Reading member keys back

A member key is a name, or a name with a method descriptor behind it. The name holds no
opening parenthesis and a method descriptor starts with one, so a key is cut in two at
the only place where it can be. A text is a key if and only if it is the written form
of a well-formed one (`MemberKey.parse_ok`).
-/

namespace ScriptClass

namespace MemberKey

variable {text name : String} {k : MemberKey}

/-- A member name: not empty, without blanks and without `( ) ; [ /`. -/
def ValidName (name : String) : Prop :=
  name.toList ≠ [] ∧
    ∀ c ∈ name.toList, Text.isBlank c = false ∧ c ∉ ['(', ')', ';', '[', '/']

/-- A key that can be written and read back: its signature, if it has one, is named as the
key is. -/
structure WellFormed (k : MemberKey) : Prop where
  name : ValidName k.name
  signature : ∀ s, k.signature = some s → s.name = k.name ∧ s.WellFormed

theorem isInvalid_eq_false {c : Char} : isInvalid c = false ↔
    Text.isBlank c = false ∧ c ∉ [')', ';', '[', '/'] := by
  simp only [isInvalid, Bool.or_eq_false_iff, beq_eq_false_iff_ne, List.mem_cons, List.not_mem_nil,
    or_false, not_or, and_assoc]

/-- What stands before the first parenthesis is a name if the reader finds no fault. -/
theorem validName_iff : ValidName name ↔
    '(' ∉ name.toList ∧ name.toList.isEmpty = false ∧ name.toList.find? isInvalid = none := by
  rw [← Bool.not_eq_true, List.isEmpty_iff, List.find?_eq_none]
  constructor
  · rintro ⟨hne, hchars⟩
    refine ⟨fun h => (hchars _ h).2 List.mem_cons_self, hne, fun c hc => ?_⟩
    obtain ⟨hblank, hmem⟩ := hchars c hc
    rw [isInvalid_eq_false.mpr ⟨hblank, fun h => hmem (List.mem_cons_of_mem _ h)⟩]
    exact Bool.false_ne_true
  · rintro ⟨hopen, hne, hvalid⟩
    refine ⟨hne, fun c hc => ?_⟩
    obtain ⟨hblank, hmem⟩ := isInvalid_eq_false.mp (Bool.not_eq_true _ ▸ hvalid c hc)
    refine ⟨hblank, fun h => ?_⟩
    rcases List.mem_cons.mp h with rfl | h
    · exact hopen hc
    · exact hmem h

theorem display_none : display ⟨name, none⟩ = name := rfl

theorem toList_display_some (s : Signature) :
    (display ⟨name, some s⟩).toList = s.name.toList ++ s.descriptorChars := by
  show (s.name ++ s.descriptor).toList = _
  rw [String.toList_append, Signature.toList_descriptor]

/-- Reading a key, with its two parts named. -/
theorem parse_parts {before after : List Char} (hname : text.toList.takeWhile (· != '(') = before)
    (hrest : text.toList.dropWhile (· != '(') = after) :
    parse text = .ok k ↔ ValidName (String.ofList before) ∧
      (after = [] ∧ k = ⟨String.ofList before, none⟩ ∨ after ≠ [] ∧
        ∃ s, Signature.parse (String.ofList before) (String.ofList after) = .ok s ∧
          k = ⟨s.name, some s⟩) := by
  have hopen : '(' ∉ before := hname ▸ Text.not_mem_takeWhile_ne
  rw [validName_iff, String.toList_ofList]
  simp only [parse, hname, hrest]
  constructor
  · intro h
    split at h
    · cases h
    next hempty =>
      split at h
      · cases h
      next hfind =>
        refine ⟨⟨hopen, Bool.not_eq_true _ ▸ hempty, hfind⟩, ?_⟩
        split at h
        next hafter =>
          cases h
          exact .inl ⟨List.isEmpty_iff.mp hafter, rfl⟩
        next hafter =>
          split at h
          · cases h
          next s hs =>
            cases h
            exact .inr ⟨fun e => hafter (List.isEmpty_iff.mpr e), s, hs, rfl⟩
  · rintro ⟨⟨-, hempty, hfind⟩, ⟨rfl, rfl⟩ | ⟨hafter, s, hs, rfl⟩⟩
    · simp only [hempty, hfind, List.isEmpty_nil, Bool.false_eq_true, if_false, if_true]
    · have hafter : after.isEmpty = false := by
        rw [← Bool.not_eq_true, List.isEmpty_iff]
        exact hafter
      simp only [hempty, hfind, hafter, hs, Bool.false_eq_true, if_false]

theorem parse_ok : parse text = .ok k ↔ k.WellFormed ∧ k.display = text := by
  constructor
  · intro h
    obtain ⟨hvalid, ⟨hafter, rfl⟩ | ⟨-, s, hs, rfl⟩⟩ := (parse_parts rfl rfl).mp h
    · refine ⟨⟨hvalid, fun s hs => by cases hs⟩, String.toList_inj.mp ?_⟩
      rw [display_none, String.toList_ofList]
      have hsplit := List.takeWhile_append_dropWhile (p := (· != '(')) (l := text.toList)
      rwa [hafter, List.append_nil] at hsplit
    · obtain ⟨hname, hwf, hdescriptor⟩ := Signature.parse_ok.mp hs
      refine ⟨⟨hname ▸ hvalid, fun s' hs' => ?_⟩, String.toList_inj.mp ?_⟩
      · cases hs'
        exact ⟨rfl, hwf⟩
      · rw [toList_display_some, ← Signature.toList_descriptor, hdescriptor, hname,
          String.toList_ofList, String.toList_ofList, List.takeWhile_append_dropWhile]
  · rintro ⟨hwf, rfl⟩
    obtain ⟨name, signature⟩ := k
    have hopen := (validName_iff.mp hwf.name).1
    cases signature with
    | none =>
      have hall : ∀ c ∈ name.toList, (c != '(') = true := fun c hc =>
        bne_iff_ne.mpr fun e => hopen (e ▸ hc)
      refine (parse_parts (List.takeWhile_eq_self_iff.mpr hall)
        (List.dropWhile_eq_nil_iff.mpr hall)).mpr ?_
      rw [String.ofList_toList]
      exact ⟨hwf.name, .inl ⟨rfl, rfl⟩⟩
    | some s =>
      obtain ⟨hname, hs⟩ := hwf.signature s rfl
      dsimp only at hname
      subst hname
      have htext : (display ⟨s.name, some s⟩).toList = s.name.toList ++ '(' ::
          (s.params.flatMap Descriptor.chars ++ ')' :: s.returns.chars) := toList_display_some s
      rw [parse_parts (htext ▸ Text.takeWhile_ne_append hopen) (htext ▸ Text.dropWhile_ne_append hopen),
        String.ofList_toList]
      refine ⟨hwf.name, .inr ⟨List.cons_ne_nil _ _, s, ?_, rfl⟩⟩
      exact Signature.parse_ok.mpr ⟨rfl, hs, rfl⟩

end MemberKey

/-- Method descriptors and member keys read back. A method descriptor is read as a
signature exactly where it is the descriptor of one without `void` parameters, a text
as a key exactly where it is the written form of one; what cannot be read is refused
with an error. Hence no two texts are read as one key. -/
theorem keys_read_back :
    (∀ (name descriptor : String) (s : Signature), Signature.parse name descriptor = .ok s ↔
      s.name = name ∧ s.WellFormed ∧ s.descriptor = descriptor) ∧
    (∀ name descriptor : String, (¬∃ s : Signature, s.WellFormed ∧ s.descriptor = descriptor) →
      ∃ fault, Signature.parse name descriptor = .error ⟨descriptor, fault⟩) ∧
    (∀ (text : String) (k : MemberKey), MemberKey.parse text = .ok k ↔
      k.WellFormed ∧ k.display = text) ∧
    (∀ text : String, (¬∃ k : MemberKey, k.WellFormed ∧ k.display = text) →
      ∃ fault, MemberKey.parse text = .error fault) ∧
    ∀ (text text' : String) (k : MemberKey), MemberKey.parse text = .ok k →
      MemberKey.parse text' = .ok k → text = text' := by
  refine ⟨fun _ _ _ => Signature.parse_ok, fun name descriptor h => ?_,
    fun _ _ => MemberKey.parse_ok, fun text h => ?_, fun text text' k hk hk' => ?_⟩
  · refine Signature.parse_error fun s hs => h ⟨s, ?_⟩
    exact (Signature.parse_ok.mp hs).2
  · cases hread : MemberKey.parse text with
    | error fault => exact ⟨fault, rfl⟩
    | ok k => exact absurd ⟨k, MemberKey.parse_ok.mp hread⟩ h
  · have hdisplay := (MemberKey.parse_ok.mp hk).2
    have hdisplay' := (MemberKey.parse_ok.mp hk').2
    exact hdisplay.symm.trans hdisplay'

end ScriptClass
