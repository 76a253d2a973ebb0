import ScriptClass.Descriptor.Reader
import Mathlib.Data.List.TakeWhile

/-!
# Reading descriptors back

A type is read off the head of a character list exactly where its compact form
stands there (`readType_ok`), whatever follows: no compact form is the beginning of
another. So a text is a descriptor if and only if it is the compact form of a
well-formed type (`parse_ok`), which is the one that it denotes.

`Spells` is the grammar of descriptors, one constructor a production.
-/

namespace ScriptClass

/-! ## Splitting at a character -/

namespace Text

variable {c d : Char} {xs before after : List Char}

theorem takeWhile_ne_append (h : c ∉ before) :
    (before ++ c :: after).takeWhile (· != c) = before := by
  rw [List.takeWhile_append_of_pos, List.takeWhile_cons_of_neg, List.append_nil]
  · simp
  · intro x hx
    exact bne_iff_ne.mpr fun e => h (e ▸ hx)

theorem dropWhile_ne_append (h : c ∉ before) :
    (before ++ c :: after).dropWhile (· != c) = c :: after := by
  rw [List.dropWhile_append_of_pos, List.dropWhile_cons_of_neg]
  · simp
  · intro x hx
    exact bne_iff_ne.mpr fun e => h (e ▸ hx)

/-- What is left is the character and what follows its first occurrence. -/
theorem eq_append_of_dropWhile_ne (h : xs.dropWhile (· != c) = d :: after) :
    d = c ∧ xs = xs.takeWhile (· != c) ++ c :: after := by
  have hd : ¬(d != c) = true := by
    have := List.head_dropWhile_not (· != c) (l := xs) (by rw [h]; exact List.cons_ne_nil _ _)
    simpa [h] using this
  have hdc : d = c := by simpa using hd
  subst hdc
  rw [← h, List.takeWhile_append_dropWhile]
  exact ⟨rfl, rfl⟩

theorem not_mem_takeWhile_ne : c ∉ xs.takeWhile (· != c) := by
  intro h
  simpa using List.mem_takeWhile_imp h

end Text

namespace Descriptor

/-! ## Nested arrays -/

variable {t u : Descriptor} {n position : Nat} {cs rest : List Char}

theorem dimensions_nest (t : Descriptor) (n : Nat) : (t.nest n).dimensions = n + t.dimensions := by
  induction n with
  | zero => simp [nest]
  | succ n ih =>
    rw [nest, dimensions, ih]
    omega

theorem base_nest (t : Descriptor) (n : Nat) : (t.nest n).base = t.base := by
  induction n with
  | zero => rfl
  | succ n ih => rw [nest, base, ih]

theorem chars_nest (t : Descriptor) (n : Nat) :
    (t.nest n).chars = List.replicate n '[' ++ t.chars := by
  induction n with
  | zero => rfl
  | succ n ih => rw [nest, chars, ih, List.replicate_succ, List.cons_append]

theorem dimensions_base (t : Descriptor) : t.base.dimensions = 0 := by
  induction t with
  | primitive kind => rfl
  | reference name => rfl
  | array element ih => exact ih

theorem nest_base (t : Descriptor) : t.base.nest t.dimensions = t := by
  induction t with
  | primitive kind => rfl
  | reference name => rfl
  | array element ih => rw [base, dimensions, nest, ih]

theorem base_of_dimensions (h : t.dimensions = 0) : t.base = t := by
  have := nest_base t
  rwa [h] at this

/-- A type that is no array, nested in arrays. -/
theorem wellFormed_nest (h : t.dimensions = 0) : (t.nest n).WellFormed ↔
    n ≤ maxDimensions ∧ (0 < n → t ≠ .primitive .void) ∧ t.WellFormed := by
  simp only [WellFormed, dimensions_nest, base_nest, h, base_of_dimensions h, Nat.add_zero]
  constructor
  · rintro ⟨hdeep, hvoid, hname⟩
    exact ⟨hdeep, hvoid, Nat.zero_le _, fun h => absurd h (Nat.lt_irrefl 0), hname⟩
  · rintro ⟨hdeep, hvoid, -, -, hname⟩
    exact ⟨hdeep, hvoid, hname⟩

theorem wellFormed_primitive (kind : Primitive) : (primitive kind).WellFormed :=
  ⟨Nat.zero_le _, fun h => absurd h (Nat.lt_irrefl 0), fun name h => by cases h⟩

theorem wellFormed_reference {name : String} :
    (reference name).WellFormed ↔ ValidName name := by
  constructor
  · rintro ⟨-, -, h⟩
    exact h name rfl
  · intro h
    refine ⟨Nat.zero_le _, fun h => absurd h (Nat.lt_irrefl 0), fun name' h' => ?_⟩
    cases h'
    exact h

/-! ## One type at the head -/

/-- What is no array starts with a letter, not with a bracket. -/
theorem chars_of_dimensions (h : t.dimensions = 0) : ∃ c tail, t.chars = c :: tail ∧ c ≠ '[' := by
  cases t with
  | primitive kind => exact ⟨kind.letter, [], rfl, by cases kind <;> decide⟩
  | reference name => exact ⟨'L', name.toList ++ [';'], rfl, by decide⟩
  | array element => cases h

theorem semicolon_not_mem {name : String} (h : ValidName name) : ';' ∉ name.toList := by
  intro hmem
  have := h.2 ';' hmem
  revert this
  decide

theorem chars_reference (name : String) (rest : List Char) :
    (reference name).chars ++ rest = 'L' :: (name.toList ++ ';' :: rest) := by
  simp [chars]

theorem readBase_ok : readBase position cs = .ok (t, rest) ↔
    t.dimensions = 0 ∧ t.WellFormed ∧ cs = t.chars ++ rest := by
  constructor
  · intro h
    unfold readBase at h
    split at h
    · cases h
    next tail =>
      dsimp only at h
      split at h
      · cases h
      next d after hdrop =>
        obtain ⟨-, htail⟩ := Text.eq_append_of_dropWhile_ne hdrop
        split at h
        · cases h
        next hempty =>
          split at h
          · cases h
          next hfind =>
            cases h
            refine ⟨rfl, wellFormed_reference.mpr ⟨?_, fun c hc => ?_⟩, ?_⟩
            · rw [String.toList_ofList]
              exact fun e => hempty (List.isEmpty_iff.mpr e)
            · rw [String.toList_ofList] at hc
              exact Bool.not_eq_true _ ▸ List.find?_eq_none.mp hfind c hc
            · rw [chars_reference, String.toList_ofList, ← htail]
    next c tail _ =>
      split at h
      next kind hkind =>
        cases h
        refine ⟨rfl, wellFormed_primitive kind, ?_⟩
        rw [chars, Primitive.letter_of_ofLetter? hkind]
        rfl
      next => cases h
  · rintro ⟨hdim, hwf, rfl⟩
    cases t with
    | primitive kind => cases kind <;> rfl
    | reference name =>
      have hname := wellFormed_reference.mp hwf
      have hsemi := semicolon_not_mem hname
      have hempty : name.toList.isEmpty = false := by
        rw [← Bool.not_eq_true, List.isEmpty_iff]
        exact hname.1
      have hfind : name.toList.find? isReserved = none :=
        List.find?_eq_none.mpr fun c hc => by rw [hname.2 c hc]; exact Bool.false_ne_true
      rw [chars_reference, readBase]
      simp only [Text.takeWhile_ne_append hsemi, Text.dropWhile_ne_append hsemi, hempty, hfind,
        Bool.false_eq_true, if_false, String.ofList_toList]
    | array element => cases hdim

/-- The brackets at the head are all that a type starts with, and no more. -/
theorem brackets_of_dimensions (h : t.dimensions = 0) (n : Nat) (rest : List Char) :
    (List.replicate n '[' ++ (t.chars ++ rest)).takeWhile (· == '[') = List.replicate n '[' ∧
      (List.replicate n '[' ++ (t.chars ++ rest)).dropWhile (· == '[') = t.chars ++ rest := by
  obtain ⟨c, tail, hc, hne⟩ := chars_of_dimensions h
  have hall : ∀ x ∈ List.replicate n '[', (x == '[') = true := fun x hx =>
    beq_iff_eq.mpr (List.eq_of_mem_replicate hx)
  have hstop : (c == '[') = false := beq_eq_false_iff_ne.mpr hne
  rw [hc, List.cons_append]
  constructor
  · simp only [List.takeWhile_append_of_pos hall, List.takeWhile_cons, hstop, Bool.false_eq_true,
      if_false, List.append_nil]
  · simp only [List.dropWhile_append_of_pos hall, List.dropWhile_cons, hstop, Bool.false_eq_true,
      if_false]

theorem takeWhile_brackets (cs : List Char) : cs.takeWhile (· == '[') =
    List.replicate (cs.takeWhile (· == '[')).length '[' :=
  List.eq_replicate_of_mem fun _ hx => beq_iff_eq.mp (List.mem_takeWhile_imp (p := (· == '[')) hx)

/-- A type is read exactly where its compact form stands at the head, and what is left
is what follows it. -/
theorem readType_ok : readType position cs = .ok (t, rest) ↔
    t.WellFormed ∧ cs = t.chars ++ rest := by
  constructor
  · intro h
    unfold readType at h
    dsimp only at h
    split at h
    · cases h
    next hdeep =>
      split at h
      · cases h
      next element after hbase =>
        obtain ⟨hdim, hwf, hrest⟩ := readBase_ok.mp hbase
        split at h
        · cases h
        next hvoid =>
          cases h
          refine ⟨(wellFormed_nest hdim).mpr ⟨Nat.le_of_not_lt hdeep, fun hpos e => ?_, hwf⟩, ?_⟩
          · exact hvoid ⟨hpos, by rw [e]; rfl⟩
          · rw [chars_nest, ← takeWhile_brackets, List.append_assoc, ← hrest,
              List.takeWhile_append_dropWhile]
  · rintro ⟨hwf, rfl⟩
    -- the reader counts brackets first, so `t` is taken as its base below `t.dimensions` arrays
    have hdim := dimensions_base t
    have hwf' := hwf
    rw [← nest_base t] at hwf' ⊢
    obtain ⟨hdeep, hvoid, helement⟩ := (wellFormed_nest hdim).mp hwf'
    rw [chars_nest, List.append_assoc]
    obtain ⟨htake, hdrop⟩ := brackets_of_dimensions hdim t.dimensions rest
    have hread : ∀ p, readBase p (t.base.chars ++ rest) = .ok (t.base, rest) := fun p =>
      readBase_ok.mpr ⟨hdim, helement, rfl⟩
    have hvalue : ¬(0 < t.dimensions ∧ t.base.isVoid = true) := fun ⟨hpos, e⟩ =>
      hvoid hpos (beq_iff_eq.mp e)
    simp only [readType, htake, hdrop, List.length_replicate, if_neg (Nat.not_lt.mpr hdeep), hread,
      if_neg hvalue]

/-! ## Whole descriptors -/

theorem chars_ne_nil (t : Descriptor) : t.chars ≠ [] := by
  cases t <;> exact List.cons_ne_nil _ _

theorem toList_text (t : Descriptor) : t.text.toList = t.chars := String.toList_ofList

theorem parse_ok {text : String} : parse text = .ok t ↔ t.WellFormed ∧ t.text = text := by
  have hwhole : parse text = .ok t ↔ readType 0 text.toList = .ok (t, []) := by
    unfold parse
    dsimp only
    split
    next hempty =>
      rw [List.isEmpty_iff.mp hempty]
      exact ⟨fun h => (nomatch h), fun h => absurd (readType_ok.mp h).2.symm (by simp [chars_ne_nil])⟩
    next =>
      split
      next h => simp [h]
      next u h => simp [h]
      next u rest hrest h =>
        rw [h]
        simp only [reduceCtorEq, Except.ok.injEq, Prod.mk.injEq, false_iff, not_and]
        exact fun _ e => hrest e
  -- nothing may follow the type
  rw [hwhole, readType_ok, List.append_nil, ← toList_text]
  exact and_congr_right fun _ => ⟨fun h => (String.toList_inj.mp h).symm, fun h => by rw [h]⟩

/-! ## The grammar -/

/-- The characters that spell a type: a letter, a name between `L` and `;`, or a bracket
before what spells the element type. -/
inductive Spells : Descriptor → List Char → Prop where
  | primitive (kind : Primitive) : Spells (.primitive kind) [kind.letter]
  | reference {name : String} (valid : ValidName name) :
    Spells (.reference name) ('L' :: name.toList ++ [';'])
  | array {element : Descriptor} {cs : List Char} (spelled : Spells element cs)
    (value : element ≠ .primitive .void) (shallow : element.dimensions < maxDimensions) :
    Spells (.array element) ('[' :: cs)

theorem wellFormed_array : (array t).WellFormed ↔
    t.WellFormed ∧ t ≠ .primitive .void ∧ t.dimensions < maxDimensions := by
  simp only [WellFormed, dimensions, base]
  constructor
  · rintro ⟨hdeep, hvoid, hname⟩
    refine ⟨⟨by omega, fun _ => hvoid (Nat.succ_pos _), hname⟩, ?_, by omega⟩
    rintro rfl
    exact hvoid (Nat.succ_pos _) rfl
  · rintro ⟨⟨hdeep, hvoid, hname⟩, hvalue, hshallow⟩
    refine ⟨by omega, fun _ => ?_, hname⟩
    cases t with
    | primitive kind => exact hvalue
    | reference name => exact fun h => by cases h
    | array element => exact hvoid (Nat.succ_pos _)

/-- A type is spelled by its compact form alone, and only if it is well-formed. -/
theorem spells_iff : Spells t cs ↔ t.WellFormed ∧ cs = t.chars := by
  constructor
  · intro h
    induction h with
    | primitive kind => exact ⟨wellFormed_primitive kind, rfl⟩
    | reference valid => exact ⟨wellFormed_reference.mpr valid, rfl⟩
    | array spelled value shallow ih =>
      obtain ⟨hwf, rfl⟩ := ih
      exact ⟨wellFormed_array.mpr ⟨hwf, value, shallow⟩, rfl⟩
  · rintro ⟨hwf, rfl⟩
    induction t with
    | primitive kind => exact .primitive kind
    | reference name => exact .reference (wellFormed_reference.mp hwf)
    | array element ih =>
      obtain ⟨helement, hvalue, hshallow⟩ := wellFormed_array.mp hwf
      exact .array (ih helement) hvalue hshallow

/-- A refused text is named in the error. -/
theorem parse_error {text : String} (h : ∀ t, parse text ≠ .ok t) :
    ∃ fault, parse text = .error ⟨text, fault⟩ := by
  unfold parse at h ⊢
  dsimp only at h ⊢
  split
  · exact ⟨_, rfl⟩
  next hne =>
    rw [if_neg hne] at h
    split
    · exact ⟨_, rfl⟩
    next t heq => exact absurd (by rw [heq]) (h t)
    · exact ⟨_, rfl⟩

/-- Reading accepts exactly the texts of the grammar. A text that is accepted is the
compact form of the type that was read, the compact form of every well-formed type is
read back, no text denotes two types, and every other text is refused. -/
theorem parse_accepts_grammar (text : String) :
    (∀ t, parse text = .ok t ↔ t.WellFormed ∧ t.text = text) ∧
      (∀ t, parse text = .ok t ↔ Spells t text.toList) ∧
      (∀ t u, Spells t text.toList → Spells u text.toList → t = u) ∧
      ((∀ t, ¬Spells t text.toList) → ∃ fault, parse text = .error ⟨text, fault⟩) := by
  have hgrammar (t : Descriptor) : parse text = .ok t ↔ Spells t text.toList := by
    rw [parse_ok, spells_iff, ← toList_text, String.toList_inj, eq_comm (a := text)]
  refine ⟨fun t => parse_ok, hgrammar, fun t u ht hu => ?_, fun h => ?_⟩
  · have ht := (hgrammar t).mpr ht
    have hu := (hgrammar u).mpr hu
    exact Except.ok.inj (ht.symm.trans hu)
  · exact parse_error fun t ht => h t ((hgrammar t).mp ht)

end Descriptor

end ScriptClass
