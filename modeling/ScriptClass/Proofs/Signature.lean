import ScriptClass.Signature
import ScriptClass.Proofs.Descriptor.Reading

/-!
# Reading method descriptors back

The parameter types of a method descriptor are read one by one, each where the one
before it ends, up to the closing parenthesis (`readParams_ok`). As no compact form is
the beginning of another, the parameters that are read are the only ones that spell
the text, and a method descriptor reads back as the parameters and return type that it
was written from (`parse_ok`).
-/

namespace ScriptClass

namespace Descriptor

variable {t : Descriptor}

theorem isVoid_eq_false : t.isVoid = false ↔ t ≠ .primitive .void := beq_eq_false_iff_ne

/-- No compact form starts with a closing parenthesis. -/
theorem close_not_head {rest tail : List Char} : t.chars ++ rest ≠ ')' :: tail := by
  cases t with
  | primitive kind =>
    intro h
    have hletter : kind.letter = ')' := (List.cons.inj h).1
    revert hletter
    cases kind <;> decide
  | reference name => exact fun h => absurd (List.cons.inj h).1 (by decide)
  | array element => exact fun h => absurd (List.cons.inj h).1 (by decide)

end Descriptor

namespace Signature

variable {position : Nat} {cs rest : List Char} {t returns : Descriptor}
  {ts params : List Descriptor} {name descriptor : String} {s : Signature}

/-- A signature with a descriptor that can be read back: no parameter is `void`. -/
structure WellFormed (s : Signature) : Prop where
  params : ∀ t ∈ s.params, t.WellFormed ∧ t ≠ .primitive .void
  returns : s.returns.WellFormed

/-! ## Parameters -/

/-- No parameters are read where the list is closed at once. -/
theorem readParams_nil_ok : readParams position cs = .ok ([], rest) ↔ cs = ')' :: rest := by
  unfold readParams
  split
  · simp
  · simp
  next c tail hc =>
    constructor
    · intro h
      split at h
      · cases h
      · split at h
        · cases h
        · dsimp only at h
          split at h <;> cases h
    · intro h
      exact absurd (List.cons.inj h).1 hc

/-- One more parameter is a type at the head, other than `void`, with the others behind
it. -/
theorem readParams_cons_ok : readParams position cs = .ok (t :: ts, rest) ↔
    ∃ after, Descriptor.readType position cs = .ok (t, after) ∧ t.isVoid = false ∧
      readParams (position + (Descriptor.byteLength cs - Descriptor.byteLength after)) after =
        .ok (ts, rest) := by
  rw [readParams.eq_def]
  constructor
  · intro h
    split at h
    · cases h
    · cases h
    · split at h
      · cases h
      next u after hread =>
        split at h
        · cases h
        next hvoid =>
          dsimp only at h
          split at h
          · cases h
          next us left hrest =>
            cases h
            exact ⟨after, hread, Bool.not_eq_true _ ▸ hvoid, hrest⟩
  · rintro ⟨after, hread, hvoid, hrest⟩
    split
    · exact absurd (Descriptor.readType_ok.mp hread).2.symm (by simp [Descriptor.chars_ne_nil])
    · exact absurd (Descriptor.readType_ok.mp hread).2.symm Descriptor.close_not_head
    · split
      next hfault =>
        rw [hread] at hfault
        cases hfault
      next hread' =>
        rw [hread] at hread'
        cases hread'
        rw [if_neg (by rw [hvoid]; exact Bool.false_ne_true)]
        simp only [hrest]

/-- Parameters are read exactly where their compact forms stand one behind the other,
with a closing parenthesis after the last. -/
theorem readParams_ok : readParams position cs = .ok (ts, rest) ↔
    (∀ t ∈ ts, t.WellFormed ∧ t ≠ .primitive .void) ∧
      cs = ts.flatMap Descriptor.chars ++ ')' :: rest := by
  induction ts generalizing position cs with
  | nil => simp [readParams_nil_ok]
  | cons t ts ih =>
    simp only [readParams_cons_ok, Descriptor.readType_ok, ih, Descriptor.isVoid_eq_false,
      List.forall_mem_cons, List.flatMap_cons, List.append_assoc]
    constructor
    · rintro ⟨after, ⟨hwf, rfl⟩, hvalue, hts, rfl⟩
      exact ⟨⟨⟨hwf, hvalue⟩, hts⟩, rfl⟩
    · rintro ⟨⟨⟨hwf, hvalue⟩, hts⟩, rfl⟩
      exact ⟨_, ⟨hwf, rfl⟩, hvalue, hts, rfl⟩

/-! ## Whole descriptors -/

theorem readDescriptor_ok : readDescriptor cs = .ok (params, returns) ↔
    (∀ t ∈ params, t.WellFormed ∧ t ≠ .primitive .void) ∧ returns.WellFormed ∧
      cs = '(' :: params.flatMap Descriptor.chars ++ ')' :: returns.chars := by
  constructor
  · intro h
    unfold readDescriptor at h
    dsimp only at h
    split at h
    · cases h
    next tail =>
      split at h
      · cases h
      next ps rest hparams =>
        obtain ⟨hps, rfl⟩ := readParams_ok.mp hparams
        split at h
        · cases h
        next hreturns =>
          cases h
          obtain ⟨hwf, rfl⟩ := Descriptor.readType_ok.mp hreturns
          exact ⟨hps, hwf, by rw [List.append_nil, List.cons_append]⟩
        · cases h
    · cases h
  · rintro ⟨hparams, hreturns, rfl⟩
    have hread : readParams 1 (params.flatMap Descriptor.chars ++ ')' :: returns.chars) =
        .ok (params, returns.chars) := readParams_ok.mpr ⟨hparams, rfl⟩
    have htype (p : Nat) : Descriptor.readType p returns.chars = .ok (returns, []) :=
      Descriptor.readType_ok.mpr ⟨hreturns, (List.append_nil _).symm⟩
    simp only [readDescriptor, List.cons_append, hread, htype]

theorem toList_descriptor (s : Signature) : s.descriptor.toList = s.descriptorChars :=
  String.toList_ofList

/-- A method descriptor is read exactly where it is the descriptor of a well-formed
signature. -/
theorem parse_ok : parse name descriptor = .ok s ↔
    s.name = name ∧ s.WellFormed ∧ s.descriptor = descriptor := by
  have hread : parse name descriptor = .ok s ↔
      s.name = name ∧ readDescriptor descriptor.toList = .ok (s.params, s.returns) := by
    unfold parse
    split
    next hfault => simp [hfault]
    next ps ret hread =>
      rw [hread]
      simp only [Except.ok.injEq, Prod.mk.injEq]
      constructor
      · rintro rfl
        exact ⟨rfl, rfl, rfl⟩
      · rintro ⟨rfl, rfl, rfl⟩
        rfl
  rw [hread, readDescriptor_ok]
  constructor
  · rintro ⟨hname, hparams, hreturns, htext⟩
    refine ⟨hname, ⟨hparams, hreturns⟩, String.toList_inj.mp ?_⟩
    rw [toList_descriptor, htext, descriptorChars]
  · rintro ⟨hname, hwf, rfl⟩
    exact ⟨hname, hwf.params, hwf.returns, by rw [toList_descriptor, descriptorChars]⟩

/-- A refused method descriptor is named in the error. -/
theorem parse_error (h : ∀ s, parse name descriptor ≠ .ok s) :
    ∃ fault, parse name descriptor = .error ⟨descriptor, fault⟩ := by
  unfold parse at h ⊢
  split
  · exact ⟨_, rfl⟩
  next heq => exact absurd (by rw [heq]) (h _)

end Signature

end ScriptClass
