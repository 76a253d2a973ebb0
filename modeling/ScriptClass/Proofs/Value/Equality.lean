import ScriptClass.Proofs.Number.Equality
import ScriptClass.Value.Basic

/-!
# Equality of script values

Equality of script values is symmetric. It is transitive but for numbers: two integers that have no
doubles of their own may both equal one float and not each other (`ScriptValue.Blurred`). This is the
only way in which equal values do not chain (`ScriptValue.equality_chains_unless_blurred`), and
integers of at most 53 bits besides the sign are not concerned.
-/

namespace ScriptClass

open Number

theorem HostObject.same_comm (o p : HostObject) : o.same p = p.same o := by
  cases o <;> cases p <;> first | exact Bool.beq_comm | rfl

theorem HostObject.same_trans {o p q : HostObject} (hop : o.same p = true) (hpq : p.same q = true) :
    o.same q = true := by
  cases o <;> cases p <;> cases q <;> simp_all [same]

theorem ScriptObject.same_comm (o p : ScriptObject) : o.same p = p.same o := by
  cases o <;> cases p <;> first | exact Bool.beq_comm | rfl

theorem ScriptObject.same_trans {o p q : ScriptObject} (hop : o.same p = true)
    (hpq : p.same q = true) : o.same q = true := by
  cases o <;> cases p <;> cases q <;> simp_all [same]

namespace ScriptValue

variable {a b c : ScriptValue} {as bs cs : List ScriptValue} {x : Double} {m n : Int64}

mutual

theorem equal_comm : (a b : ScriptValue) → a.equal b = b.equal a
  | .array as, b => by
    cases b with
    | array bs => rw [equal, equal, allEqual_comm as bs]
    | _ => rfl
  | .float x, b => by
    cases b with
    | float y => exact x.numEq_comm y
    | _ => rfl
  | .object o, b => by
    cases b with
    | object p => exact o.same_comm p
    | _ => rfl
  | .native o, b => by
    cases b with
    | native p => exact o.same_comm p
    | _ => rfl
  | .undefined, b | .null, b | .bool _, b | .int _, b | .string _, b | .function _, b => by
    cases b <;> first | exact Bool.beq_comm | rfl

theorem allEqual_comm : (as bs : List ScriptValue) → allEqual as bs = allEqual bs as
  | [], [] | [], _ :: _ | _ :: _, [] => rfl
  | a :: as, b :: bs => by rw [allEqual, allEqual, equal_comm a b, allEqual_comm as bs]

end

/-! ## Numbers -/

/-- What equals a number is a number with an equal double. -/
theorem number?_of_equal (ha : a.number? = some x) (h : a.equal b = true) :
    ∃ y, b.number? = some y ∧ x.numEq y = true := by
  cases a with
  | int m =>
    cases ha
    cases b with
    | int n =>
      obtain rfl : m = n := beq_iff_eq.mp h
      exact ⟨_, rfl, Double.numEq_ofInt_self _⟩
    | float y => exact ⟨y, rfl, h⟩
    | _ => cases h
  | float x =>
    cases ha
    cases b with
    | int n => exact ⟨_, rfl, (x.numEq_comm _).trans h⟩
    | float y => exact ⟨y, rfl, h⟩
    | _ => cases h
  | _ => cases ha

theorem float_equal_of_number? {y : Double} (hb : b.number? = some y) (h : x.numEq y = true) :
    (float x).equal b = true := by
  cases b with
  | int n =>
    cases hb
    exact (Double.numEq_comm ..).trans h
  | float y =>
    cases hb
    exact h
  | _ => cases hb

theorem float_equal_trans (hab : (float x).equal b = true) (hbc : b.equal c = true) :
    (float x).equal c = true := by
  obtain ⟨y, hb, hxy⟩ := number?_of_equal rfl hab
  obtain ⟨z, hc, hyz⟩ := number?_of_equal hb hbc
  exact float_equal_of_number? hc (Double.numEq_trans hxy hyz)

/-- At one place in the arrays, however deep, a float stands between different integers that are
too great to have doubles of their own. -/
inductive Blurred : ScriptValue → ScriptValue → ScriptValue → Prop where
  | number {m n : Int64} {x : Double} (hne : m ≠ n) (hm : 2 ^ 53 ≤ m.toInt.natAbs)
    (hn : 2 ^ 53 ≤ n.toInt.natAbs) : Blurred (.int m) (.float x) (.int n)
  | item {as bs cs : List ScriptValue} {a b c : ScriptValue} (i : ℕ) (ha : as[i]? = some a)
    (hb : bs[i]? = some b) (hc : cs[i]? = some c) (h : Blurred a b c) :
    Blurred (.array as) (.array bs) (.array cs)

/-- Different integers with one double are too great to have doubles of their own. -/
theorem blurred_of_numEq (hne : m ≠ n) (hm : (Double.ofInt m.toInt).numEq x = true)
    (hn : x.numEq (.ofInt n.toInt) = true) : Blurred (.int m) (.float x) (.int n) := by
  have hnumbers : m.toInt ≠ n.toInt := mt Int64.toInt_inj.mp hne
  have h := Double.numEq_trans hm hn
  refine .number hne (not_lt.mp fun hlt => hnumbers ?_) (not_lt.mp fun hlt => hnumbers ?_)
  · exact Double.eq_of_numEq_ofInt hlt h
  · exact (Double.eq_of_numEq_ofInt hlt ((Double.numEq_comm ..).trans h)).symm

theorem int_equal_or_blurred (hab : (int m).equal b = true) (hbc : b.equal c = true) :
    (int m).equal c = true ∨ Blurred (.int m) b c := by
  cases b with
  | int n =>
    obtain rfl : m = n := beq_iff_eq.mp hab
    exact .inl hbc
  | float x =>
    cases c with
    | int n =>
      by_cases hne : m = n
      · exact .inl (beq_iff_eq.mpr hne)
      · exact .inr (blurred_of_numEq hne hab ((Double.numEq_comm ..).trans hbc))
    | float y => exact .inl (Double.numEq_trans hab hbc)
    | _ => cases hbc
  | _ => cases hab

/-! ## Arrays -/

theorem Blurred.cons (h : Blurred (.array as) (.array bs) (.array cs)) :
    Blurred (.array (a :: as)) (.array (b :: bs)) (.array (c :: cs)) := by
  obtain _ | ⟨i, ha, hb, hc, h⟩ := h
  exact .item (i + 1) ha hb hc h

mutual

theorem equal_or_blurred : (a b c : ScriptValue) → a.equal b = true → b.equal c = true →
    a.equal c = true ∨ Blurred a b c
  | .array as, .array bs, .array cs, hab, hbc => by
    rw [equal] at hab hbc ⊢
    exact allEqual_or_blurred as bs cs hab hbc
  | .int m, b, c, hab, hbc => int_equal_or_blurred hab hbc
  | .float x, b, c, hab, hbc => .inl (float_equal_trans hab hbc)
  | .object o, .object p, .object q, hab, hbc => .inl (o.same_trans hab hbc)
  | .native o, .native p, .native q, hab, hbc => .inl (o.same_trans hab hbc)
  | .undefined, .undefined, .undefined, _, _ | .null, .null, .null, _, _ => .inl rfl
  | .bool _, .bool _, .bool _, hab, hbc | .string _, .string _, .string _, hab, hbc
  | .function _, .function _, .function _, hab, hbc =>
    .inl (beq_iff_eq.mpr ((beq_iff_eq.mp hab).trans (beq_iff_eq.mp hbc)))

theorem allEqual_or_blurred : (as bs cs : List ScriptValue) → allEqual as bs = true →
    allEqual bs cs = true → allEqual as cs = true ∨ Blurred (.array as) (.array bs) (.array cs)
  | [], [], [], _, _ => .inl rfl
  | a :: as, b :: bs, c :: cs, hab, hbc => by
    rw [allEqual, Bool.and_eq_true] at hab hbc ⊢
    rcases equal_or_blurred a b c hab.1 hbc.1 with hac | hblurred
    · rcases allEqual_or_blurred as bs cs hab.2 hbc.2 with hacs | hblurred
      · exact .inl ⟨hac, hacs⟩
      · exact .inr hblurred.cons
    · exact .inr (.item 0 rfl rfl rfl hblurred)

end

theorem equal_of_allEqual {i : ℕ} (h : allEqual as cs = true) (ha : as[i]? = some a)
    (hc : cs[i]? = some c) : a.equal c = true := by
  induction i generalizing as cs with
  | zero =>
    obtain ⟨as, rfl⟩ := List.head?_eq_some_iff.mp (List.head?_eq_getElem? ▸ ha)
    obtain ⟨cs, rfl⟩ := List.head?_eq_some_iff.mp (List.head?_eq_getElem? ▸ hc)
    exact (Bool.and_eq_true .. ▸ h).1
  | succ i ih =>
    cases as <;> cases cs <;> first | cases ha | cases hc | skip
    exact ih (Bool.and_eq_true .. ▸ h).2 ha hc

theorem Blurred.not_equal (h : Blurred a b c) : a.equal c ≠ true := by
  induction h with
  | number hne _ _ => exact mt beq_iff_eq.mp hne
  | item i ha _ hc _ ih =>
    rw [equal]
    exact fun h => ih (equal_of_allEqual h ha hc)

/-- Equality is symmetric, and of three values the first equals the last if it equals the second and
the second the last, unless integers too great for a double are blurred. -/
theorem equality_chains_unless_blurred (a b c : ScriptValue) :
    a.equal b = b.equal a ∧
    (a.equal b = true → b.equal c = true → (a.equal c = true ↔ ¬Blurred a b c)) := by
  refine ⟨equal_comm a b, fun hab hbc => ⟨fun hac hblurred => hblurred.not_equal hac, fun h => ?_⟩⟩
  exact (equal_or_blurred a b c hab hbc).resolve_right h

open Double in
/-- A text and numbers in arrays of arrays. -/
theorem nested_numbers_chain :
    (array [array [int 2, string "two"]]).equal (array [array [float (ofInt 2), string "two"]]) = true ∧
      (array [array [float (ofInt 2), string "two"]]).equal (array [array [int 2, string "two"]]) =
        true ∧
      ¬Blurred (array [array [int 2, string "two"]]) (array [array [float (ofInt 2), string "two"]])
        (array [array [int 2, string "two"]]) := by
  have hab : (array [array [int 2, string "two"]]).equal
      (array [array [float (ofInt 2), string "two"]]) = true := by decide +kernel
  have hchains := equality_chains_unless_blurred (array [array [int 2, string "two"]])
    (array [array [float (ofInt 2), string "two"]]) (array [array [int 2, string "two"]])
  have hba := hchains.1.symm.trans hab
  exact ⟨hab, hba, (hchains.2 hab hba).mp (by decide +kernel)⟩

/-- `2 ^ 53` as a float equals two integers. -/
theorem neighbours_equal_one_float :
    (int 9007199254740992).equal (float (.ofInt (2 ^ 53))) = true ∧
      (float (.ofInt (2 ^ 53))).equal (int 9007199254740993) = true ∧
      (int 9007199254740992).equal (int 9007199254740993) = false := by
  decide +kernel

end ScriptValue

end ScriptClass
