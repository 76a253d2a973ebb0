import ScriptClass.Proofs.Value.Passing

/-!
# Arguments and the labels of arrays

A call of host code checks its arguments, and host code relies on it. The check lets in every
argument that has the type of its parameter at every depth (`HostValue.Genuine`). It lets in
arguments that do not, but only such where an array that is labelled with the element type holds an
item that may not be passed as it (`HostValue.Mislabelled`): the label stands in for the items.
Nothing else gets past the check (`arguments_genuine_iff`).
-/

namespace ScriptClass

namespace HostValue

variable {v : HostValue} {t : Descriptor}

/-- The value is one of the type at every depth, whatever its arrays are labelled with. -/
inductive Genuine : HostValue → Descriptor → Prop where
  | primitive {v : HostValue} {kind : Primitive} (h : v.primitive? = some kind) :
    Genuine v (.primitive kind)
  | nullReference {name : String} : Genuine .null (.reference name)
  | nullArray {element : Descriptor} : Genuine .null (.array element)
  | string {s : String} : Genuine (.string s) .string
  | object {o : HostObject} {name : String} (h : o.isInstanceOf name = true) :
    Genuine (.object o) (.reference name)
  | root {v : HostValue} (h : v.isVoid = false) : Genuine v .object
  | array {label element : Descriptor} {items : List HostValue}
    (h : ∀ v ∈ items, Genuine v element) : Genuine (.array label items) (.array element)

/-- In the place of an array type stands an array that is labelled with the element type and holds
an item that may not be passed as it. -/
inductive Mislabelled : HostValue → Descriptor → Prop where
  | here {element : Descriptor} {items : List HostValue} {v : HostValue} (hmem : v ∈ items)
    (h : v.passesAs element = false) : Mislabelled (.array element items) (.array element)
  | item {label element : Descriptor} {items : List HostValue} {v : HostValue} (hmem : v ∈ items)
    (h : Mislabelled v element) : Mislabelled (.array label items) (.array element)

theorem genuine_reference {name : String} :
    v.Genuine (.reference name) ↔ v.passesAs (.reference name) = true := by
  constructor
  · intro h
    cases h with
    | nullReference | string => rfl
    | object h => rw [passesAs, h, Bool.or_true]
    | root h => exact (IsOf.root h).passesAs
  · intro h
    by_cases hroot : name = objectName
    · subst hroot
      refine .root ?_
      cases v with
      | void => exact absurd h Bool.false_ne_true
      | _ => rfl
    · obtain rfl | ⟨s, rfl, rfl⟩ | ⟨o, rfl, ho⟩ := passesAs_reference hroot h
      · exact .nullReference
      · exact .string
      · exact .object ho

/-- What is genuine may be passed, and what may be passed is genuine unless it is mislabelled. -/
theorem genuine_iff : v.Genuine t ↔ v.passesAs t = true ∧ ¬v.Mislabelled t := by
  induction t generalizing v with
  | primitive kind =>
    have hlabel : ¬v.Mislabelled (.primitive kind) := fun h => by cases h
    rw [passesAs, beq_iff_eq, and_iff_left hlabel]
    exact ⟨fun h => by cases h; assumption, .primitive⟩
  | reference name =>
    have hlabel : ¬v.Mislabelled (.reference name) := fun h => by cases h
    rw [and_iff_left hlabel, genuine_reference]
  | array element ih =>
    constructor
    · intro h
      cases h with
      | nullArray => exact ⟨rfl, fun h => by cases h⟩
      | @array label _ items h =>
        have hpass : ∀ u ∈ items, u.passesAs element = true := fun u hu => (ih.mp (h u hu)).1
        refine ⟨?_, fun hlabel => ?_⟩
        · rw [passesAs, allPassAs_iff.mpr hpass, Bool.or_true]
        · cases hlabel with
          | here hmem hnot => exact Bool.false_ne_true (hnot.symm.trans (hpass _ hmem))
          | item hmem hitem => exact (ih.mp (h _ hmem)).2 hitem
    · rintro ⟨hpass, hlabel⟩
      obtain rfl | ⟨label, items, rfl, hitems⟩ := passesAs_array hpass
      · exact .nullArray
      refine .array fun u hu => ih.mpr ⟨?_, fun hitem => hlabel (.item hu hitem)⟩
      rcases hitems with rfl | hall
      · -- the label let the array in, so it is the items that have to be looked at
        by_contra hnot
        exact hlabel (.here hu (Bool.eq_false_iff.mpr hnot))
      · exact hall u hu

/-- An array whose labels are true is not mislabelled. -/
theorem Labelled.not_mislabelled (h : v.Labelled) : ¬v.Mislabelled t := by
  intro hlabel
  induction hlabel with
  | here hmem hnot =>
    cases h with
    | array hof => exact Bool.false_ne_true (hnot.symm.trans (hof _ hmem).passesAs)
    | single hsingle => exact hsingle _ _ rfl
  | item hmem _ ih =>
    cases h with
    | array _ hitems => exact ih (hitems _ hmem)
    | single hsingle => exact hsingle _ _ rfl

end HostValue

open HostValue in
/-- Arguments have the types of the parameters at every depth exactly if the check of the signature
lets them in and none of them is mislabelled. So the check suffices for arguments whose labels are
true. -/
theorem arguments_genuine_iff (s : Signature) (args : List HostValue) :
    (List.Forall₂ Genuine args s.params ↔
      s.checkFit args = .ok () ∧ List.Forall₂ (fun v t => ¬v.Mislabelled t) args s.params) ∧
    ((∀ v ∈ args, v.Labelled) →
      (List.Forall₂ Genuine args s.params ↔ s.checkFit args = .ok ())) := by
  have hall : List.Forall₂ Genuine args s.params ↔ s.checkFit args = .ok () ∧
      List.Forall₂ (fun v t => ¬v.Mislabelled t) args s.params := by
    simp only [checkFit_ok_iff, List.forall₂_iff_zip, genuine_iff]
    exact ⟨fun h => ⟨⟨h.1, fun hmem => (h.2 hmem).1⟩, h.1, fun hmem => (h.2 hmem).2⟩,
      fun h => ⟨h.1.1, fun hmem => ⟨h.1.2 hmem, h.2.2 hmem⟩⟩⟩
  refine ⟨hall, fun hlabels => hall.trans (and_iff_left_of_imp fun hfit => ?_)⟩
  obtain ⟨hlength, -⟩ := List.forall₂_iff_zip.mp (checkFit_ok_iff.mp hfit)
  exact List.forall₂_iff_zip.mpr
    ⟨hlength, fun hmem => (hlabels _ (List.of_mem_zip hmem).1).not_mislabelled⟩

namespace Sample

def sum : Signature := ⟨"sum", [.array (.array (.primitive .int))], .primitive .long⟩

/-- Rows of numbers, labelled as what they are. -/
def grid : HostValue :=
  .array (.array (.primitive .int)) [.array (.primitive .int) [.int 1, .int (-1)], .null]

/-- The same shape, but one row holds a text. -/
def forged : HostValue :=
  .array (.array (.primitive .int)) [.array (.primitive .int) [.int 1, .string "one"], .null]

theorem grid_labelled : grid.Labelled := by
  have hints : ∀ v ∈ [HostValue.int 1, .int (-1)], v.IsOf (.primitive .int) ∧ v.Labelled := by
    simp only [List.forall_mem_cons]
    exact ⟨⟨.primitive rfl, .of_primitive rfl⟩, ⟨.primitive rfl, .of_primitive rfl⟩,
      List.forall_mem_nil _⟩
  have hrow : (HostValue.array (.primitive .int) [.int 1, .int (-1)]).Labelled :=
    .array (fun v hv => (hints v hv).1) fun v hv => (hints v hv).2
  refine .array ?_ ?_ <;> simp only [List.forall_mem_cons]
  · exact ⟨.array fun v hv => (hints v hv).1, .nullArray, List.forall_mem_nil _⟩
  · exact ⟨hrow, .single fun _ _ h => (by cases h), List.forall_mem_nil _⟩

end Sample

open Sample in
theorem grid_is_genuine : (∀ v ∈ [grid], v.Labelled) ∧ sum.checkFit [grid] = .ok () ∧
    List.Forall₂ HostValue.Genuine [grid] sum.params := by
  have hlabels : ∀ v ∈ [grid], v.Labelled := List.forall_mem_singleton.mpr grid_labelled
  have hfit : sum.checkFit [grid] = .ok () := rfl
  exact ⟨hlabels, hfit, ((arguments_genuine_iff sum [grid]).2 hlabels).mpr hfit⟩

open Sample in
/-- A text is let in as one of the numbers that a label promises. -/
theorem forged_row_is_let_in : sum.checkFit [forged] = .ok () ∧
    ¬List.Forall₂ HostValue.Genuine [forged] sum.params := by
  refine ⟨rfl, fun hgenuine => ?_⟩
  obtain ⟨-, hlabel⟩ := (arguments_genuine_iff sum [forged]).1.mp hgenuine
  cases hlabel with
  | cons hlabel _ =>
    exact hlabel (.item List.mem_cons_self (.here (v := .string "one") (by simp) rfl))

end ScriptClass
