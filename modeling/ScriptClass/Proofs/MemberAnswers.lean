import ScriptClass.Proofs.StaticFacet
import ScriptClass.Proofs.Generation.MemberNames

/-!
# What an object answers about an id

Objects of a class and its static facet say by id what a member is called, how many parameters it
has, and run it. All three go by the callable behind the id (`Members.behind?`). What an object names
it also runs: the execution of the id may be refused, but not for want of the member or of an object
to run it on (`Generated.named_members_run`). The number of parameters is known for named members
only, except that a static facet knows it for the typed instance callables, which it neither names
nor runs.
-/

namespace ScriptClass

/-- The error says that there is no member, or no object to run it on. -/
def RuntimeError.deniesMember : RuntimeError → Bool
  | .noSuchMember _ _ | .incompatibleReceiver _ _ => true
  | _ => false

/-! ## The callable behind an id -/

/-- The callable behind an id: that of the facet which owns the id, or the script constructor. -/
def Members.behind? (ms : Members) (id : MemberId) : Option Member :=
  match id.facet? with
  | some facet => (ms.part facet).method? id
  | none => if id.isConstructor then ms.instances.constructor else none

namespace WrapperPlan

variable {instances statics : Option Entries} {ms : Members} (name : String) {id : MemberId}

theorem member?_eq_behind? (h : Members.collect instances statics = .ok ms) (fit : ms.Fit)
    (id : MemberId) : (ofMembers name ms).member? id = ms.behind? id := by
  have hagree := Members.ids_agree h fit name
  unfold Members.behind?
  split
  next facet hfacet => exact hagree.owned hfacet
  next hfacet =>
    split
    next hconstructor => rw [MemberId.eq_constructor hconstructor, hagree.constructor]
    next hconstructor => exact hagree.unowned hfacet (Bool.eq_false_iff.mpr hconstructor)

theorem keyOf?_eq_behind? (h : Members.collect instances statics = .ok ms) (fit : ms.Fit)
    (id : MemberId) : (ofMembers name ms).keyOf? id =
      if id.isConstructor then some (((ms.behind? id).map Member.key).getD constructorName)
      else (ms.behind? id).map Member.key := by
  rw [keyOf?, member?_eq_behind? name h fit]
  split
  next hconstructor =>
    obtain rfl := MemberId.eq_constructor hconstructor
    rfl
  next => rfl

end WrapperPlan

namespace Members

variable {instances statics : Option Entries} {ms : Members} {id : MemberId} {facet : Facet}
  {m : Member}

/-- The callable behind an id of a facet stands at its place. -/
theorem place_of_behind? (h : collect instances statics = .ok ms) (hid : id.facet? = some facet)
    (hm : ms.behind? id = some m) : ∃ i, id = .ofIndex facet i ∧ (ms.methods facet)[i]? = some m := by
  obtain ⟨i, hindex, hplace, hconstructor, -⟩ := MemberId.eq_ofIndex hid
  simp only [behind?, hid] at hm
  rw [CollectedFacet.method?_eq (collect_part h facet) hindex hplace hconstructor,
    methods_part] at hm
  exact ⟨i, hplace, hm⟩

/-- A callable is behind its id. -/
theorem behind?_of_mem (h : collect instances statics = .ok ms) (fit : ms.Fit)
    (hm : m ∈ ms.methods facet) : ms.behind? m.id = some m := by
  obtain ⟨i, hi⟩ := List.mem_iff_getElem?.mp hm
  rw [← WrapperPlan.member?_eq_behind? "" h fit, numbered_of_collect h facet i m hi,
    WrapperPlan.member?_ofIndex "" fit hi]

/-- What is behind an id that is not the constructor's is a member of the facet that owns it. -/
theorem facet?_of_behind? (hconstructor : id.isConstructor ≠ true) (hm : ms.behind? id = some m) :
    ∃ facet, id.facet? = some facet := by
  cases hfacet : id.facet? with
  | some facet => exact ⟨facet, rfl⟩
  | none =>
    simp only [behind?, hfacet, if_neg hconstructor] at hm
    cases hm

end Members

/-! ## Executing an id -/

namespace Run

/-- What the execution of an id comes to, given the callable behind the id. It is refused, though not
for want of the member or of an object; it makes an object without more ado; or it runs the code of
the callable. -/
inductive Begins (s : Store) (m? : Option Member) (args : List ScriptValue) :
    Except Halt (Option ScriptValue) × Store → Prop where
  | refused {e : RuntimeError} {t : Store} (he : e.deniesMember = false) :
    Begins s m? args (.error (.failed e), t)
  | made {p : Pair} {t : Store} (hm : m? = none) :
    Begins s m? args (.ok (some (.object (.pair p))), t)
  | code {m : Member} {code : FunctionCode} {fuel context : ℕ} {cs : Contexts} {this : ScriptValue}
    {t : Store} (answer : ScriptValue → ScriptValue) (hm : m? = some m)
    (hcode : s.functions[m.function.id]? = some code) (hpush : t.contexts.pushCall context = .ok cs) :
    Begins s m? args (Prod.map (Except.map (some ∘ answer)) id (leave t context
      ((runCode fuel context code this args).run (t.inside cs (.function m.function :: this :: args)))))

variable {s t : Store} {w : WrapperRef} {ms : Members} {c : Wrapper} {m : Member}
  {args : List ScriptValue}

theorem deniesMember_pushCall {cs : Contexts} {context : ℕ} {e : RuntimeError}
    (h : cs.pushCall context = .error e) : e.deniesMember = false := by
  unfold Contexts.pushCall at h
  split at h
  · cases h
    rfl
  · split at h <;> cases h
    rfl

/-- A call of the callable is refused by the context, or runs its code. -/
theorem Begins.call (hfunctions : t.functions = s.functions) (fuel context : ℕ) (this : ScriptValue)
    (answer : ScriptValue → ScriptValue) :
    Begins s (some m) args (Prod.map (Except.map (some ∘ answer)) id
      ((callFunction (fuel + 1) context m.function this args).run t)) := by
  cases hpush : t.contexts.pushCall context with
  | error e =>
    rw [callFunction_of_refused hpush]
    exact .refused (deniesMember_pushCall hpush)
  | ok cs =>
    cases hcode : t.functions[m.function.id]? with
    | none =>
      rw [callFunction_succ, run_withCall_keeping hpush, run_bind, run_get]
      simp only [Store.inside_functions, hcode]
      exact .refused rfl
    | some code =>
      rw [callFunction_of_code hpush hcode]
      exact .code answer rfl (hfunctions ▸ hcode) hpush

/-- Making an object does not touch the functions, and is not refused for want of a member. -/
theorem makePair_begins (hc : s.wrapper? w = some c) (args : List ScriptValue) :
    (∃ e, (makePair w args).run s = (.error (.failed e), s) ∧ e.deniesMember = false) ∨
      ∃ p t, (makePair w args).run s = (.ok (c, p), t) ∧ t.functions = s.functions := by
  rw [run_makePair hc]
  split
  · split
    · exact .inl ⟨_, rfl, rfl⟩
    · split
      · exact .inl ⟨_, rfl, rfl⟩
      · split
        next hfit =>
          refine .inl ⟨_, rfl, ?_⟩
          obtain ⟨_, _, rfl⟩ | ⟨_, _, _, rfl⟩ := checkScriptFit_error hfit <;> rfl
        next => exact .inr ⟨_, _, rfl, rfl⟩
  · exact .inl ⟨_, rfl, rfl⟩

/-- Likewise for the static facet of a class. -/
theorem facetOf_begins (hc : s.wrapper? w = some c) :
    (∃ e, (facetOf w).run s = (.error (.failed e), s) ∧ e.deniesMember = false) ∨
      ∃ f t, (facetOf w).run s = (.ok f, t) ∧ t.functions = s.functions := by
  simp only [facetOf, run_bind, run_wrapper hc, run_checkBound]
  cases c.isBound with
  | false => exact .inl ⟨_, rfl, rfl⟩
  | true =>
    simp only [if_true, run_get]
    cases c.facet.filter fun f => s.isHeld (.facet f) with
    | some f => exact .inr ⟨f, s, rfl, rfl⟩
    | none =>
      simp only [run_bind, backing]
      cases c.backing with
      | none => exact .inl ⟨_, rfl, rfl⟩
      | some b => exact .inr ⟨_, _, rfl, rfl⟩

theorem run_answer {α β : Type} (x : Run α) (f : α → β) (s : Store) :
    (do return f (← x) : Run β).run s = Prod.map (Except.map f) id (x.run s) := by
  rw [run_bind]
  rcases x.run s with ⟨_ | _, _⟩ <;> rfl

/-- The id of the constructor makes an object. -/
theorem dispatch_constructor_begins (hms : s.HasMembers w ms) (fuel context : ℕ)
    (receiver : Option Pair) (args : List ScriptValue) :
    Begins s ms.instances.constructor args (Prod.map (Except.map some) id
      ((dispatch (fuel + 3) context w receiver .constructor args).run s)) := by
  obtain ⟨c, hc, name, hplan⟩ := hms.wrapper
  have hlookup : c.plan.handlers.lookup .constructor = .constructor := by
    rw [hplan]
    exact HandlerTable.lookup_constructor hms.fit
  have hconstructor : c.plan.constructor = ms.instances.constructor := by
    rw [hplan]
    rfl
  rw [dispatch, run_bind_ok (run_wrapper hc), hlookup, construct_succ]
  dsimp only
  rw [run_answer, run_bind]
  rcases makePair_begins hc args with ⟨e, he, hdenies⟩ | ⟨p, t, hp, hfunctions⟩
  · rw [he]
    exact .refused hdenies
  · rw [hp]
    dsimp only
    rw [runConstructor, hconstructor]
    cases hm : ms.instances.constructor with
    | none => exact .made rfl
    | some m =>
      -- whatever the script constructor gives, the answer is the object
      have hcall : Begins s (some m) args _ :=
        .call hfunctions fuel context (.object (.pair p)) fun _ => .object (.pair p)
      dsimp only
      rw [run_answer]
      generalize (callFunction (fuel + 1) context m.function _ args).run t = x at hcall ⊢
      rcases x with ⟨_ | _, _⟩ <;> exact hcall

/-- The id of a callable calls it, if there is an object to call it on. -/
theorem dispatch_member_begins (hms : s.HasMembers w ms) {facet : Facet} {i : ℕ}
    (hm : (ms.methods facet)[i]? = some m) {receiver : Option Pair}
    (hreceiver : facet = .instances → receiver.isSome = true) (fuel context : ℕ)
    (args : List ScriptValue) :
    Begins s (some m) args (Prod.map (Except.map some) id
      ((dispatch (fuel + 3) context w receiver (.ofIndex facet i) args).run s)) := by
  cases facet with
  | instances =>
    obtain ⟨p, rfl⟩ := Option.isSome_iff_exists.mp (hreceiver rfl)
    rw [dispatch_instance hms hm]
    exact .call rfl (fuel + 1) context _ id
  | statics =>
    obtain ⟨c, hc, -⟩ := hms.wrapper
    rw [dispatch_static hms hm, run_bind]
    rcases facetOf_begins hc with ⟨e, he, hdenies⟩ | ⟨f, t, hf, hfunctions⟩
    · rw [he]
      exact .refused hdenies
    · rw [hf]
      exact .call hfunctions (fuel + 1) context _ id

/-- An id is executed by dispatching it on the object, in the thread's context. -/
theorem executeId_begins {o : ScriptObject} {facet : Facet} {member : MemberId} {m? : Option Member}
    {fuel : ℕ} (hside : o.side? = some (w, facet))
    (hdispatch : ∀ context receiver, (facet = .instances → receiver.isSome = true) →
      Begins s m? args (Prod.map (Except.map some) id
        ((dispatch fuel context w receiver member args).run s))) :
    Begins s m? args ((executeId fuel o member args).run s) := by
  rw [executeId]
  cases hactive : s.contexts.active with
  | none =>
    rw [run_bind, run_currentContext_none hactive]
    exact .refused rfl
  | some context =>
    rw [run_bind_ok (run_currentContext hactive)]
    cases o with
    | plain => cases hside
    | pair p =>
      cases hside
      dsimp only
      rw [run_answer]
      exact hdispatch context (some p) fun _ => rfl
    | facet f =>
      cases hside
      dsimp only
      rw [run_answer]
      exact hdispatch context none fun h => absurd h (by decide)

end Run

namespace Generated

variable {base : HostType} {interfaces : List HostType} {instances : Option Entries} {ms : Members}
  {l : LoadedClass} {s : Store} {o : ScriptObject} {facet : Facet}

theorem keyOf?_eq (h : Generated base interfaces instances ms l s)
    (hside : o.side? = some (l.wrapper, facet)) (id : MemberId) : s.keyOf? o id =
      if facet = .statics ∧ id.isInstance = true then none
      else if id.isConstructor then some (((ms.behind? id).map Member.key).getD constructorName)
      else (ms.behind? id).map Member.key := by
  obtain ⟨c, name, statics, hc, hplan, hcollect⟩ := h.plan
  rw [← WrapperPlan.keyOf?_eq_behind? name hcollect h.fit id]
  generalize l.wrapper = w at hside hc
  cases o with
  | plain => cases hside
  | pair p =>
    cases hside
    rw [Store.keyOf?, hc, Option.bind_some, hplan, if_neg fun h => absurd h.1 (by decide)]
  | facet f =>
    cases hside
    simp only [Store.keyOf?, hc, Option.bind_some, hplan, true_and]

theorem arityOf?_eq (h : Generated base interfaces instances ms l s)
    (hside : o.side? = some (l.wrapper, facet)) (id : MemberId) :
    s.arityOf? o id = (ms.behind? id).bind Member.arity := by
  obtain ⟨c, name, statics, hc, hplan, hcollect⟩ := h.plan
  rw [← WrapperPlan.member?_eq_behind? name hcollect h.fit id]
  generalize l.wrapper = w at hside hc
  cases o with
  | plain => cases hside
  | pair p =>
    cases hside
    rw [Store.arityOf?, hc, Option.bind_some, hplan]
  | facet f =>
    cases hside
    simp only [Store.arityOf?, hc, Option.bind_some, hplan]
    split
    next hconstructor =>
      rw [MemberId.eq_constructor hconstructor,
        (Members.ids_agree hcollect h.fit name).constructor]
      rfl
    next => rfl

/-- Only a static facet knows how many parameters a member has that it does not name, and it does so
for the typed instance callables. -/
theorem unnamed_arity_iff (h : Generated base interfaces instances ms l s)
    (hside : o.side? = some (l.wrapper, facet)) (id : MemberId) :
    (s.arityOf? o id).isSome = true ∧ s.keyOf? o id = none ↔
      facet = .statics ∧ ∃ m ∈ ms.methods .instances, m.id = id ∧ m.isTyped = true := by
  obtain ⟨-, -, statics, -, -, hcollect⟩ := h.plan
  rw [h.keyOf?_eq hside, h.arityOf?_eq hside]
  constructor
  · rintro ⟨harity, hkey⟩
    obtain ⟨k, hk⟩ := Option.isSome_iff_exists.mp harity
    obtain ⟨m, hm, hk⟩ := Option.bind_eq_some_iff.mp hk
    have htyped : m.isTyped = true := by
      obtain ⟨sig, hsig, -⟩ := Option.map_eq_some_iff.mp hk
      exact Option.isSome_iff_exists.mpr ⟨sig, hsig⟩
    rw [hm] at hkey
    split at hkey
    next hhidden =>
      obtain ⟨i, hid, hi⟩ :=
        Members.place_of_behind? hcollect (MemberId.isInstance_iff.mp hhidden.2) hm
      exact ⟨hhidden.1, m, List.mem_of_getElem? hi, (h.numbered _ i m hi).trans hid.symm, htyped⟩
    next => split at hkey <;> cases hkey
  · rintro ⟨rfl, m, hmem, rfl, htyped⟩
    have hinstance := MemberId.isInstance_iff.mpr (Members.facet?_of_mem hcollect h.fit hmem)
    rw [Members.behind?_of_mem hcollect h.fit hmem, if_pos ⟨rfl, hinstance⟩]
    exact ⟨Option.isSome_map.trans htyped, rfl⟩

/-- What is named by an id is executed. -/
theorem begins_of_named (h : Generated base interfaces instances ms l s)
    (hside : o.side? = some (l.wrapper, facet)) {id : MemberId} {n : String}
    (hn : s.keyOf? o id = some n) (fuel : ℕ) (args : List ScriptValue) :
    Run.Begins s (ms.behind? id) args ((Run.executeId (fuel + 3) o id args).run s) := by
  obtain ⟨-, -, statics, -, -, hcollect⟩ := h.plan
  rw [h.keyOf?_eq hside] at hn
  refine Run.executeId_begins hside fun context receiver hreceiver => ?_
  split at hn
  · cases hn
  next hnamed =>
    split at hn
    next hconstructor =>
      obtain rfl := MemberId.eq_constructor hconstructor
      exact Run.dispatch_constructor_begins h.hasMembers fuel context receiver args
    next hconstructor =>
      obtain ⟨m, hm, rfl⟩ := Option.map_eq_some_iff.mp hn
      obtain ⟨owner, howner⟩ := Members.facet?_of_behind? hconstructor hm
      obtain ⟨i, rfl, hi⟩ := Members.place_of_behind? hcollect howner hm
      rw [hm]
      refine Run.dispatch_member_begins h.hasMembers hi (fun hinstances => hreceiver ?_) ..
      cases facet with
      | instances => rfl
      | statics => exact absurd ⟨rfl, MemberId.isInstance_iff.mpr (hinstances ▸ howner)⟩ hnamed

/-- What an object of the class, or its static facet, names by an id is the callable behind it, or
the constructor if nothing was written for it, and executing the id begins with just that: it is not
refused for want of the member or of an object. An object knows how many parameters a member has only
if it names it. A static facet knows it of the typed instance callables too, which it does not
name. -/
theorem named_members_run (h : Generated base interfaces instances ms l s)
    (hside : o.side? = some (l.wrapper, facet)) (id : MemberId) :
    ((s.arityOf? o id).isSome = true ∧ s.keyOf? o id = none ↔
      facet = .statics ∧ ∃ m ∈ ms.methods .instances, m.id = id ∧ m.isTyped = true) ∧
    ∀ n, s.keyOf? o id = some n → ((ms.behind? id).map Member.key).getD constructorName = n ∧
      ∀ fuel args,
        Run.Begins s (ms.behind? id) args ((Run.executeId (fuel + 3) o id args).run s) := by
  refine ⟨h.unnamed_arity_iff hside id, fun n hn => ⟨?_, h.begins_of_named hside hn⟩⟩
  rw [h.keyOf?_eq hside] at hn
  split at hn
  · cases hn
  · split at hn
    · exact Option.some.inj hn
    · rw [hn, Option.getD_some]

end Generated

namespace Sample

/-- The callable of `adder`. -/
def addition : Member :=
  ⟨"add(I)I", ⟨"add", some ⟨"add", [.primitive .int], .primitive .int⟩⟩, ⟨2⟩, ⟨0, none, none⟩⟩

/-- A typed function of each object. -/
def adder : ClassRequest where
  instances := some [("add(I)I", .function addition.function)]
  name := some "Adder"

/-- The members of `adder`. -/
def adderMembers : Members where
  instances := ⟨.instances, [], [addition], none⟩
  statics := .empty .statics

theorem parse_add : MemberKey.parse "add(I)I" = .ok addition.parsed := by decide +kernel

theorem collect_adder : Members.collect adder.instances adder.statics = .ok adderMembers := by
  have hadd : CollectedFacet.collect .instances adder.instances = .ok adderMembers.instances := by
    show ((CollectedFacet.empty .instances).add _ >>= pure) = _
    simp only [CollectedFacet.add, parse_add]
    rfl
  simp only [Members.collect, hadd]
  rfl

end Sample

set_option maxRecDepth 10000 in
open Sample in
/-- An adder names and runs its member. -/
theorem adder_runs_addition : ∃ f p s, object (speaking ["a sum"]) adder = some (f, p, s) ∧
    s.keyOf? (.pair p) ⟨2⟩ = some "add(I)I" ∧
      (∀ args, Run.Begins s (some addition) args ((Run.executeId 3 (.pair p) ⟨2⟩ args).run s)) ∧
      (s.arityOf? (.facet f) ⟨2⟩).isSome = true ∧ s.keyOf? (.facet f) ⟨2⟩ = none := by
  have h : (object (speaking ["a sum"]) adder).any (fun (_, p, s) =>
      s.keyOf? (.pair p) ⟨2⟩ = some "add(I)I") = true := by decide +kernel
  obtain ⟨⟨f, p, s⟩, ho, h⟩ := (Option.any_eq_true _ _).mp h
  have hkey := of_decide_eq_true h
  obtain ⟨s₀, hgen, hp, hlater⟩ := object_some ho
  obtain ⟨ms, hms, hclass⟩ := generate_ok hgen
  rw [collect_adder] at hms
  cases hms
  have hclass := hclass ⟨by decide, by decide⟩
  have hside : (ScriptObject.pair p).side? = some (f.wrapper, .instances) := by
    rw [ScriptObject.side?, (hclass.isOf_of_construct hp).2]
    rfl
  have hpair := ((hclass.later hlater).named_members_run hside ⟨2⟩).2 _ hkey
  have hfacet := ((hclass.later hlater).named_members_run (o := .facet f) rfl ⟨2⟩).1
  exact ⟨f, p, s, ho, hkey, hpair.2 0, hfacet.mpr ⟨rfl, addition, List.mem_singleton_self _, rfl, rfl⟩⟩

set_option maxRecDepth 10000 in
open Sample in
/-- The static facet of the class knows the parameters of a member that it does not name. -/
theorem static_facet_counts_unnamed_parameters : ∃ f p s,
    object (speaking ["a sum"]) adder = some (f, p, s) ∧
      s.arityOf? (.facet f) ⟨2⟩ = some 1 ∧ s.keyOf? (.facet f) ⟨2⟩ = none := by
  have h : (object (speaking ["a sum"]) adder).any (fun (f, _, s) =>
      s.arityOf? (.facet f) ⟨2⟩ = some 1 ∧ s.keyOf? (.facet f) ⟨2⟩ = none) = true := by decide +kernel
  obtain ⟨⟨f, p, s⟩, ho, h⟩ := (Option.any_eq_true _ _).mp h
  exact ⟨f, p, s, ho, of_decide_eq_true h⟩

end ScriptClass
