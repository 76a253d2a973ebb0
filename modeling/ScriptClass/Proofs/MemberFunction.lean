import ScriptClass.Proofs.Forwarding

/-!
# Member functions

A member of a generated class is read as a function that keeps a number of the
class, but dispatches it through whatever object it is applied to. The number is
always that of a member of the name or key that was read (`pickMember_spec`), for a
bare name that of the first which takes the arguments (`pickMember_name`). Applied to
an object of the class the function runs that member; applied to an object of another
class it runs the callable that stands at the same place there
(`member_function_runs_the_place`), which may well be another member
(`member_function_crosses_classes`).
-/

namespace ScriptClass

/-- The wrapper class of a two-sided object, and the facet that script reads on it. -/
def ScriptObject.side? : ScriptObject → Option (WrapperRef × Facet)
  | .plain _ => none
  | .pair p => some (p.wrapper, .instances)
  | .facet f => some (f.wrapper, .statics)

/-- The wrapper class of a two-sided object. -/
def ScriptValue.wrapper? : ScriptValue → Option WrapperRef
  | .object (.pair p) => some p.wrapper
  | .object (.facet f) => some f.wrapper
  | _ => none

/-- Whether the value is a static facet, which has no instance members. -/
def ScriptValue.isFacet : ScriptValue → Bool
  | .object (.facet _) => true
  | _ => false

namespace Store

/-- The data that hides a member of the same name. -/
def data? (s : Store) (o : ScriptObject) (name : String) : Option ScriptValue :=
  match o with
  | .plain id => (s.literal id).get? name
  | .pair p => (s.properties p).get? name
  | .facet f => (s.wrapper? f.wrapper).bind (·.plan.classData? name)

variable {s s₁ : Store} {w : WrapperRef} {facet : Facet} {n : String} {f : FunctionRef}
  {ms : Members}

/-- The function for a member of a class keeps the number of a member that has the
name or key. It is exact if the key is more than the name. -/
theorem memberFunction_member (hms : s.HasMembers w ms)
    (hn : ∃ m ∈ ms.methods facet, m.name = n ∨ m.key = n) :
    ∃ i m, (ms.methods facet)[i]? = some m ∧ (m.name = n ∨ m.key = n) ∧
      s.memberFunction w facet n =
        (some ⟨s.functions.size, some n, none⟩, (s.newFunction
          (.member w facet n (.ofIndex facet i) (m.key == n && m.name != n)) (some n) none).2) := by
  obtain ⟨m, hm, hn⟩ := hn
  obtain ⟨c, hc, name, hplan⟩ := hms.wrapper
  obtain ⟨i, m', hi, hn', hid⟩ := Members.findId_member name hms.numbered hm hn
  have hdefault := (Members.ofIndex_isMember hms.fit (List.getElem?_eq_some_iff.mp hi).1).1
  refine ⟨i, m', hi, hn', ?_⟩
  simp only [memberFunction, hc, hplan, hid, hdefault, Bool.false_eq_true, if_false,
    WrapperPlan.member?_ofIndex name hms.fit hi]
  rfl

/-- What no data hide is read as the class says. -/
theorem getProperty_of_memberFunction {o : ScriptObject} (hside : o.side? = some (w, facet))
    (hdata : s.data? o n = none) (hf : s.memberFunction w facet n = (some f, s₁)) :
    s.getProperty o n = (some (.function f), s₁) := by
  cases o with
  | plain id => cases hside
  | pair p =>
    cases hside
    have hdata : (s.properties p).get? n = none := hdata
    simp only [getProperty, hdata, hf]
  | facet g =>
    cases hside
    have hdata : (s.wrapper? g.wrapper).bind (·.plan.classData? n) = none := hdata
    simp only [getProperty, hdata, hf]
    rfl

/-- A member that no data hides is read as the function of the class for it. -/
theorem getProperty_member {o : ScriptObject} (hside : o.side? = some (w, facet))
    (hdata : s.data? o n = none) (hms : s.HasMembers w ms)
    (hn : ∃ m ∈ ms.methods facet, m.name = n ∨ m.key = n) :
    ∃ i m, (ms.methods facet)[i]? = some m ∧ (m.name = n ∨ m.key = n) ∧
      s.getProperty o n =
        (some (.function ⟨s.functions.size, some n, none⟩), (s.newFunction
          (.member w facet n (.ofIndex facet i) (m.key == n && m.name != n)) (some n) none).2) := by
  obtain ⟨i, m, hi, hnm, hf⟩ := memberFunction_member hms hn
  exact ⟨i, m, hi, hnm, getProperty_of_memberFunction hside hdata hf⟩

end Store

/-- The arguments fit the parameters, where the callable has any: there is one for each, and it can
be unboxed to it. -/
def Member.Takes (m : Member) (args : List ScriptValue) : Prop :=
  ∀ sig, m.signature = some sig → List.Forall₂ (fun t v => ∃ h, v.unbox t = .ok h) sig.params args

theorem Member.accepts_iff {m : Member} {args : List ScriptValue} :
    m.accepts args = true ↔ m.Takes args := by
  unfold accepts Takes
  cases m.signature with
  | none => exact ⟨fun _ _ => nofun, fun _ => rfl⟩
  | some sig =>
    simp only [Bool.and_eq_true, beq_iff_eq, List.all_eq_true, Option.some.injEq, forall_eq',
      List.forall₂_iff_zip, ScriptValue.fits_iff, Prod.forall]

instance (m : Member) (args : List ScriptValue) : Decidable (m.Takes args) :=
  decidable_of_iff _ Member.accepts_iff

/-- The first callable of a name that takes the arguments, in the order written. -/
def Members.firstTaking (ms : Members) (facet : Facet) (n : String) (args : List ScriptValue) :
    Option Member :=
  (ms.methods facet).find? fun m => m.name = n ∧ m.Takes args

theorem Members.firstTaking_some {ms : Members} {facet : Facet} {n : String}
    {args : List ScriptValue} {m : Member} (h : ms.firstTaking facet n args = some m) :
    m ∈ ms.methods facet ∧ m.name = n ∧ m.Takes args :=
  ⟨List.mem_of_find?_eq_some h, of_decide_eq_true (List.find?_eq_some_iff_append.mp h).1⟩

theorem WrapperPlan.select?_eq (name : String) (ms : Members) (facet : Facet) (n : String)
    (args : List ScriptValue) :
    (ofMembers name ms).select? facet n args = ms.firstTaking facet n args := by
  rw [select?, overloads, members_ofMembers, List.find?_filter, Members.firstTaking]
  congr 1
  funext m
  rw [Bool.eq_iff_iff]
  simp only [beq_iff_eq, Member.accepts_iff, decide_eq_true_eq]

namespace Run

section Pick

variable {t : Store} {w : WrapperRef} {facet : Facet} {n : String} {ms : Members} {i : Nat}

/-- A function for a bare name picks the first callable of the name that takes the arguments. -/
theorem pickMember_name (hms : t.HasMembers w ms) (hi : i < (ms.methods facet).length)
    (args : List ScriptValue) : (pickMember w facet n (.ofIndex facet i) false args).run t =
      match ms.firstTaking facet n args with
      | some m => (.ok m.id, t)
      | none => (.error (.failed (.noMatchingOverload w.backing n args.length)), t) := by
  obtain ⟨c, hc, name, hplan⟩ := hms.wrapper
  have hid := (Members.ofIndex_isMember hms.fit hi).2
  rw [pickMember, hid, Bool.or_false, if_neg Bool.false_ne_true, run_bind_ok (run_wrapper hc), hplan,
    WrapperPlan.select?_eq]
  cases ms.firstTaking facet n args <;> rfl

/-- What a member function picks is a member of the name or key that was read. -/
theorem pickMember_spec (hms : t.HasMembers w ms) {m : Member}
    (hi : (ms.methods facet)[i]? = some m) (hn : m.name = n ∨ m.key = n) (exact : Bool)
    (args : List ScriptValue) :
    (∀ cs vs, Refused (pickMember w facet n (.ofIndex facet i) exact args) (t.inside cs vs)) ∨
      ∃ j m', (ms.methods facet)[j]? = some m' ∧ (m'.name = n ∨ m'.key = n) ∧ ∀ cs vs,
        (pickMember w facet n (.ofIndex facet i) exact args).run (t.inside cs vs) =
          (.ok (.ofIndex facet j), t.inside cs vs) := by
  cases exact with
  | true => exact .inr ⟨i, m, hi, hn, fun cs vs => rfl⟩
  | false =>
    have hlt : i < (ms.methods facet).length := (List.getElem?_eq_some_iff.mp hi).1
    have hpick (cs : Contexts) (vs : List ScriptValue) :=
      pickMember_name (n := n) (hms.inside cs vs) hlt args
    cases hfirst : ms.firstTaking facet n args with
    | none =>
      simp only [hfirst] at hpick
      exact .inl fun cs vs => ⟨_, hpick cs vs⟩
    | some m' =>
      obtain ⟨hmem, hname, -⟩ := Members.firstTaking_some hfirst
      obtain ⟨j, hj⟩ := List.mem_iff_getElem?.mp hmem
      simp only [hfirst, hms.numbered facet j m' hj] at hpick
      exact .inr ⟨j, m', hj, .inl hname, hpick⟩

end Pick

/-! ## Application -/

/-- One call of a callable: on the object itself, or on the static facet of its
class. -/
def callMember (fuel context : Nat) (w : WrapperRef) (this : ScriptValue) (facet : Facet)
    (m : Member) (args : List ScriptValue) : Run ScriptValue :=
  match facet with
  | .instances => callFunction fuel context m.function this args
  | .statics => do
    let f ← facetOf w
    callFunction fuel context m.function (.object (.facet f)) args

section Application

variable {t : Store} {w w' : WrapperRef} {facet : Facet} {n : String} {ms ms' : Members} {i : Nat}
  {this : ScriptValue}

theorem dispatchOn_none (h : this.wrapper? = none) (fuel context : Nat) (args : List ScriptValue)
    (id : MemberId) : Refused (dispatchOn fuel context w n this args id) t := by
  cases this with
  | object o =>
    cases o with
    | plain id => exact refused_fail _ _
    | pair p => cases h
    | facet f => cases h
  | _ => exact refused_fail _ _

theorem dispatchOn_refused (h : this.wrapper? = some w') (hms' : t.HasMembers w' ms')
    (fit : ms.Fit) (hi : i < (ms.methods facet).length)
    (hwhy : (ms'.methods facet)[i]? = none ∨ facet = .instances ∧ this.isFacet = true)
    (fuel context : Nat) (args : List ScriptValue) :
    Refused (dispatchOn (fuel + 1) context w n this args (.ofIndex facet i)) t := by
  cases hm : (ms'.methods facet)[i]? with
  | none =>
    cases this with
    | object o =>
      cases o with
      | plain id => cases h
      | pair p =>
        cases h
        exact dispatch_beyond hms' fit hi hm fuel context _ args
      | facet f =>
        cases h
        exact dispatch_beyond hms' fit hi hm fuel context _ args
    | _ => cases h
  | some m' =>
    rw [hm] at hwhy
    obtain ⟨rfl, hfacet⟩ := hwhy.resolve_left (by simp)
    cases this with
    | object o =>
      cases o with
      | facet f =>
        cases h
        exact dispatch_instance_none hms' hm fuel context args
      | _ => cases hfacet
    | _ => cases hfacet

theorem dispatchOn_called (h : this.wrapper? = some w') (hms' : t.HasMembers w' ms') {m' : Member}
    (hm : (ms'.methods facet)[i]? = some m') (hthis : ¬(facet = .instances ∧ this.isFacet = true))
    (fuel context : Nat) (args : List ScriptValue) :
    (dispatchOn (fuel + 1) context w n this args (.ofIndex facet i)).run t =
      (callMember fuel context w' this facet m' args).run t := by
  cases this with
  | object o =>
    cases o with
    | plain id => cases h
    | pair p =>
      cases h
      cases facet with
      | instances => exact dispatch_instance hms' hm fuel context p args
      | statics => exact dispatch_static hms' hm fuel context _ args
    | facet f =>
      cases h
      cases facet with
      | instances => exact absurd ⟨rfl, rfl⟩ hthis
      | statics => exact dispatch_static hms' hm fuel context _ args
  | _ => cases h

/-- A call is refused if the code of its function is. -/
theorem callFunction_refused {f : FunctionRef} {code : FunctionCode}
    (hf : t.functions[f.id]? = some code) {fuel context : Nat} {args : List ScriptValue}
    (h : ∀ cs vs, Refused (runCode fuel context code this args) (t.inside cs vs)) :
    Refused (callFunction (fuel + 1) context f this args) t := by
  cases hpush : t.contexts.pushCall context with
  | error e => exact ⟨e, callFunction_of_refused hpush fuel f this args⟩
  | ok cs =>
    obtain ⟨e, he⟩ := h cs (.function f :: this :: args)
    exact ⟨e, by rw [callFunction_of_code hpush hf, he, leave_inside _ hpush]⟩

end Application

end Run

/-- The function that is read for a member of a class either refuses its arguments,
or picks one member that has the name or key. It refuses what is no object of a
generated class. Applied to an object it calls, once, the callable that stands at
the picked place in the object's own class, if there is one: the picked member
where the object belongs to the class itself. -/
theorem member_function_runs_the_place {s s₁ t : Store} {o : ScriptObject} {w : WrapperRef}
    {facet : Facet} {n : String} {f : FunctionRef} {ms : Members}
    (hside : o.side? = some (w, facet)) (hms : s.HasMembers w ms)
    (hn : ∃ m ∈ ms.methods facet, m.name = n ∨ m.key = n) (hdata : s.data? o n = none)
    (hread : s.getProperty o n = (some (.function f), s₁)) (later : s₁.Later t)
    (args : List ScriptValue) :
    (∀ fuel context this, Run.Refused (Run.callFunction (fuel + 3) context f this args) t) ∨
      ∃ (i : Nat) (m : Member), (ms.methods facet)[i]? = some m ∧ (m.name = n ∨ m.key = n) ∧
        ∀ fuel context this,
        (this.wrapper? = none →
          Run.Refused (Run.callFunction (fuel + 3) context f this args) t) ∧
        ∀ w' ms', this.wrapper? = some w' → t.HasMembers w' ms' →
          (w'.id = w.id → (ms'.methods facet)[i]? = some m) ∧
          ((ms'.methods facet)[i]? = none ∨ facet = .instances ∧ this.isFacet = true →
            Run.Refused (Run.callFunction (fuel + 3) context f this args) t) ∧
          (∀ e, t.contexts.pushCall context = .error e →
            (Run.callFunction (fuel + 3) context f this args).run t = (.error (.failed e), t)) ∧
          ∀ cs m', t.contexts.pushCall context = .ok cs → (ms'.methods facet)[i]? = some m' →
            ¬(facet = .instances ∧ this.isFacet = true) →
            (Run.callFunction (fuel + 3) context f this args).run t =
              Run.leave t context ((Run.callMember fuel context w' this facet m' args).run
                (t.inside cs (.function f :: this :: args))) := by
  obtain ⟨i₀, m₀, hi₀, hn₀, hget⟩ := Store.getProperty_member hside hdata hms hn
  generalize (m₀.key == n && m₀.name != n) = exact at hget
  rw [hread] at hget
  obtain ⟨hf, rfl⟩ := Prod.mk.inj hget
  cases hf
  have hcode : t.functions[s.functions.size]? =
      some (.member w facet n (.ofIndex facet i₀) exact) :=
    (Store.Later.extends later).function (Array.getElem?_push_size)
  have hms₁ : t.HasMembers w ms :=
    hms.later (.head (.function s (.member w facet n (.ofIndex facet i₀) exact) (some n) none) later)
  have hrun (fuel context : Nat) (this : ScriptValue) :
      Run.runCode (fuel + 2) context (.member w facet n (.ofIndex facet i₀) exact) this args =
        Run.pickMember w facet n (.ofIndex facet i₀) exact args >>=
          Run.dispatchOn (fuel + 1) context w n this args := Run.callMemberFunction_succ ..
  rcases Run.pickMember_spec hms₁ hi₀ hn₀ exact args with hrefused | ⟨i, m, hi, hn', hpick⟩
  · refine .inl fun fuel context this => Run.callFunction_refused hcode fun cs vs => ?_
    rw [hrun]
    exact (hrefused cs vs).bind _
  · have hlt : i < (ms.methods facet).length := (List.getElem?_eq_some_iff.mp hi).1
    -- Once a member is picked, the call is refused where its dispatch is.
    have hcall {fuel context : Nat} {this : ScriptValue} (h : ∀ cs vs, Run.Refused
        (Run.dispatchOn (fuel + 1) context w n this args (.ofIndex facet i)) (t.inside cs vs)) :
        Run.Refused (Run.callFunction (fuel + 3) context ⟨s.functions.size, some n, none⟩ this args)
          t :=
      Run.callFunction_refused hcode fun cs vs => by
        obtain ⟨e, he⟩ := h cs vs
        exact ⟨e, by rw [hrun, Run.run_bind_ok (hpick cs vs), he]⟩
    refine .inr ⟨i, m, hi, hn', fun fuel context this => ⟨fun hthis => ?_, ?_⟩⟩
    · exact hcall fun cs vs => Run.dispatchOn_none hthis ..
    · intro w' ms' hthis hms'
      refine ⟨fun hw => ?_, fun hwhy => ?_, fun e he => ?_, fun cs m' hcs hm' hreceives => ?_⟩
      · rw [hms'.methods_eq hms₁ hw facet, hi]
      · exact hcall fun cs vs => Run.dispatchOn_refused hthis (hms'.inside cs vs) hms.fit hlt hwhy ..
      · exact Run.callFunction_of_refused he ..
      · rw [Run.callFunction_of_code hcs hcode, hrun, Run.run_bind_ok (hpick cs _),
          Run.dispatchOn_called hthis (hms'.inside cs _) hm' hreceives]

namespace Sample

def speakers : Store := speaking ["secret of Vault", "show of Widget"]

def vault : ClassRequest where
  instances := some [("secret", .function ⟨0, some "secret", none⟩)]
  name := some "Vault"

def widget : ClassRequest where
  instances := some [("show", .function ⟨1, some "show", none⟩)]
  name := some "Widget"

/-- The members of `widget`. -/
def widgetMembers : Members where
  instances := ⟨.instances, [], [⟨"show", ⟨"show", none⟩, ⟨2⟩, ⟨1, some "show", none⟩⟩], none⟩
  statics := .empty .statics

theorem collect_widget : Members.collect widget.instances widget.statics = .ok widgetMembers := rfl

/-- What the first instance member of a class gives when it is read under a name and
applied to a value. -/
def applied (s : Store) (w : WrapperRef) (name : String) (this : ScriptValue) : Option String :=
  let (f, s) := s.newFunction (.member w .instances name (.ofIndex .instances 0) false) (some name)
    none
  ((Run.callFunction 6 0 f this []).run s).1.toOption.bind ScriptValue.string?

theorem show_mem : ∃ m ∈ widgetMembers.methods .instances, m.name = "show" ∨ m.key = "show" :=
  ⟨_, List.mem_singleton_self _, .inl rfl⟩

/-- An object of `widget` has `show` for its first member. -/
theorem read_show {s s₁ t : Store} {f : StaticFacet} {p : Pair}
    (hgen : s.generate {} widget = (.ok f, s₁))
    (hp : (Run.construct 3 0 f.wrapper []).run s₁ = (.ok p, t)) (hlater : s₁.Later t)
    (hdata : t.data? (.pair p) "show" = none) :
    t.HasMembers p.wrapper widgetMembers ∧ t.getProperty (.pair p) "show" =
      (some (.function ⟨t.functions.size, some "show", none⟩), (t.newFunction
        (.member p.wrapper .instances "show" (.ofIndex .instances 0) false) (some "show") none).2) := by
  obtain ⟨ms, hms, hclass⟩ := generate_ok hgen
  rw [collect_widget] at hms
  cases hms
  have hclass := hclass ⟨by decide, by decide⟩
  have hmembers : t.HasMembers p.wrapper widgetMembers :=
    (hclass.isOf_of_construct hp).2 ▸ (hclass.later hlater).hasMembers
  obtain ⟨i, m, hi, -, hread⟩ := Store.getProperty_member rfl hdata hmembers show_mem
  refine ⟨hmembers, ?_⟩
  rcases i with _ | i
  · cases hi
    exact hread
  · cases hi

end Sample

set_option maxRecDepth 10000 in
open Sample in
theorem widget_shows : ∃ f p s g s₁, object speakers widget = some (f, p, s) ∧
    s.getProperty (.pair p) "show" = (some (.function g), s₁) ∧
    (Run.callFunction 6 0 g (.object (.pair p)) []).run s₁ =
      Run.leave s₁ 0 ((Run.callMember 3 0 p.wrapper (.object (.pair p)) .instances
        ⟨"show", ⟨"show", none⟩, ⟨2⟩, ⟨1, some "show", none⟩⟩ []).run
          (s₁.inside (s₁.contexts.update 0 fun c => { c with depth := c.depth + 1 })
            [.function g, .object (.pair p)])) := by
  have h : (object speakers widget).any (fun (_, p, s) =>
      (s.data? (.pair p) "show").isNone ∧
        s.contexts.get? 0 = some { maxDepth := 256, nesting := 1 } ∧
        applied s p.wrapper "show" (.object (.pair p)) = some "show of Widget") = true := by
    decide +kernel
  obtain ⟨⟨f, p, s⟩, ho, h⟩ := (Option.any_eq_true _ _).mp h
  obtain ⟨hdata, hcontext, happlied⟩ := of_decide_eq_true h
  obtain ⟨s₀, hgen, hp, hlater⟩ := object_some ho
  have hnone := Option.isNone_iff_eq_none.mp hdata
  obtain ⟨hmembers, hread⟩ := read_show hgen hp hlater hnone
  refine ⟨f, p, s, _, _, ho, hread, ?_⟩
  rcases member_function_runs_the_place rfl hmembers show_mem hnone hread .refl [] with
    h | ⟨i, m, hi, -, h⟩
  · obtain ⟨e, he⟩ := h 3 0 (.object (.pair p))
    have hnothing : applied s p.wrapper "show" (.object (.pair p)) = none :=
      congrArg (fun r : Except Halt ScriptValue × Store =>
        r.1.toOption.bind ScriptValue.string?) he
    rw [hnothing] at happlied
    cases happlied
  · obtain rfl := List.mem_singleton.mp (List.mem_of_getElem? hi)
    exact ((h 3 0 _).2 _ _ rfl (hmembers.later (.single (.function s _ _ _)))).2.2.2 _ _
      (Contexts.pushCall_of_lt hcontext (by decide)) hi (by simp [ScriptValue.isFacet])

set_option maxRecDepth 10000 in
open Sample in
/-- Member functions cross classes. Read from a widget and applied to a vault, `show`
gives what the vault's `secret` says, for both stand at the first place. -/
theorem member_function_crosses_classes : ∃ f p s g q t h u,
    object speakers vault = some (f, p, s) ∧ object s widget = some (g, q, t) ∧
      p.wrapper.id ≠ q.wrapper.id ∧ t.getProperty (.pair q) "show" = (some (.function h), u) ∧
      ((Run.callFunction 6 0 h (.object (.pair p)) []).run u).1.toOption.bind ScriptValue.string? =
        some "secret of Vault" := by
  have h : (object speakers vault).any (fun (_, p, s) =>
      (object s widget).any fun (_, q, t) => p.wrapper.id ≠ q.wrapper.id ∧
        (t.data? (.pair q) "show").isNone ∧
        applied t q.wrapper "show" (.object (.pair p)) = some "secret of Vault") = true := by
    decide +kernel
  obtain ⟨⟨f, p, s⟩, hf, h⟩ := (Option.any_eq_true _ _).mp h
  obtain ⟨⟨g, q, t⟩, hg, h⟩ := (Option.any_eq_true _ _).mp h
  obtain ⟨hne, hdata, happlied⟩ := of_decide_eq_true h
  obtain ⟨s₁, hgen, hq, hlater⟩ := object_some hg
  obtain ⟨-, hread⟩ := read_show hgen hq hlater (Option.isNone_iff_eq_none.mp hdata)
  exact ⟨f, p, s, g, q, t, _, _, hf, hg, hne, hread, happlied⟩

end ScriptClass
