import ScriptClass.Proofs.InheritedMethod
import ScriptClass.Proofs.StaticFacet

/-!
# Overloads

Callables of one name stand side by side. A function that was read under the name picks one of them
at each call: the first in the order written that takes the arguments (`Members.firstTaking`). A
function that was read under the key of a typed callable does not pick. Either dispatches by an id,
through the table of the class and on the object that the function is applied to, and so it runs
just the code that was written for the callable, with the arguments as they are
(`Application.runs_of_picks`, `overloads_route_to_their_callable`).
-/

namespace ScriptClass

open Event Store

/-- The object is one of the class, or its static facet, which receives no instance members. -/
def ScriptObject.Receives (o : ScriptObject) (w : WrapperRef) (facet : Facet) : Prop :=
  ∃ side, o.side? = some (w, side) ∧ (facet = .instances → side = .instances)

namespace ScriptObject.Receives

variable {o : ScriptObject} {w : WrapperRef} {facet : Facet}

theorem wrapper?_eq (h : o.Receives w facet) : (ScriptValue.object o).wrapper? = some w := by
  obtain ⟨side, hside, -⟩ := h
  cases o with
  | plain id => cases hside
  | pair p => exact congrArg (Option.map Prod.fst) hside
  | facet g => exact congrArg (Option.map Prod.fst) hside

theorem not_facet (h : o.Receives w facet) :
    ¬(facet = .instances ∧ (ScriptValue.object o).isFacet = true) := by
  rintro ⟨rfl, hfacet⟩
  obtain ⟨side, hside, hinstances⟩ := h
  cases o with
  | plain id => cases hside
  | pair p => cases hfacet
  | facet g =>
    cases hside
    cases hinstances rfl

end ScriptObject.Receives

/-- A function is applied to an object in use that receives its member, some time after it was read,
and the context admits the call and another one within it. -/
structure Application (G : Grant) (facet : Facet) (read : Store) where
  store : Store
  later : read.Later store
  /-- The static facets that the class has handed out by then. -/
  handed : List StaticFacet
  used : Set Holding
  serves : store.Serves G handed used
  receiver : ScriptObject
  receives : receiver.Receives G.facet.wrapper facet
  mem_used : receiver.holding ∈ used
  context : ℕ
  /-- The contexts within the call. -/
  outer : Contexts
  /-- The contexts within the call of the callable. -/
  inner : Contexts
  enters : store.contexts.pushCall context = .ok outer
  enters_inner : outer.pushCall context = .ok inner

namespace Application

variable {G : Grant} {facet : Facet} {s : Store} (a : Application G facet s) (f : FunctionRef)
  (args : List ScriptValue)

/-- The store within the call. -/
def entered : Store := a.store.inside a.outer (.function f :: .object a.receiver :: args)

/-- What a callable that is called within the call has for `this`, and the store by then: the object
itself, or the static facet that the class gives. -/
def Lends (this : ScriptValue) (t : Store) : Prop :=
  match facet with
  | .instances => this = .object a.receiver ∧ t = a.entered f args
  | .statics => ∃ g, this = .object (.facet g) ∧ (a.entered f args).Gives G a.handed a.used g t

/-- What the call gives. -/
def result (fuel : Nat) : Except Halt ScriptValue × Store :=
  (Run.callFunction (fuel + 4) a.context f (.object a.receiver) args).run a.store

/-- The call runs the code of the callable, once and with the arguments. -/
def Runs (m : Member) : Prop :=
  ∃ code this t, a.store.functions[m.function.id]? = some code ∧ a.Lends f args this t ∧ ∀ fuel,
    a.result f args fuel = Run.leave a.store a.context (Run.leave t a.context
      ((Run.runCode fuel a.context code this args).run
        (t.inside a.inner (.function m.function :: this :: args))))

/-- The call fails and does nothing. -/
def Fails (e : RuntimeError) : Prop := ∀ fuel, a.result f args fuel = (.error (.failed e), a.store)

variable {a f args} {ms : Members} {m : Member}

theorem serves_entered : (a.entered f args).Serves G a.handed a.used :=
  (a.serves.roots _).contexts _

/-- A callable of the class that is called within the call runs its code. -/
theorem runs_of_called (hms : a.store.HasMembers G.facet.wrapper ms) (hm : m ∈ ms.methods facet)
    (h : ∀ fuel, a.result f args fuel = Run.leave a.store a.context
      ((Run.callMember (fuel + 1) a.context G.facet.wrapper (.object a.receiver) facet m args).run
        (a.entered f args))) : a.Runs f args m := by
  obtain ⟨side, hside, -⟩ := a.receives
  have hhoused := a.serves.sound.housed_side a.mem_used hside
  obtain ⟨code, hcode⟩ := a.serves.sound.member_code hhoused hms hm
  cases facet with
  | instances =>
    refine ⟨code, _, _, hcode, ⟨rfl, rfl⟩, fun fuel => ?_⟩
    have hinner : (a.entered f args).contexts.pushCall a.context = .ok a.inner := a.enters_inner
    have hthere : (a.entered f args).functions[m.function.id]? = some code := hcode
    rw [h, Run.callMember, Run.callFunction_of_code hinner hthere]
  | statics =>
    have hserves : (a.entered f args).Serves G a.handed a.used := serves_entered
    obtain ⟨g, t, hfacet, hgives⟩ := Run.facetOf_gives hserves hhoused
    refine ⟨code, _, t, hcode, ⟨g, rfl, hgives⟩, fun fuel => ?_⟩
    have hinner : t.contexts.pushCall a.context = .ok a.inner := by
      rw [hgives.contexts]
      exact a.enters_inner
    have hthere : t.functions[m.function.id]? = some code := by
      rw [hgives.functions]
      exact hcode
    rw [h, Run.callMember, Run.run_bind_ok hfacet, Run.callFunction_of_code hinner hthere]

section Member

variable {n : String} {id : MemberId} {exact : Bool} {i : ℕ}

/-- A member function picks an id and dispatches it. -/
theorem result_member
    (hf : a.store.functions[f.id]? = some (.member G.facet.wrapper facet n id exact)) (fuel : ℕ) :
    a.result f args fuel = Run.leave a.store a.context
      ((Run.pickMember G.facet.wrapper facet n id exact args >>=
        Run.dispatchOn (fuel + 2) a.context G.facet.wrapper n (.object a.receiver) args).run
          (a.entered f args)) := by
  rw [result, Run.callFunction_of_code a.enters hf]
  exact congrArg (fun x : Run ScriptValue => Run.leave a.store a.context (x.run (a.entered f args)))
    (Run.callMemberFunction_succ ..)

/-- What is picked is run. -/
theorem runs_of_picks (hms : a.store.HasMembers G.facet.wrapper ms)
    (hf : a.store.functions[f.id]? = some (.member G.facet.wrapper facet n id exact))
    (hi : (ms.methods facet)[i]? = some m)
    (hpick : (Run.pickMember G.facet.wrapper facet n id exact args).run (a.entered f args) =
      (.ok (.ofIndex facet i), a.entered f args)) : a.Runs f args m := by
  have hentered : (a.entered f args).HasMembers G.facet.wrapper ms := hms.inside _ _
  refine runs_of_called hms (List.mem_of_getElem? hi) fun fuel => ?_
  rw [result_member hf, Run.run_bind_ok hpick,
    Run.dispatchOn_called a.receives.wrapper?_eq hentered hi a.receives.not_facet]

theorem fails_of_picks_none {e : RuntimeError}
    (hf : a.store.functions[f.id]? = some (.member G.facet.wrapper facet n id exact))
    (hpick : (Run.pickMember G.facet.wrapper facet n id exact args).run (a.entered f args) =
      (.error (.failed e), a.entered f args)) : a.Fails f args e := by
  intro fuel
  rw [result_member hf, Run.run_bind, hpick]
  exact Run.leave_inside _ a.enters _

/-- A function for a bare name runs the first callable of the name that takes the arguments. -/
theorem runs_firstTaking (hms : a.store.HasMembers G.facet.wrapper ms)
    (hi : i < (ms.methods facet).length)
    (hf : a.store.functions[f.id]? =
      some (.member G.facet.wrapper facet n (.ofIndex facet i) false)) :
    match ms.firstTaking facet n args with
    | some m => a.Runs f args m
    | none => a.Fails f args (.noMatchingOverload G.facet.wrapper.backing n args.length) := by
  have hentered : (a.entered f args).HasMembers G.facet.wrapper ms := hms.inside _ _
  have hpick := Run.pickMember_name (n := n) hentered hi args
  cases hfirst : ms.firstTaking facet n args with
  | none =>
    rw [hfirst] at hpick
    exact fails_of_picks_none hf hpick
  | some m =>
    obtain ⟨j, hj⟩ := List.mem_iff_getElem?.mp (Members.firstTaking_some hfirst).1
    simp only [hfirst, hms.numbered facet j m hj] at hpick
    exact runs_of_picks hms hf hj hpick

end Member

end Application

/-- A request that is granted is a step of the workspace. -/
theorem Workspace.evolves_granted {W : Workspace} {r : ClassRequest} (hr : ∀ x ∈ r.holdings, W.Live x)
    {G : Grant} (hgen : W.store.generate W.config r = (.ok G.facet, G.store))
    {handles : List (String × Handle)} (hkept : ∀ e ∈ handles, ∀ x ∈ e.2.holdings,
      G.store.Reaches (.facet G.facet :: { W with store := G.store }.roots) x) :
    Evolves W { W with store := G.store, handles }.settle := by
  have hdoes := Does.extend r hr
  rw [hgen] at hdoes
  exact .single (.intro hdoes handles hkept)

/-- A class is requested with things that are live, in a workspace that came about somehow, and the
user then does and drops whatever they like. Code begins in a store that serves the class and has a
chronicle, and keeps both. The callables of a facet are the functions written in it, in their order.
On an object of the class, and on its static facet, the bare name of callables is read as a function
that runs the first callable of the name that takes the arguments, and that fails and runs nothing if
there is none. The key of a typed callable is read as a function that runs this callable, whatever
the arguments. A name that no callable of the facet answers to, and that is neither the constructor's
name nor, on an object, its key, is read as no function of the class. -/
theorem overloads_route_to_their_callable {config : Config} {writable : Bool} {stateName : String}
    {W₀ W : Workspace} (hfresh : Workspace.Evolves (.fresh config writable stateName) W₀)
    {r : ClassRequest} (hr : ∀ x ∈ r.holdings, W₀.Live x) {G : Grant}
    (hgen : W₀.store.generate W₀.config r = (.ok G.facet, G.store))
    {handles : List (String × Handle)} (hkept : ∀ e ∈ handles, ∀ x ∈ e.2.holdings,
      G.store.Reaches (.facet G.facet :: { W₀ with store := G.store }.roots) x)
    (hW : Workspace.Evolves { W₀ with store := G.store, handles }.settle W)
    {ms : Members} (hms : Members.collect r.instances r.statics = .ok ms) (hfit : ms.Fit) :
    (∃ fs es, W.ready.Serves G (G.facet :: fs) {x | W.Live x} ∧ W.ready.Chronicle es ∧
      ∀ x, W.Live x → x ∈ Known es) ∧
    (∀ fs fuel, Run.KeepsAt (.serves G fs) fuel) ∧ (∀ es fuel, Run.KeepsAt (.chronicle es) fuel) ∧
    (∀ facet, (ms.methods facet).map Member.entry =
      ((Members.given r.instances r.statics facet).getD []).filter Entry.isMethod) ∧
    ∀ (s : Store) (L : Set Holding) (fs : List StaticFacet) (es : List Event) (o : ScriptObject)
      (facet : Facet), s.Serves G fs L → s.Chronicle es → o.holding ∈ Known es →
        o.side? = some (G.facet.wrapper, facet) →
      (∀ n, (∃ m ∈ ms.methods facet, m.name = n) → ∃ f s₁,
        s.getProperty o n = (some (.function f), s₁) ∧ ∀ (a : Application G facet s₁) args,
          match ms.firstTaking facet n args with
          | some m => a.Runs f args m
          | none => a.Fails f args (.noMatchingOverload G.facet.wrapper.backing n args.length)) ∧
      (∀ m ∈ ms.methods facet, m.isTyped = true → ∃ f s₁,
        s.getProperty o m.key = (some (.function f), s₁) ∧ ∀ (a : Application G facet s₁) args,
          a.Runs f args m) ∧
      ∀ n, (∀ m ∈ ms.methods facet, ¬m.Answers n) → n ≠ constructorName →
        (facet = .instances → n ≠ ms.constructorKey) →
        s.memberFunction G.facet.wrapper facet n = (none, s) := by
  have hsound : W₀.Sound := hfresh.sound (Workspace.sound_fresh config writable stateName)
  obtain ⟨ms', hms', hclass⟩ := generate_ok hgen
  cases hms.symm.trans hms'
  have hclass := hclass hfit
  refine ⟨?_, fun fs => Run.keeps _, fun es => Run.keeps _, Members.methods_written hms, ?_⟩
  · have hfirst := Workspace.serves_first hsound hr hgen hkept
    obtain ⟨fs, hfs⟩ := hW.serves hfirst
    have hgranted := Workspace.evolves_granted hr hgen hkept
    obtain ⟨es, hes⟩ := Workspace.Evolves.tells ((hfresh.trans hgranted).trans hW)
      (Workspace.tells_fresh config writable stateName)
    exact ⟨fs, _, hfs.roots _, hes.chronicle.roots _, hes.live⟩
  intro s L fs es o facet hs hes ho hside
  have hG := hclass.later hs.history.later
  have hdata {n : String} := hG.data?_member (n := n) hes ho hside
  have hmembers {s₁ : Store} (a : Application G facet s₁) :
      a.store.HasMembers G.facet.wrapper ms := hclass.hasMembers.later a.serves.history.later
  refine ⟨fun n hn => ?_, fun m hm htyped => ?_, fun n hnone hname hkey =>
    Store.memberFunction_unknown hG.hasMembers hms hnone hname hkey⟩
  · obtain ⟨i, hi, hread⟩ := Store.memberFunction_name hG.hasMembers hms hn
    have hnone := hdata (hn.imp fun m h => ⟨h.1, .inr h.2⟩)
    refine ⟨_, _, Store.getProperty_of_memberFunction hside hnone hread, fun a args => ?_⟩
    have hf : a.store.functions[s.functions.size]? =
        some (.member G.facet.wrapper facet n (.ofIndex facet i) false) :=
      (Store.Later.extends a.later).function Array.getElem?_push_size
    exact Application.runs_firstTaking (hmembers a) hi hf
  · obtain ⟨i, hi, hread⟩ := Store.memberFunction_key hG.hasMembers hms hm htyped
    have hnone := hdata ⟨m, hm, .inl rfl⟩
    refine ⟨_, _, Store.getProperty_of_memberFunction hside hnone hread, fun a args => ?_⟩
    have hf : a.store.functions[s.functions.size]? =
        some (.member G.facet.wrapper facet m.key (.ofIndex facet i) true) :=
      (Store.Later.extends a.later).function Array.getElem?_push_size
    exact Application.runs_of_picks (hmembers a) hf hi rfl

namespace Teller

def number : FunctionRef := ⟨0, some "number", none⟩

def anything : FunctionRef := ⟨1, some "anything", none⟩

/-- A typed and an untyped callable of one name, and a typed one of another. -/
def request : ClassRequest where
  statics := some [("tell(I)V", .function number), ("tell", .function anything),
    ("count(I)V", .function number)]
  name := some "Teller"

/-- The members of `request`. -/
def members : Members where
  instances := .empty .instances
  statics := ⟨.statics, [],
    [⟨"tell(I)V", ⟨"tell", some ⟨"tell", [.primitive .int], .primitive .void⟩⟩, ⟨-1⟩, number⟩,
      ⟨"tell", ⟨"tell", none⟩, ⟨-2⟩, anything⟩,
      ⟨"count(I)V", ⟨"count", some ⟨"count", [.primitive .int], .primitive .void⟩⟩, ⟨-3⟩, number⟩],
    none⟩

theorem parse_tell : MemberKey.parse "tell(I)V" =
    .ok ⟨"tell", some ⟨"tell", [.primitive .int], .primitive .void⟩⟩ := by decide +kernel

theorem parse_count : MemberKey.parse "count(I)V" =
    .ok ⟨"count", some ⟨"count", [.primitive .int], .primitive .void⟩⟩ := by decide +kernel

/-- The static side when so many callables were collected. -/
def collected (count : ℕ) : CollectedFacet :=
  { members.statics with methods := members.statics.methods.take count }

theorem collect : Members.collect request.instances request.statics = .ok members := by
  have htell : (collected 0).add ("tell(I)V", .function number) = .ok (collected 1) := by
    simp only [CollectedFacet.add, parse_tell]
    rfl
  have hcount : (collected 2).add ("count(I)V", .function number) = .ok (collected 3) := by
    simp only [CollectedFacet.add, parse_count]
    rfl
  have hstatics : CollectedFacet.collect .statics request.statics = .ok (collected 3) := by
    show ((collected 0).add _ >>= fun init => init.add _ >>= fun init => init.add _ >>= pure) = _
    rw [htell]
    show ((collected 2).add _ >>= pure) = _
    rw [hcount]
    rfl
  simp only [Members.collect, hstatics]
  rfl

/-- A function that gives a text is made and kept. -/
def make (W : Workspace) (name text : String) : Workspace := Workspace.settle
  { W with
    store := (W.store.newFunction (.expression (.const (.string text))) (some name) none).2
    handles := W.handles ++ [(name, .script (.function ⟨W.store.functions.size, some name, none⟩))] }

theorem next_make (W : Workspace) (name text : String) : W.Next (make W name text) := by
  refine .intro (.function (.expression (.const (.string text))) (some name) none nofun) _
    fun e he x hx => ?_
  rcases List.mem_append.mp he with he | he
  · exact .root (List.mem_append_right _ (List.mem_append_left _ (List.mem_flatMap.mpr ⟨e, he, hx⟩)))
  · cases List.mem_singleton.mp he
    cases List.mem_singleton.mp hx
    exact .root List.mem_cons_self

def start : Workspace :=
  make (make (.fresh {} true "Counter") "number" "a number") "anything" "anything"

theorem evolves_start : Workspace.Evolves (.fresh {} true "Counter") start :=
  .tail (.single (next_make _ _ _)) (next_make _ _ _)

theorem live_request : ∀ x ∈ request.holdings, start.Live x := by
  intro x hx
  have hx : x ∈ [Holding.function 0, .function 1, .function 0] := hx
  simp only [List.mem_cons, List.not_mem_nil, or_false] at hx
  rcases hx with rfl | rfl | rfl
  · exact .root (List.mem_append_left _ List.mem_cons_self)
  · exact .root (List.mem_append_left _ (List.mem_cons_of_mem _ List.mem_cons_self))
  · exact .root (List.mem_append_left _ List.mem_cons_self)

theorem granted : (start.store.generate start.config request).1.toOption.isSome = true := by
  decide +kernel

section Kept

variable {s : Store} {f : StaticFacet}

/-- The class was requested, and its static facet is kept. -/
def keeping (s : Store) (f : StaticFacet) : Workspace :=
  Workspace.settle { start with store := s, handles := [("teller", .facet f)] }

theorem reaches_kept : ∀ e ∈ [("teller", Handle.facet f)], ∀ x ∈ e.2.holdings,
    s.Reaches (.facet f :: { start with store := s }.roots) x := by
  intro e he x hx
  cases List.mem_singleton.mp he
  cases List.mem_singleton.mp hx
  exact .root List.mem_cons_self

theorem live_kept : (keeping s f).Live (.facet f) := by
  rw [keeping, Workspace.live_settle]
  exact .root List.mem_cons_self

end Kept

/-- A context is entered. -/
def entered : Contexts := { all := #[{ maxDepth := 256, nesting := 1 }], active := some 0 }

/-- What was read on the static facet is applied to it in the context. -/
theorem exists_application {G : Grant} {fs : List StaticFacet} {s s₁ : Store} {L : Set Holding}
    {n : String} {v : Option ScriptValue} (hs : s.Serves G fs L)
    (hL : ScriptObject.holding (.facet G.facet) ∈ L)
    (hread : s.getProperty (.facet G.facet) n = (v, s₁)) : ∃ a : Application G .statics s₁,
      a.receiver = .facet G.facet ∧ a.context = 0 ∧ a.store = { s₁ with contexts := entered } := by
  have hfit : (Regime.serves G fs).Fit s L := ⟨[], by rwa [List.append_nil]⟩
  obtain ⟨L', hsub, ⟨fs', hserves⟩, -⟩ := Regime.getProperty hfit hL n
  rw [hread] at hserves
  obtain ⟨outer, inner, houter, hinner⟩ : ∃ outer inner, entered.pushCall 0 = .ok outer ∧
    outer.pushCall 0 = .ok inner := ⟨_, _, rfl, rfl⟩
  exact ⟨{ store := { s₁ with contexts := entered }, later := .single (.contexts s₁ entered)
           handed := _, used := L', serves := hserves.contexts entered
           receiver := .facet G.facet, receives := ⟨.statics, rfl, nofun⟩, mem_used := hsub _ hL
           context := 0, outer, inner, enters := houter, enters_inner := hinner }, rfl, rfl, rfl⟩

/-- What the static facet answers when a name is read on it and called with a value. -/
def answer (fuel : ℕ) (s : Store) (f : StaticFacet) (n : String) (v : ScriptValue) :
    Except Halt ScriptValue :=
  match s.getProperty (.facet f) n with
  | (some (.function g), s₁) =>
    ((Run.callFunction (fuel + 4) 0 g (.object (.facet f)) [v]).run { s₁ with contexts := entered }).1
  | _ => .error .exhausted

section Answer

variable {G : Grant} {fs : List StaticFacet} {s s₁ : Store} {L : Set Holding} {n : String}
  {g : FunctionRef} {v : ScriptValue} (hs : s.Serves G fs L)
  (hL : ScriptObject.holding (.facet G.facet) ∈ L)
  (hread : s.getProperty (.facet G.facet) n = (some (.function g), s₁))

include hs hL hread

theorem answer_eq : ∃ a : Application G .statics s₁, ∀ fuel v,
    answer fuel s G.facet n v = (a.result g [v] fuel).1 := by
  obtain ⟨a, hreceiver, hcontext, hstore⟩ := exists_application hs hL hread
  refine ⟨a, fun fuel v => ?_⟩
  rw [answer, hread, Application.result, hreceiver, hcontext, hstore]

theorem answer_of_runs {m : Member} {text : String}
    (hruns : ∀ a : Application G .statics s₁, a.Runs g [v] m)
    (hcode : G.store.functions[m.function.id]? = some (.expression (.const (.string text)))) :
    answer 1 s G.facet n v = .ok (.string text) := by
  obtain ⟨a, ha⟩ := answer_eq hs hL hread
  obtain ⟨code, this, t, hcode', -, hrun⟩ := hruns a
  cases ((a.serves.history.later.extends.function hcode).symm.trans hcode')
  rw [ha, hrun]
  simp only [Run.runCode, Run.eval]
  rfl

theorem answer_of_fails {e : RuntimeError}
    (hfails : ∀ a : Application G .statics s₁, a.Fails g [v] e) :
    answer 1 s G.facet n v = .error (.failed e) := by
  obtain ⟨a, ha⟩ := answer_eq hs hL hread
  rw [ha, hfails a]

end Answer

end Teller

open Teller in
/-- The first callable that takes the value answers to the name, the key reaches its own callable
whatever the value, and nothing else is run. -/
theorem teller_answers : ∃ f s, start.store.generate start.config request = (.ok f, s) ∧
    answer 1 (keeping s f).ready f "tell" (.int 7) = .ok (.string "a number") ∧
    answer 1 (keeping s f).ready f "tell" (.string "x") = .ok (.string "anything") ∧
    answer 1 (keeping s f).ready f "tell(I)V" (.string "x") = .ok (.string "a number") ∧
    answer 1 (keeping s f).ready f "count" (.string "x") =
      .error (.failed (.noMatchingOverload f.wrapper.backing "count" 1)) ∧
    (keeping s f).ready.memberFunction f.wrapper .statics "ask" = (none, (keeping s f).ready) := by
  have hok := granted
  rcases hgen : start.store.generate start.config request with ⟨e | f, s⟩
  · rw [hgen] at hok
    cases hok
  obtain ⟨⟨fs, es, hserves, hchronicle, hknown⟩, -, -, -, hroutes⟩ :=
    overloads_route_to_their_callable (G := ⟨f, s, ⟨_, _, _, hgen⟩⟩) evolves_start live_request hgen
      reaches_kept .refl collect ⟨by decide, by decide⟩
  obtain ⟨hname, hkey, hunknown⟩ := hroutes _ _ _ es (.facet f) .statics hserves hchronicle
    (hknown _ live_kept) rfl
  have hlater := generate_later start.store start.config request
  rw [hgen] at hlater
  have hnumber : s.functions[0]? = some (.expression (.const (.string "a number"))) :=
    hlater.extends.function rfl
  have hanything : s.functions[1]? = some (.expression (.const (.string "anything"))) :=
    hlater.extends.function rfl
  have htell {m : Member} {v : ScriptValue}
      (hfirst : members.firstTaking .statics "tell" [v] = some m) {text : String}
      (hcode : s.functions[m.function.id]? = some (.expression (.const (.string text)))) :
      answer 1 (keeping s f).ready f "tell" v = .ok (.string text) := by
    obtain ⟨g, s₁, hread, hcall⟩ := hname "tell" ⟨_, List.mem_cons_self, rfl⟩
    refine answer_of_runs hserves live_kept hread (fun a => ?_) hcode
    have hruns := hcall a [v]
    rwa [hfirst] at hruns
  refine ⟨f, s, rfl, htell (show _ = some members.statics.methods[0] by decide +kernel) hnumber,
    htell (show _ = some members.statics.methods[1] by decide +kernel) hanything, ?_, ?_,
    hunknown "ask" (by decide) (by decide) fun h => by cases h⟩
  · obtain ⟨g, s₁, hread, hcall⟩ := hkey _ List.mem_cons_self rfl
    exact answer_of_runs hserves live_kept hread (fun a => hcall a _) hnumber
  · obtain ⟨g, s₁, hread, hcall⟩ := hname "count" ⟨_, List.mem_of_getElem? (i := 2) rfl, rfl⟩
    refine answer_of_fails hserves live_kept hread fun a => ?_
    have hfails := hcall a [.string "x"]
    rwa [show members.firstTaking .statics "count" [.string "x"] = none by decide +kernel] at hfails

end ScriptClass
