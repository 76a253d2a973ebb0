import ScriptClass.Proofs.MemberFunction
import ScriptClass.Proofs.Store.Property
import ScriptClass.Proofs.Workspace.Handout

/-!
# Static callables and their facet

A static callable runs with `this` the static facet that its class hands out: the last one that it
handed out while that is in use and held, and otherwise a new one (`Store.Gives`). All static facets
of one class answer alike, whatever store they are in (`Store.AnswersAs`), and refuse all writes. So
it makes no difference to a program which of them it has
(`static_callables_keep_their_facet`).
-/

namespace ScriptClass

/-! ## What a static facet answers -/

/-- What a name is read as: nothing, data, or a function that is made for a member. -/
inductive Reading where
  | nothing
  | data (v : ScriptValue)
  | function (code : FunctionCode)

/-- What a static facet of the wrapper class reads a name as. -/
def WrapperPlan.staticReading (p : WrapperPlan) (w : WrapperRef) (n : String) : Reading :=
  match p.classData? n with
  | some v => .data v
  | none =>
    let id := p.findId .statics n
    if id.isDefault then .nothing
    else .function (.member w .statics n id
      (match p.member? id with
      | some m => m.key == n && m.name != n
      | none => false))

namespace Store

variable {s s' t : Store} {f g : StaticFacet} {c c' : Wrapper} {n : String}

/-- The name is read as this. -/
def Reads (s : Store) (o : ScriptObject) (n : String) : Reading → Prop
  | .nothing => s.getProperty o n = (none, s)
  | .data v => s.getProperty o n = (some v, s)
  | .function code => s.ReadsAs o n code

theorem reads_facet (hc : s.wrapper? f.wrapper = some c) (n : String) :
    s.Reads (.facet f) n (c.plan.staticReading f.wrapper n) := by
  unfold WrapperPlan.staticReading
  cases hdata : c.plan.classData? n with
  | some v =>
    simp only [Reads, getProperty, hc, Option.bind_some, hdata]
  | none =>
    dsimp only
    split
    next hdefault =>
      simp only [Reads, getProperty, hc, Option.bind_some, hdata, memberFunction, hdefault, if_true]
      rfl
    next hmember =>
      simp only [Reads, ReadsAs, getProperty, hc, Option.bind_some, hdata, memberFunction]
      rw [if_neg hmember]
      rfl

/-- One object answers in one store as another does in another store, whatever name or id it is asked
for. -/
structure AnswersAs (s : Store) (o : ScriptObject) (s' : Store) (o' : ScriptObject) : Prop where
  reads (n : String) : ∃ r, s.Reads o n r ∧ s'.Reads o' n r
  keys : s.keysOf o = s'.keysOf o'
  id (n : String) : s.idOf? o n = s'.idOf? o' n
  key (id : MemberId) : s.keyOf? o id = s'.keyOf? o' id
  arity (id : MemberId) : s.arityOf? o id = s'.arityOf? o' id

/-- Static facets of one wrapper class answer alike. -/
theorem answersAs_of_wrapper (hw : f.wrapper = g.wrapper) (hc : s.wrapper? f.wrapper = some c)
    (hc' : t.wrapper? g.wrapper = some c') (hplan : c.plan = c'.plan) :
    s.AnswersAs (.facet f) t (.facet g) where
  reads n := by
    refine ⟨_, reads_facet hc n, ?_⟩
    rw [hw, hplan]
    exact reads_facet hc' n
  keys := by simp only [keysOf, hc, hc', hplan]
  id n := by simp only [idOf?, hc, hc', hplan, Option.map_some]
  key id := by simp only [keyOf?, hc, hc', hplan, Option.bind_some]
  arity id := by simp only [arityOf?, hc, hc', hplan, Option.bind_some]

/-! ## What a class gives its static callables -/

variable {G : Grant} {fs : List StaticFacet} {L : Set Holding}

/-- What a class hands out: the static facet that it handed out last while that is in use and held,
and otherwise a new one. -/
structure Gives (s : Store) (G : Grant) (fs : List StaticFacet) (L : Set Holding) (g : StaticFacet)
    (s' : Store) : Prop where
  facet : g.loaded = G.facet.loaded
  last {f : StaticFacet} :
    fs.getLast? = some f → .facet f ∈ L → s.isHeld (.facet f) = true → g = f
  store : fs.getLast? = some g ∧ .facet g ∈ L ∧ s.isHeld (.facet g) = true ∧ s' = s ∨
    g.id = s.facets ∧ s' = s.handNew g.backing g.wrapper ∧
      s'.Serves G (fs ++ [g]) (insert (.facet g) L)

namespace Gives

variable {G : Grant}

theorem functions (h : s.Gives G fs L g s') : s'.functions = s.functions := by
  rcases h.store with ⟨-, -, -, rfl⟩ | ⟨-, rfl, -⟩ <;> rfl

theorem contexts (h : s.Gives G fs L g s') : s'.contexts = s.contexts := by
  rcases h.store with ⟨-, -, -, rfl⟩ | ⟨-, rfl, -⟩ <;> rfl

end Gives

/-- All that a class has handed out answers as the first did. -/
theorem HandsOut.answersAs (h : HandsOut G fs s) (hg : g ∈ fs) :
    s.AnswersAs (.facet g) G.store (.facet G.facet) := by
  have hw : g.wrapper = G.facet.wrapper := congrArg LoadedClass.wrapper (h.facet hg).2
  obtain ⟨-, c, hc, -⟩ := G.wrapper
  obtain ⟨c', hc', hplan⟩ := h.later.plan hc
  refine answersAs_of_wrapper hw ?_ hc hplan
  rw [hw]
  exact hc'

end Store

/-- A two-sided object in use houses its wrapper class. -/
theorem Store.Sound.housed_side {s : Store} {L : Set Holding} {o : ScriptObject} {w : WrapperRef}
    {facet : Facet} (hs : s.Sound L) (ho : o.holding ∈ L) (hside : o.side? = some (w, facet)) :
    Housed L w := by
  cases o with
  | plain id => cases hside
  | pair p =>
    cases hside
    exact hs.housed_pair ho
  | facet f =>
    cases hside
    exact hs.housed_facet ho

/-- The functions of a class whose host side is in use are there. -/
theorem Store.Sound.member_code {s : Store} {L : Set Holding} {w : WrapperRef} {ms : Members}
    (hs : s.Sound L) (hw : Housed L w) (hms : s.HasMembers w ms) {facet : Facet} {m : Member}
    (hm : m ∈ ms.methods facet) : ∃ code, s.functions[m.function.id]? = some code := by
  obtain ⟨t, ht, hback⟩ := hw
  obtain ⟨c, hc, name, hplan⟩ := hms.wrapper
  have hheld : .function m.function.id ∈ c.plan.holdings := by
    rw [hplan]
    refine WrapperPlan.function_mem_holdings (List.mem_append_left _ ?_)
    cases facet with
    | instances => exact List.mem_append_left _ hm
    | statics => exact List.mem_append_right _ hm
  have hmem : .function m.function.id ∈ L :=
    hs.heap.closed _ (hs.wrapper ht hback) _ ((Store.held_wrapper w).mpr ⟨c, hc, hheld⟩)
  exact ⟨_, Array.getElem?_eq_getElem (hs.heap.has _ hmem)⟩

namespace Run

open Store

variable {s : Store} {G : Grant} {fs : List StaticFacet} {L : Set Holding}

/-- A class with its host side in use gives its static facet. -/
theorem facetOf_gives (h : s.Serves G fs L) (hhoused : Housed L G.facet.wrapper) :
    ∃ g s', (facetOf G.facet.wrapper).run s = (.ok g, s') ∧ s.Gives G fs L g s' := by
  obtain ⟨c, hc, hbound, -⟩ := h.history.wrapper
  obtain ⟨t, ht, hmem, hback⟩ := h.sound.backing_of_housed hhoused hc
  have hhanded : s.handed? G.facet.wrapper.id = c.facet := by
    rw [handed?, show s.wrappers[G.facet.wrapper.id]? = some c from hc]
    rfl
  simp only [facetOf, run_bind, run_wrapper hc, run_checkBound, hbound, if_true, run_get]
  split
  next g hg =>
    obtain ⟨hg, hheld⟩ := Option.filter_eq_some_iff.mp hg
    have hrecorded : s.handed? G.facet.wrapper.id = some g := hhanded.trans hg
    have hlast := h.history.last hrecorded
    refine ⟨g, s, rfl, (h.history.facet (List.mem_of_getLast? hlast)).2, fun {f} hf _ _ => ?_,
      .inl ⟨hlast, h.sound.handed _ _ hrecorded, hheld, rfl⟩⟩
    exact Option.some.inj (hlast.symm.trans hf)
  next hnone =>
    obtain ⟨rfl, -⟩ := h.history.backing_eq rfl hc ht hback
    simp only [run_bind, backing, ht]
    refine ⟨_, _, rfl, rfl, fun {f} hf hfL hheld => ?_, .inr ⟨rfl, rfl, ?_⟩⟩
    · -- a facet that is in use and held would have been recorded
      have hrecorded : c.facet = some f := hhanded.symm.trans (h.last hf hfL)
      rw [hrecorded, Option.filter_some, if_pos hheld] at hnone
      cases hnone
    · have hnew := h.hand (h.sound.wrapper hmem hback) hc ht
      rwa [if_pos rfl] at hnew

/-- An id of a static callable is dispatched to it with `this` the static facet of its class. -/
theorem executeId_static {o : ScriptObject} {facet : Facet} {w : WrapperRef} {ms : Members}
    {context i : Nat} {m : Member} (hms : s.HasMembers w ms) (hside : o.side? = some (w, facet))
    (hactive : s.contexts.active = some context) (hm : ms.statics.methods[i]? = some m) (fuel : Nat)
    (args : List ScriptValue) : (executeId (fuel + 1) o (.ofIndex .statics i) args).run s =
      (do
        let f ← facetOf w
        return some (← callFunction fuel context m.function (.object (.facet f)) args)).run s := by
  have hrun (receiver : Option Pair) :
      (do return some (← dispatch (fuel + 1) context w receiver (.ofIndex .statics i) args) :
        Run (Option ScriptValue)).run s = (do
          let f ← facetOf w
          return some (← callFunction fuel context m.function (.object (.facet f)) args)).run s := by
    rw [run_bind, dispatch_static hms hm, ← run_bind, bind_assoc]
  rw [executeId, run_bind_ok (run_currentContext hactive)]
  cases o with
  | plain id => cases hside
  | pair p =>
    cases hside
    exact hrun (some p)
  | facet f =>
    cases hside
    exact hrun none

end Run

open Store in
/-- A class is requested with things that are live, in a workspace that came about somehow, and the
user then does and drops whatever they like. From the request on the class hands out static facets,
all its own, and all code keeps what is said of them. They answer like the first did when the class
was requested, whatever is written on them. The id of a static callable, executed on an object or
static facet of the class below the limit of the context, runs the function that was written for the
callable, with these arguments and with `this` the static facet that was handed out last, while that
is in use and held, and otherwise a new one. What is live is held when code begins. -/
theorem static_callables_keep_their_facet {config : Config} {writable : Bool} {stateName : String}
    {W₀ W : Workspace} (hfresh : Workspace.Evolves (.fresh config writable stateName) W₀)
    {r : ClassRequest} (hr : ∀ x ∈ r.holdings, W₀.Live x) {G : Grant}
    (hgen : W₀.store.generate W₀.config r = (.ok G.facet, G.store))
    {handles : List (String × Handle)} (hkept : ∀ e ∈ handles, ∀ x ∈ e.2.holdings,
      G.store.Reaches (.facet G.facet :: { W₀ with store := G.store }.roots) x)
    (hW : Workspace.Evolves { W₀ with store := G.store, handles }.settle W)
    {ms : Members} (hms : Members.collect r.instances r.statics = .ok ms) (hfit : ms.Fit) :
    (∃ fs, W.Serves G (G.facet :: fs)) ∧
    (∀ fs, W.Serves G fs → W.ready.Serves G fs {x | W.Live x} ∧
      ∀ f, W.Live (.facet f) → W.ready.isHeld (.facet f) = true) ∧
    (∀ fs fuel, Run.KeepsAt (.serves G fs) fuel) ∧
    ∀ (s : Store) (L : Set Holding) (fs : List StaticFacet), s.Serves G fs L →
      (∀ f ∈ fs, f.loaded = G.facet.loaded ∧
        s.AnswersAs (.facet f) G.store (.facet G.facet) ∧
        ∀ n v, s.putProperty (.facet f) n v = .error (.readOnlyProperty n)) ∧
      ∀ o facet context cs i m args, o.holding ∈ L → o.side? = some (G.facet.wrapper, facet) →
        s.contexts.active = some context → s.contexts.pushCall context = .ok cs →
        ms.statics.methods[i]? = some m →
          (r.statics.getD []).lookup m.key = some (.function m.function) ∧
          ∃ g s' code, s.Gives G fs L g s' ∧ s.functions[m.function.id]? = some code ∧ ∀ fuel,
            (Run.executeId (fuel + 2) o (.ofIndex .statics i) args).run s =
              (Run.leave s' context ((Run.runCode fuel context code (.object (.facet g)) args).run
                (s'.inside cs (.function m.function :: .object (.facet g) :: args)))).map
                  (Except.map some) id := by
  have hsound : W₀.Sound := hfresh.sound (Workspace.sound_fresh config writable stateName)
  have hfirst := Workspace.serves_first hsound hr hgen hkept
  refine ⟨hW.serves hfirst, fun fs hfs => ⟨?_, fun f hf => ?_⟩, fun fs => Run.keeps _, ?_⟩
  · exact hfs.grow (hfs.sound.grow (grows_roots _ _) (.nil _)) (.roots _ _) (grows_roots _ _)
      fun _ => id
  · exact Workspace.isHeld_ready (hW.sound (Store.Serves.sound hfirst)) hf
  intro s L fs hs
  refine ⟨fun f hf => ⟨(hs.history.facet hf).2, hs.history.answersAs hf, fun n v => rfl⟩, ?_⟩
  intro o facet context cs i m args ho hside hactive hpush hm
  have hmembers : s.HasMembers G.facet.wrapper ms := by
    obtain ⟨ms', hms', hclass⟩ := generate_ok hgen
    cases hms.symm.trans hms'
    exact (hclass hfit).hasMembers.later hs.history.later
  have hmem : m ∈ ms.methods .statics := List.mem_of_getElem? hm
  have hhoused := hs.sound.housed_side ho hside
  obtain ⟨code, hcode⟩ := hs.sound.member_code hhoused hmembers hmem
  obtain ⟨g, s', hfacet, hgives⟩ := Run.facetOf_gives hs hhoused
  refine ⟨(CollectedFacet.collect_ok (Members.collect_ok hms).2).written
    (List.mem_append_left _ hmem), g, s', code, hgives, hcode, fun fuel => ?_⟩
  rw [Run.executeId_static hmembers hside hactive hm, Run.run_bind_ok hfacet, Run.run_bind,
    Run.callFunction_of_code (by rwa [hgives.contexts]) (by rwa [hgives.functions])]
  generalize Run.leave _ _ _ = x
  rcases x with ⟨e | v, t⟩ <;> rfl

namespace Gauge

/-- A function that gives the `this` it is called with. -/
def self : FunctionRef := ⟨0, some "self", none⟩

def request : ClassRequest where
  statics := some [("limit", .int 5), ("self", .function self)]
  name := some "Gauge"

/-- The members of `request`. -/
def members : Members where
  instances := .empty .instances
  statics := ⟨.statics, [("limit", .int 5)], [⟨"self", ⟨"self", none⟩, .ofIndex .statics 0, self⟩], none⟩

theorem collect : Members.collect request.instances request.statics = .ok members := rfl

/-- The function is made and kept. -/
def equipped : Workspace := Workspace.settle
  { Workspace.fresh {} true "Counter" with
    store := ((Workspace.fresh {} true "Counter").store.newFunction (.expression .this) (some "self")
      none).2
    handles := [("self", .script (.function self))] }

/-- A context is entered. -/
def start : Workspace := Workspace.settle
  { equipped with
    store := { equipped.store with
      contexts := { all := #[{ maxDepth := 256, nesting := 1 }], active := some 0 } } }

theorem evolves_start : Workspace.Evolves (.fresh {} true "Counter") start := by
  refine .tail (.single (.intro (.function (.expression .this) (some "self") none ?_)
    [("self", .script (.function self))] fun e he x hx => ?_)) (.intro (.contexts _ [] []) _ ?_)
  · intro x hx
    cases hx
  · cases List.mem_singleton.mp he
    cases List.mem_singleton.mp hx
    exact .root List.mem_cons_self
  · intro e he x hx
    exact .root (List.mem_append_right _ (List.mem_append_left _ (List.mem_flatMap.mpr ⟨e, he, hx⟩)))

theorem live_request : ∀ x ∈ request.holdings, start.Live x := by
  intro x hx
  cases List.mem_singleton.mp (show x ∈ [.function 0] from hx)
  exact .root (List.mem_append_left _ List.mem_cons_self)

theorem granted : (start.store.generate start.config request).1.toOption.isSome = true ∧
    (start.store.generate start.config request).2.contexts.active = some 0 ∧
      (start.store.generate start.config request).2.contexts.get? 0 =
        some { maxDepth := 256, nesting := 1 } := by
  decide +kernel

/-- The class was requested, and one thing is kept. -/
def keeping (s : Store) (h : Handle) : Workspace :=
  Workspace.settle { start with store := s, handles := [("gauge", h)] }

section Kept

variable {s : Store} {f : StaticFacet} (hgen : start.store.generate start.config request = (.ok f, s))

theorem reaches_kept (s : Store) (f : StaticFacet) : ∀ e ∈ [("gauge", Handle.facet f)],
    ∀ x ∈ e.2.holdings, s.Reaches (.facet f :: { start with store := s }.roots) x := by
  intro e he x hx
  cases List.mem_singleton.mp he
  cases List.mem_singleton.mp hx
  exact .root List.mem_cons_self

theorem live_kept (s : Store) (f : StaticFacet) : (keeping s (.facet f)).Live (.facet f) := by
  rw [keeping, Workspace.live_settle]
  exact .root List.mem_cons_self

include hgen

theorem serves_kept : (keeping s (.facet f)).Serves ⟨f, s, ⟨_, _, _, hgen⟩⟩ [f] :=
  Workspace.serves_first (G := ⟨f, s, ⟨_, _, _, hgen⟩⟩)
    (evolves_start.sound (Workspace.sound_fresh _ _ _)) live_request hgen (reaches_kept s f)

theorem code_kept (h : Handle) : (keeping s h).ready.functions[0]? = some (.expression .this) := by
  have hlater := generate_later start.store start.config request
  rw [hgen] at hlater
  exact hlater.extends.function rfl

theorem context_kept (h : Handle) : (keeping s h).ready.contexts.active = some 0 ∧
    (keeping s h).ready.contexts.get? 0 = some { maxDepth := 256, nesting := 1 } := by
  obtain ⟨-, hcontexts⟩ := granted
  rw [hgen] at hcontexts
  exact hcontexts

end Kept

end Gauge

open Gauge in
/-- The static callable of a class that was just requested gives the static facet that the request
gave. -/
theorem gauge_calls_on_its_facet : ∃ f s, start.store.generate start.config request = (.ok f, s) ∧
    ((Run.executeId 4 (.facet f) (.ofIndex .statics 0) []).run (keeping s (.facet f)).ready).1 =
      .ok (some (.object (.facet f))) := by
  obtain ⟨hok, -⟩ := granted
  rcases hgen : start.store.generate start.config request with ⟨e | f, s⟩
  · rw [hgen] at hok
    cases hok
  refine ⟨f, s, rfl, ?_⟩
  obtain ⟨hactive, hcontext⟩ := context_kept hgen (.facet f)
  obtain ⟨-, hbegin, -, hcalls⟩ := static_callables_keep_their_facet (G := ⟨f, s, ⟨_, _, _, hgen⟩⟩)
    evolves_start live_request hgen (reaches_kept s f) .refl collect ⟨by decide, by decide⟩
  obtain ⟨hserves, hheld⟩ := hbegin [f] (serves_kept hgen)
  obtain ⟨-, g, s', code, hgives, hcode, hrun⟩ := (hcalls _ _ _ hserves).2 (.facet f) .statics 0 _ 0 _
    [] (live_kept s f) rfl hactive (Contexts.pushCall_of_lt hcontext (by decide)) rfl
  cases (code_kept hgen _).symm.trans hcode
  cases hgives.last rfl (live_kept s f) (hheld f (live_kept s f))
  refine (congrArg Prod.fst (hrun 2)).trans ?_
  simp only [Run.runCode, Run.eval]
  rfl

namespace Gauge

/-- The static facet that the callable gives where only an object of the class is kept. -/
def again : Option StaticFacet :=
  match start.store.generate start.config request with
  | (.error _, _) => none
  | (.ok f, s) =>
    match (Run.construct 3 0 f.wrapper []).run s with
    | (.error _, _) => none
    | (.ok p, s) =>
      match ((Run.executeId 4 (.pair p) (.ofIndex .statics 0) []).run (keeping s (.pair p)).ready).1 with
      | .ok (some (.object (.facet g))) => some g
      | _ => none

/-- It is a new one. -/
example : again.map StaticFacet.id = some 1 := by decide +kernel

end Gauge

end ScriptClass
