import ScriptClass.Proofs.Generation.Listing
import ScriptClass.Proofs.Run.Blind
import ScriptClass.Proofs.Workspace.Evolution

/-!
# Workspaces but for their listings

Workspaces are `Alike` if they are the same but for listings: whether these are made, whether they
can be written, and what was left of them. Alike workspaces give the same answers to requests and to
every `Program` of calls (`Alike.extend`, `Alike.run`). What a user can do in one they can do in the
other, with the same outcome (`Does.alike`, `Next.alike`), so alike workspaces evolve alike
(`Evolves.alike`).
-/

namespace ScriptClass

/-! ## Programs -/

namespace Run

/-- A part that tells how another part ends, and does not fail with it. -/
def outcome {α : Type} (x : Run α) : Run (Except Halt α) := ExceptT.lift x.run

/-- What a user can run: calls, one after the other, each chosen by what the earlier ones gave. -/
inductive Program : {α : Type} → Run α → Prop
  | done {α : Type} (a : α) : Program (pure a)
  | andThen {α β : Type} {x : Run α} {f : α → Run β} (hx : Program x) (hf : ∀ a, Program (f a)) :
    Program (x >>= f)
  /-- The program goes on after an error. -/
  | outcome {α : Type} {x : Run α} (hx : Program x) : Program x.outcome
  | context : Program currentContext
  | construct (fuel context : Nat) (w : WrapperRef) (args : List ScriptValue) :
    Program (Run.construct fuel context w args)
  | facet (w : WrapperRef) : Program (facetOf w)
  | instantiate (fuel : Nat) (t : HostType) (args : List HostValue) :
    Program (Run.instantiate fuel t args)
  | get (target : ScriptValue) (name : String) : Program (getProperty target name)
  | put (target : ScriptValue) (name : String) (v : ScriptValue) :
    Program (putProperty target name v)
  | call (fuel context : Nat) (target : ScriptValue) (name : String) (args : List ScriptValue) :
    Program (callProperty fuel context target name args)
  | apply (fuel context : Nat) (f this : ScriptValue) (args : List ScriptValue) :
    Program (callValue fuel context f this args)
  | execute (fuel : Nat) (o : ScriptObject) (id : MemberId) (args : List ScriptValue) :
    Program (executeId fuel o id args)
  | invoke (fuel : Nat) (receiver : HostObject) (name descriptor : String) (args : List HostValue) :
    Program (callNamed fuel receiver name descriptor args)
  | callStatic (fuel : Nat) (t : HostType) (name descriptor : String) (args : List HostValue) :
    Program (Run.callStatic fuel t name descriptor args)

namespace Blind

variable {α : Type} {s s' : Store}

theorem outcome {x : Run α} (hx : Blind x) : Blind x.outcome := by
  intro s
  have hstore (s : Store) : (Run.outcome x).run s = (.ok (x.run s).1, (x.run s).2) := rfl
  rw [hstore, hstore, hx]

theorem instantiate (fuel : Nat) (t : HostType) (args : List HostValue) :
    Blind (Run.instantiate fuel t args) := by
  have hplain (counter : Option Int64) : Blind (Run.ofChange fun s => s.newPlain t counter) :=
    .ofChange fun _ => rfl
  unfold Run.instantiate
  split
  · exact .fail _
  · split
    · exact .fail _
    · exact hplain _
    · exact Blind.currentContext.bind fun context =>
        ((blind fuel).construct context _ _).bind fun _ => .pure _
    · split
      · exact hplain _
      · exact .fail _

theorem callNamed (fuel : Nat) (receiver : HostObject) (name descriptor : String)
    (args : List HostValue) : Blind (Run.callNamed fuel receiver name descriptor args) :=
  (Blind.ofExcept _).bind fun s => (blind fuel).invoke receiver s args

theorem callStatic (fuel : Nat) (t : HostType) (name descriptor : String) (args : List HostValue) :
    Blind (Run.callStatic fuel t name descriptor args) := by
  refine (Blind.ofExcept _).bind fun s => ?_
  split
  · exact .fail _
  next m _ => exact (Blind.ofExcept _).bind fun _ => (blind fuel).runMethod t m none args

theorem executeId (fuel : Nat) (o : ScriptObject) (id : MemberId) (args : List ScriptValue) :
    Blind (Run.executeId fuel o id args) := by
  refine Blind.currentContext.bind fun context => ?_
  cases o with
  | plain => exact .pure _
  | pair p => exact ((blind fuel).dispatch context _ _ id args).bind fun _ => .pure _
  | facet f => exact ((blind fuel).dispatch context _ _ id args).bind fun _ => .pure _

theorem part (fuel : Nat) (op : Operation) : Blind (op.part fuel) := by
  cases op with
  | construct w args =>
    exact Blind.currentContext.bind fun context =>
      ((blind fuel).construct context w args).bind fun _ => .pure _
  | facet w => exact (Blind.facetOf w).bind fun _ => .pure _
  | instantiate t args => exact (Blind.instantiate fuel t args).bind fun _ => .pure _
  | get target name => exact (Blind.getProperty target name).bind fun _ => .pure _
  | put target name v => exact (Blind.putProperty target name v).bind fun _ => .pure _
  | call target name args =>
    exact Blind.currentContext.bind fun context =>
      ((blind fuel).callProperty context target name args).bind fun _ => .pure _
  | apply f this args =>
    exact Blind.currentContext.bind fun context =>
      ((blind fuel).callValue context f this args).bind fun _ => .pure _
  | execute o id args => exact (Blind.executeId fuel o id args).bind fun _ => .pure _
  | invoke receiver name descriptor args =>
    exact (Blind.callNamed fuel receiver name descriptor args).bind fun _ => .pure _
  | callStatic t name descriptor args =>
    exact (Blind.callStatic fuel t name descriptor args).bind fun _ => .pure _

/-- A blind run gives the same answer in stores that are alike, and leaves stores that are. -/
theorem alike {x : Run α} (hx : Blind x) (h : s.Alike s') :
    (x.run s).1 = (x.run s').1 ∧ (x.run s).2.Alike (x.run s').2 :=
  Store.Alike.of_answers (hx s) (hx s') (congrArg x.run h)

end Blind

theorem Program.blind {α : Type} {x : Run α} (h : Program x) : Blind x := by
  induction h with
  | done a => exact .pure a
  | andThen _ _ ihx ihf => exact ihx.bind ihf
  | outcome _ ih => exact ih.outcome
  | context => exact .currentContext
  | construct fuel context w args => exact (Run.blind fuel).construct context w args
  | facet w => exact .facetOf w
  | instantiate fuel t args => exact .instantiate fuel t args
  | get target name => exact .getProperty target name
  | put target name v => exact .putProperty target name v
  | call fuel context target name args =>
    exact (Run.blind fuel).callProperty context target name args
  | apply fuel context f this args => exact (Run.blind fuel).callValue context f this args
  | execute fuel o id args => exact .executeId fuel o id args
  | invoke fuel receiver name descriptor args => exact .callNamed fuel receiver name descriptor args
  | callStatic fuel t name descriptor args => exact .callStatic fuel t name descriptor args

end Run

/-! ## Workspaces -/

namespace Workspace

variable {W W' V V' : Workspace} {out : List Holding}

/-- The workspaces are the same but for listings. -/
structure Alike (W V : Workspace) : Prop where
  store : W.store.Alike V.store
  config : W.config.unlisted = V.config.unlisted
  handles : W.handles = V.handles
  guards : W.guards = V.guards
  frames : W.frames = V.frames

/-- A class is requested. -/
def extend (W : Workspace) (r : ClassRequest) : Except RequestError StaticFacet × Workspace :=
  ((W.store.generate W.config r).1, { W with store := (W.store.generate W.config r).2 })

namespace Alike

theorem roots (h : W.Alike V) : W.roots = V.roots := by
  rw [Workspace.roots, Workspace.roots, h.handles,
    h.store.read (f := Store.registryRoots) fun _ => rfl]

theorem live (h : W.Alike V) : W.Live = V.Live := by
  unfold Live
  rw [h.roots]
  exact Store.reaches_congr (h.store.read Store.held_unlisted) _

/-- A change of the store, alike in both. -/
theorem withStore (h : W.Alike V) {s s' : Store} (hs : s.Alike s') :
    Alike { W with store := s } { V with store := s' } :=
  ⟨hs, h.config, h.handles, h.guards, h.frames⟩

theorem run (h : W.Alike V) {α : Type} {x : Run α} (hx : x.Blind) :
    (W.run x).1 = (V.run x).1 ∧ (W.run x).2.Alike (V.run x).2 := by
  have hstart : Store.Alike { W.store with roots := W.handles.flatMap (·.2.holdings) }
      { V.store with roots := V.handles.flatMap (·.2.holdings) } := by
    rw [h.handles]
    exact h.store.change (f := fun s => { s with roots := _ }) fun _ => rfl
  obtain ⟨hanswer, hstore⟩ := hx.alike hstart
  exact ⟨hanswer, h.withStore (hstore.change (f := fun s => { s with roots := [] }) fun _ => rfl)⟩

/-- A request has the same answer. -/
theorem extend (h : W.Alike V) (r : ClassRequest) :
    (W.extend r).1 = (V.extend r).1 ∧ (W.extend r).2.Alike (V.extend r).2 := by
  obtain ⟨hanswer, hstore⟩ := Store.Alike.of_answers (W.store.generate_unlisted W.config r)
    (V.store.generate_unlisted V.config r) (by rw [h.store, h.config])
  exact ⟨hanswer, h.withStore hstore⟩

theorem load (h : W.Alike V) (unit : Nat) (plan : ClassPlan) (script : WrapperPlan) :
    (W.store.load W.config unit plan script).1 = (V.store.load V.config unit plan script).1 ∧
      (W.store.load W.config unit plan script).2.Alike
        (V.store.load V.config unit plan script).2 :=
  Store.Alike.of_answers (W.store.load_unlisted W.config unit plan script)
    (V.store.load_unlisted V.config unit plan script) (by rw [h.store, h.config])

theorem settle (h : W.Alike V) : W.settle.Alike V.settle := by
  have hheld : W.held = V.held := by
    show W.store.reach W.roots = V.store.reach V.roots
    rw [h.roots, h.store.read Store.reach_unlisted]
  have hstore := h.store.change (f := fun s => s.unload V.held) fun s => s.unload_unlisted V.held
  refine ⟨?_, h.config, ?_, h.guards, h.frames⟩
  · simpa only [Workspace.settle, hheld] using hstore
  · simp only [Workspace.settle, hheld, h.handles]

end Alike

/-- What a user can do in one workspace they can do in another that is like it. -/
theorem Does.alike (hdoes : W.Does out W') (h : W.Alike V) :
    ∃ V', V.Does out V' ∧ W'.Alike V' := by
  have hlive (x : Holding) : W.Live x → V.Live x := fun hx => h.live ▸ hx
  cases hdoes with
  | rest => exact ⟨V, .rest, h⟩
  | perform op fuel hop =>
    obtain ⟨hanswer, halike⟩ := h.run (.part fuel op)
    rw [hanswer]
    exact ⟨_, .perform op fuel fun x hx => hlive x (hop x hx), halike⟩
  | extend r hr =>
    obtain ⟨hanswer, halike⟩ := h.extend r
    rw [show (W.store.generate W.config r).1 = _ from hanswer]
    exact ⟨_, .extend r fun x hx => hlive x (hr x hx), halike⟩
  | load unit plan script hsuper hinterfaces hscript =>
    obtain ⟨hanswer, hstore⟩ := h.load unit plan script
    rw [hanswer]
    exact ⟨_, .load unit plan script (hlive _ hsuper) (fun i hi => hlive _ (hinterfaces i hi))
      (fun x hx => hlive x (hscript x hx)), h.withStore hstore⟩
  | @bind w f s hf hbind =>
    have hboth : W.store.unlisted.bindFacet w f = V.store.unlisted.bindFacet w f := by rw [h.store]
    rw [Store.bindFacet_unlisted, Store.bindFacet_unlisted, hbind] at hboth
    cases hbound : V.store.bindFacet w f with
    | error e => rw [hbound] at hboth; cases hboth
    | ok s' =>
      rw [hbound] at hboth
      exact ⟨_, .bind (hlive _ hf) hbound, h.withStore (Except.ok.inj hboth)⟩
  | type own superclass interfaces hown hholds =>
    have hnumber : W.store.declarations = V.store.declarations := h.store.read fun _ => rfl
    have hholding : W.store.heldByType = V.store.heldByType := h.store.read fun _ => rfl
    rw [hnumber, hholding] at hholds
    rw [hnumber]
    exact ⟨_, .type own superclass interfaces hown fun x hx => hlive x (hholds x hx),
      h.withStore (h.store.change (f := fun s =>
        (s.newType fun id => .mk { own with id } superclass interfaces).2) fun _ => rfl)⟩
  | register t ht hplain =>
    obtain ⟨-, hstore⟩ := Store.Alike.of_answers (W.store.register_unlisted t)
      (V.store.register_unlisted t) (by rw [h.store])
    exact ⟨_, .register t (hlive _ ht) hplain, h.withStore hstore⟩
  | native code hcode =>
    exact ⟨_, .native code fun x hx => hlive x (hcode x hx),
      h.withStore (h.store.change (f := fun s => (s.newNative code).2) fun _ => rfl)⟩
  | function code name arity hcode =>
    rw [h.store.read (f := fun s => s.functions.size) fun _ => rfl]
    exact ⟨_, .function code name arity fun x hx => hlive x (hcode x hx),
      h.withStore (h.store.change (f := fun s => (s.newFunction code name arity).2) fun _ => rfl)⟩
  | literal entries hentries =>
    rw [h.store.read (f := fun s => s.literals.size) fun _ => rfl]
    exact ⟨_, .literal entries fun x hx => hlive x (hentries x hx),
      h.withStore (h.store.change (f := fun s => (s.newLiteral entries).2) fun _ => rfl)⟩
  | contexts contexts guards frames =>
    exact ⟨_, .contexts contexts guards frames, ⟨h.store.change
      (f := fun s => { s with contexts }) fun _ => rfl, h.config, h.handles, rfl, rfl⟩⟩

theorem Next.alike (hnext : W.Next W') (h : W.Alike V) : ∃ V', V.Next V' ∧ W'.Alike V' := by
  cases hnext with
  | @intro out W' hdoes handles hkept =>
    obtain ⟨V', hdoes', h'⟩ := hdoes.alike h
    have hreaches : W'.store.Reaches (out ++ W'.roots) = V'.store.Reaches (out ++ V'.roots) := by
      rw [h'.roots]
      exact Store.reaches_congr (h'.store.read Store.held_unlisted) _
    have halike : Alike { W' with handles } { V' with handles } :=
      ⟨h'.store, h'.config, rfl, h'.guards, h'.frames⟩
    exact ⟨_, .intro hdoes' handles fun e he x hx => hreaches ▸ hkept e he x hx, halike.settle⟩

/-- Alike workspaces evolve alike. -/
theorem Evolves.alike (hevolves : Evolves W W') (h : W.Alike V) :
    ∃ V', Evolves V V' ∧ W'.Alike V' := by
  induction hevolves with
  | refl => exact ⟨V, .refl, h⟩
  | tail _ hnext ih =>
    obtain ⟨V₁, hevolves₁, h₁⟩ := ih
    obtain ⟨V₂, hnext₂, h₂⟩ := hnext.alike h₁
    exact ⟨V₂, hevolves₁.tail hnext₂, h₂⟩

end Workspace

end ScriptClass
