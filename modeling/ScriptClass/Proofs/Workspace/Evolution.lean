import ScriptClass.Proofs.Store.Load
import ScriptClass.Proofs.Workspace.Operation

/-!
# How workspaces evolve

A user works with what their handles and the registry reach, which is what is `Live`. At a
time they do one thing (`Workspace.Does`), get what it hands out, keep whatever handles they
like of what they have then, and drop the others; then the workspace settles
(`Workspace.Next`).

Every workspace that a fresh one evolves into is sound for what is live in it
(`Evolves.sound`): what is loaded is what is live.
-/

namespace ScriptClass

/-! ## Settling -/

@[simp] theorem Handle.holdings_unload (keys : List Holding.Key) (h : Handle) :
    (h.unload keys).holdings = h.holdings := by
  cases h <;> rfl

namespace Workspace

/-- What is held from outside: by handles and by the registry. -/
def roots (W : Workspace) : List Holding :=
  W.handles.flatMap (·.2.holdings) ++ W.store.registryRoots

/-- The thing is in use: some handle or the registry leads to it. -/
def Live (W : Workspace) (x : Holding) : Prop := W.store.Reaches W.roots x

variable {W W' : Workspace} {L : Set Holding} {out : List Holding}

@[simp] theorem roots_settle (W : Workspace) : W.settle.roots = W.roots := by
  simp [roots, settle, Store.registryRoots_unload, List.flatMap_map]

theorem live_settle (W : Workspace) : W.settle.Live = W.Live := by
  unfold Live
  rw [roots_settle]
  exact Store.reaches_congr (Store.held_unload _ _) _

/-! ## What a user does -/

theorem ok_of_mem_toList {ε α : Type} {e : Except ε α} {a : α} (h : a ∈ e.toOption.toList) :
    e = .ok a := by
  cases e with
  | error => cases h
  | ok b => rw [List.mem_singleton.mp h]

/-- The user does one thing with things that are live, and it hands out others. -/
inductive Does (W : Workspace) : List Holding → Workspace → Prop
  | rest : Does W [] W
  /-- Code runs. -/
  | perform (op : Operation) (fuel : Nat) (h : ∀ x ∈ op.holdings, W.Live x) :
    Does W ((W.run (op.part fuel)).1.toOption.getD []) (W.run (op.part fuel)).2
  /-- A class is requested. -/
  | extend (r : ClassRequest) (h : ∀ x ∈ r.holdings, W.Live x) :
    Does W ((W.store.generate W.config r).1.toOption.toList.map .facet)
      { W with store := (W.store.generate W.config r).2 }
  /-- A class that was planned otherwise is loaded. -/
  | load (unit : Nat) (plan : ClassPlan) (script : WrapperPlan)
    (hsuper : W.Live (.type plan.superclass)) (hinterfaces : ∀ i ∈ plan.interfaces, W.Live (.type i))
    (hscript : ∀ x ∈ script.holdings, W.Live x) :
    Does W ((W.store.load W.config unit plan script).1.toOption.toList.map fun l => .type l.backing)
      { W with store := (W.store.load W.config unit plan script).2 }
  /-- A static facet is bound to a wrapper class. -/
  | bind {w : WrapperRef} {f : StaticFacet} {s : Store} (hf : W.Live (.facet f))
    (h : W.store.bindFacet w f = .ok s) : Does W [] { W with store := s }
  /-- A host type is built, also on generated ones. -/
  | type (own : Declaration) (superclass : Option HostType) (interfaces : List HostType)
    (hown : ∀ w, own.instantiation ≠ some (.generated w))
    (h : ∀ x ∈ W.store.heldByType (.mk { own with id := W.store.declarations } superclass interfaces),
      W.Live x) :
    Does W [.type (.mk { own with id := W.store.declarations } superclass interfaces)]
      { W with store :=
        (W.store.newType fun id => .mk { own with id } superclass interfaces).2 }
  /-- A host type is registered. -/
  | register (t : HostType) (h : W.Live (.type t)) (hplain : t.Plain) :
    Does W [] { W with store := (W.store.register t).2 }
  | native (code : NativeCode) (h : ∀ x ∈ code.holdings, W.Live x) :
    Does W [] { W with store := (W.store.newNative code).2 }
  | function (code : FunctionCode) (name : Option String) (arity : Option Nat)
    (h : ∀ x ∈ code.holdings, W.Live x) :
    Does W [.function W.store.functions.size]
      { W with store := (W.store.newFunction code name arity).2 }
  | literal (entries : Entries) (h : ∀ x ∈ entries.holdings, W.Live x) :
    Does W [.literal W.store.literals.size] { W with store := (W.store.newLiteral entries).2 }
  /-- Contexts are entered and left, on any thread. -/
  | contexts (contexts : Contexts) (guards frames : List Nat) :
    Does W [] { W with store := { W.store with contexts }, guards, frames }

theorem Does.handles (h : W.Does out W') : W'.handles = W.handles := by
  cases h <;> rfl

/-- What a user does leaves a sound store, and hands out what is in use. -/
theorem Does.sound (h : W.Does out W') (hs : W.store.Sound L) (hL : ∀ x, W.Live x → x ∈ L) :
    ∃ L', (∀ x ∈ L, x ∈ L') ∧ W'.store.Sound L' ∧ InUse L' out := by
  cases h with
  | rest => exact ⟨L, fun _ => id, hs, .nil _⟩
  | perform op fuel h =>
    obtain ⟨L', hsub, hs', hout⟩ := Operation.sound_part
      (hs.grow (Store.grows_roots W.store (W.handles.flatMap (·.2.holdings))) (.nil _)) fuel
      (fun x hx => hL x (h x hx))
    refine ⟨L', hsub, hs'.grow (Store.grows_roots _ _) (.nil _), fun x hx => ?_⟩
    rcases hrun : (W.run (op.part fuel)).1 with e | xs
    · rw [hrun] at hx
      cases hx
    · rw [hrun] at hx
      exact hout xs hrun x hx
  | extend r h =>
    obtain ⟨L', hsub, hs', hout⟩ := hs.generate (fun x hx => hL x (h x hx)) W.config
    refine ⟨L', hsub, hs', fun x hx => ?_⟩
    obtain ⟨f, hf, rfl⟩ := List.mem_map.mp hx
    exact hout f (ok_of_mem_toList hf)
  | load unit plan script hsuper hinterfaces hscript =>
    obtain ⟨L', hsub, hs', hout⟩ := hs.load (hL _ hsuper) (fun i hi => hL _ (hinterfaces i hi))
      (fun x hx => hL x (hscript x hx)) W.config unit
    refine ⟨L', hsub, hs', fun x hx => ?_⟩
    obtain ⟨l, hl, rfl⟩ := List.mem_map.mp hx
    exact (hout l (ok_of_mem_toList hl)).1
  | bind hf h => exact ⟨L, fun _ => id, hs.bindFacet (hL _ hf) h, .nil _⟩
  | type own superclass interfaces hown h =>
    refine ⟨_, fun _ => .inr, hs.newType (fun id => .mk { own with id } superclass interfaces) rfl
      ?_ fun x hx => hL x (h x hx), fun x hx => ?_⟩
    · rintro ⟨w, hw⟩
      exact hown w (HostType.wrapper?_eq_some.mp hw)
    · exact .inl (List.mem_singleton.mp hx)
  | register t h hplain => exact ⟨L, fun _ => id, hs.register (hL _ h) hplain, .nil _⟩
  | native code h =>
    exact ⟨L, fun _ => id, hs.grow (Store.grows_native _ code) fun x hx => hL x (h x hx), .nil _⟩
  | function code name arity h =>
    refine ⟨_, fun _ => .inr, hs.newFunction (fun x hx => hL x (h x hx)) name arity, fun x hx => ?_⟩
    exact .inl (List.mem_singleton.mp hx)
  | literal entries h =>
    refine ⟨_, fun _ => .inr, hs.newLiteral fun x hx => hL x (h x hx), fun x hx => ?_⟩
    exact .inl (List.mem_singleton.mp hx)
  | contexts contexts guards frames =>
    exact ⟨L, fun _ => id, hs.grow (Store.grows_contexts _ _) (.nil _), .nil _⟩

/-! ## Steps and evolutions -/

/-- The user does one thing, keeps handles to things that they then have or that these lead
to, and drops all others. -/
inductive Next (W : Workspace) : Workspace → Prop
  | intro {out : List Holding} {W' : Workspace} (h : W.Does out W')
    (handles : List (String × Handle))
    (hkept : ∀ e ∈ handles, ∀ x ∈ e.2.holdings, W'.store.Reaches (out ++ W'.roots) x) :
    Next W { W' with handles }.settle

/-- Any number of steps. -/
abbrev Evolves : Workspace → Workspace → Prop := Relation.ReflTransGen Next

/-- A workspace before anything was done. -/
def fresh (config : Config) (writable : Bool) (stateName : String) : Workspace :=
  { store := { Store.initial with writable, stateName }, config }

/-- What is loaded is what is live. -/
def Sound (W : Workspace) : Prop := W.store.Sound {x | W.Live x}

theorem sound_fresh (config : Config) (writable : Bool) (stateName : String) :
    (fresh config writable stateName).Sound := by
  have hs : (fresh config writable stateName).store.Sound {.type rootClass, .type stringClass} :=
    Store.sound_initial.grow { Store.Grows.refl Store.initial [] with } (.nil _)
  have hlive : {x | (fresh config writable stateName).Live x} =
      {.type rootClass, .type stringClass} := by
    refine Set.Subset.antisymm (fun x hx => ?_) ?_
    · exact hs.heap.mem_of_reaches (fun r hr => hs.registryRoots hr) hx
    · rintro x (rfl | rfl)
      · exact .root List.mem_cons_self
      · exact .root (List.mem_cons_of_mem _ List.mem_cons_self)
  rw [Sound, hlive]
  exact hs

/-- The roots of a sound workspace are in use with what its handles hold. -/
theorem inUse_roots (hs : W.store.Sound L) (hhandles : ∀ e ∈ W.handles, InUse L e.2.holdings) :
    InUse L W.roots := by
  intro x hx
  rcases List.mem_append.mp hx with hx | hx
  · obtain ⟨e, he, hx⟩ := List.mem_flatMap.mp hx
    exact hhandles e he x hx
  · exact hs.registryRoots hx

theorem live_of_mem_handles {e : String × Handle} {x : Holding} (he : e ∈ W.handles)
    (hx : x ∈ e.2.holdings) : W.Live x :=
  .root (List.mem_append_left _ (List.mem_flatMap.mpr ⟨e, he, hx⟩))

/-- What the user keeps is in use where what they had and what was handed out is. -/
theorem Does.inUse_kept (h : W.Does out W') (hs : W'.store.Sound L) (hL : ∀ x, W.Live x → x ∈ L)
    (hout : InUse L out) {handles : List (String × Handle)}
    (hkept : ∀ e ∈ handles, ∀ x ∈ e.2.holdings, W'.store.Reaches (out ++ W'.roots) x) :
    ∀ e ∈ handles, InUse L e.2.holdings := by
  have hroots : InUse L W'.roots := by
    refine inUse_roots hs fun e he x hx => hL x ?_
    rw [h.handles] at he
    exact live_of_mem_handles he hx
  exact fun e he x hx => hs.heap.mem_of_reaches (hout.append hroots) (hkept e he x hx)

theorem Next.sound (h : W.Next W') (hs : W.Sound) : W'.Sound := by
  cases h with
  | @intro out W' hdoes handles hkept =>
    obtain ⟨L', hsub, hs', hout⟩ := hdoes.sound hs fun _ => id
    have hafter : InUse L' { W' with handles }.roots :=
      inUse_roots hs' (hdoes.inUse_kept hs' hsub hout hkept)
    rw [Sound, live_settle]
    exact hs'.settle hafter fun r => List.mem_append_right _

theorem Evolves.sound (h : Evolves W W') (hs : W.Sound) : W'.Sound := by
  induction h with
  | refl => exact hs
  | tail _ hstep ih => exact hstep.sound ih

end Workspace

end ScriptClass
