import ScriptClass.Proofs.Run.Handout
import ScriptClass.Proofs.Workspace.Evolution

/-!
# Static facets in a workspace

A workspace serves a class as its store does, with what is live in it (`Workspace.Serves`). It does
so once the class is requested (`serves_first`), and whatever the user does and drops from then on
(`Evolves.serves`). A static facet that is live is held while the user's code runs
(`isHeld_ready`).
-/

namespace ScriptClass

open Store

namespace Workspace

variable {W W' : Workspace} {L : Set Holding} {G : Grant} {fs : List StaticFacet}
  {out : List Holding} {x : Holding}

/-- The store in which the user's code begins. -/
def ready (W : Workspace) : Store := { W.store with roots := W.handles.flatMap (·.2.holdings) }

/-- What is live is held when the user's code begins. -/
theorem isHeld_ready (hs : W.Sound) (hx : W.Live x) : W.ready.isHeld x = true := by
  have hready : W.ready.Sound {x | W.Live x} := Store.Sound.grow hs (grows_roots W.store _) (.nil _)
  have hroots : InUse {x | W.Live x} (W.ready.roots ++ W.ready.registryRoots) :=
    fun _ => Reaches.root
  rw [isHeld, Bool.or_eq_true]
  exact .inr (List.contains_iff_mem.mpr ((hready.heap.key_mem_reach hroots hx).mpr hx))

/-- The class of the request has handed out these static facets. While the last one is live it is
recorded. -/
def Serves (W : Workspace) (G : Grant) (fs : List StaticFacet) : Prop :=
  W.store.Serves G fs {x | W.Live x}

/-- What a user does leaves a store that serves the class. -/
theorem Does.serves (h : W.Does out W') (hW : W.Serves G fs) :
    ∃ L, (∀ x, W.Live x → x ∈ L) ∧ ServesOn G fs W'.store L ∧ InUse L out := by
  have hs : W.store.Sound {x | W.Live x} := hW.sound
  have hon : ServesOn G fs W.store {x | W.Live x} := ⟨[], by rwa [List.append_nil]⟩
  have hid := hW.history.id_lt_size
  cases h with
  | rest => exact ⟨_, fun _ => id, hon, .nil _⟩
  | perform op fuel h =>
    have hhome : ∀ w, op.wrapper? = some w → .wrapper w ∈ {x | W.Live x} := by
      intro w hw
      refine h _ ?_
      cases op <;> cases hw <;> exact List.mem_cons_self
    obtain ⟨L, hsub, hs', hout, -⟩ := Operation.keeps_part (.serves G fs) fuel h hhome W.ready
      (hon.fill (.roots W.store _) (grows_roots W.store _) (.nil _))
    refine ⟨L, hsub, hs'.fill (.roots _ _) (grows_roots _ _) (.nil _), fun x hx => ?_⟩
    rcases hrun : ((op.part fuel).run W.ready).1 with e | xs
    · rw [show (W.run (op.part fuel)).1 = _ from hrun] at hx
      cases hx
    · rw [show (W.run (op.part fuel)).1 = _ from hrun] at hx
      exact hout xs hrun x hx
  | extend r h =>
    obtain ⟨L, hsub, hnew, hs', hout⟩ := hs.generates h W.config
    obtain ⟨hhanded, hfacets⟩ := generate_handed W.store W.config r hid
    refine ⟨L, hsub, ⟨[], ?_⟩, fun x hx => ?_⟩
    · rw [List.append_nil]
      exact hW.quiet hs' (generate_later _ _ r) hfacets hhanded fun f hf =>
        (hnew f hf).imp_right fun heq => heq.ge
    · obtain ⟨f, hf, rfl⟩ := List.mem_map.mp hx
      exact hout f (ok_of_mem_toList hf)
  | load unit plan script hsuper hinterfaces hscript =>
    obtain ⟨L, hsub, hold, hs', hout⟩ := hs.loads hsuper hinterfaces hscript W.config unit
    refine ⟨L, hsub, ⟨[], ?_⟩, fun x hx => ?_⟩
    · rw [List.append_nil]
      exact hW.quiet hs' (.single (.load _ _ unit plan script)) (load_facets _ _ unit plan script).ge
        (load_handed _ _ unit plan script hid) fun f hf => .inl (hold f hf)
    · obtain ⟨l, hl, rfl⟩ := List.mem_map.mp hx
      exact (hout l (ok_of_mem_toList hl)).1
  | bind hf h =>
    refine ⟨_, fun _ => id, ⟨[], ?_⟩, .nil _⟩
    rw [List.append_nil]
    exact Store.Serves.bind hW hf h
  | type own superclass interfaces hown h =>
    let make (id : Nat) : HostType := .mk { own with id } superclass interfaces
    refine ⟨_, fun _ => .inr, hon.grow (hs.newType make rfl ?_ h) (.type _ make)
      (grows_type _ make) fun f hf => hf.resolve_left nofun, fun x hx => ?_⟩
    · rintro ⟨w, hw⟩
      exact hown w (HostType.wrapper?_eq_some.mp hw)
    · exact .inl (List.mem_singleton.mp hx)
  | register t h hplain =>
    refine ⟨_, fun _ => id, ⟨[], ?_⟩, .nil _⟩
    have hs' := hs.register h hplain
    rw [List.append_nil]
    have hsame : (W.store.register t).2.facets = W.store.facets ∧
        (W.store.register t).2.handed? = W.store.handed? := by
      unfold Store.register
      split <;> exact ⟨rfl, rfl⟩
    exact hW.quiet hs' (.single (.register _ t)) hsame.1.ge (congrFun hsame.2 _) fun _ => .inl
  | native code h =>
    exact ⟨_, fun _ => id, hon.fill (.native _ code) (grows_native _ code) h, .nil _⟩
  | function code name arity h =>
    refine ⟨_, fun _ => .inr, hon.grow (hs.newFunction h name arity) (.function _ code name arity)
      (grows_function _ code name arity) fun f hf => hf.resolve_left nofun, fun x hx => ?_⟩
    exact .inl (List.mem_singleton.mp hx)
  | literal entries h =>
    refine ⟨_, fun _ => .inr, hon.grow (hs.newLiteral h) (.literal _ entries)
      (grows_literal _ entries) fun f hf => hf.resolve_left nofun, fun x hx => ?_⟩
    exact .inl (List.mem_singleton.mp hx)
  | contexts contexts guards frames =>
    exact ⟨_, fun _ => id, hon.fill (.contexts _ contexts) (grows_contexts _ contexts) (.nil _),
      .nil _⟩

/-- A workspace that settles serves what its store serves. -/
theorem serves_settle (h : W.store.Serves G fs L)
    (hhandles : ∀ e ∈ W.handles, InUse L e.2.holdings) : W.settle.Serves G fs := by
  rw [Serves, live_settle]
  exact h.settle (inUse_roots h.sound hhandles) fun r => List.mem_append_right _

theorem Next.serves (h : W.Next W') (hW : W.Serves G fs) : ∃ fs', W'.Serves G (fs ++ fs') := by
  cases h with
  | @intro out W' hdoes handles hkept =>
    obtain ⟨L, hsub, ⟨fs', hs'⟩, hout⟩ := hdoes.serves hW
    exact ⟨fs', serves_settle (W := { W' with handles }) hs'
      (hdoes.inUse_kept hs'.sound hsub hout hkept)⟩

/-- The class goes on handing out static facets. -/
theorem Evolves.serves (h : Evolves W W') (hW : W.Serves G fs) :
    ∃ fs', W'.Serves G (fs ++ fs') := by
  induction h with
  | refl => exact ⟨[], by rwa [List.append_nil]⟩
  | tail _ hstep ih =>
    obtain ⟨fs₁, h₁⟩ := ih
    obtain ⟨fs₂, h₂⟩ := hstep.serves h₁
    exact ⟨fs₁ ++ fs₂, by rwa [← List.append_assoc]⟩

/-- A request that is granted gives the first static facet, whatever the user keeps then. -/
theorem serves_first (hs : W.Sound) {r : ClassRequest} (hr : ∀ x ∈ r.holdings, W.Live x)
    (hgen : W.store.generate W.config r = (.ok G.facet, G.store))
    {handles : List (String × Handle)} (hkept : ∀ e ∈ handles, ∀ x ∈ e.2.holdings,
      G.store.Reaches (.facet G.facet :: { W with store := G.store }.roots) x) :
    Workspace.Serves { W with store := G.store, handles }.settle G [G.facet] := by
  obtain ⟨L, hsub, hs', hout⟩ := Store.Sound.generate hs hr W.config
  have hdoes := Does.extend r hr
  rw [hgen] at hs' hout hdoes
  exact serves_settle (W := { W with store := G.store, handles }) (.first hs')
    (hdoes.inUse_kept hs' hsub (inUse_singleton (hout _ rfl)) hkept)

end Workspace

end ScriptClass
