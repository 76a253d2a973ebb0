import ScriptClass.Proofs.Run.Chronicle
import ScriptClass.Proofs.Workspace.Evolution

/-!
# The chronicle of a workspace

Whatever a user does continues the chronicle of their workspace, and hands out no object but those
that were made (`Workspace.Does.chronicle`). So every workspace that a fresh one evolves into has a
chronicle, and all objects that are live in it were made (`Workspace.Evolves.tells`).
-/

namespace ScriptClass

open Event

namespace Store

variable {s s' : Store} {es told : List Event} {xs : List Holding}

/-! ## Requests -/

theorem quiet_load (s : Store) (config : Config) (unit : Nat) (plan : ClassPlan)
    (script : WrapperPlan) : s.Quiet (s.load config unit plan script).2 script.holdings := by
  have hstep := Step.load s config unit plan script
  rcases h : s.load config unit plan script with ⟨e | l, s'⟩ <;> rw [h] at hstep
  · obtain ⟨registry, rfl⟩ := load_error h
    exact hstep.quiet { Grows.refl s script.holdings with } rfl rfl
  · obtain ⟨-, -, c, registry, files, rfl, rfl, -, -, hunbound⟩ := load_store h
    have hwrappers : Adds (fun c => c.plan.holdings) c.plan.holdings s.wrappers
        (s.wrappers.push c) := .push fun _ hx => hx
    refine hstep.quiet { Grows.refl s c.plan.holdings with
      wrappers := hwrappers
      declarations := Nat.le_succ _ } rfl ?_
    funext i
    simp only [isBound, Array.getElem?_push]
    split
    next hi => simp [hi, hunbound]
    next => rfl

theorem quiet_register (s : Store) (t : HostType) : s.Quiet (s.register t).2 [] := by
  have hstep := Step.register s t
  unfold Store.register at hstep ⊢
  split at hstep
  · exact hstep.quiet { Grows.refl s [] with } rfl rfl
  · exact hstep.quiet (Grows.refl s []).toFills rfl rfl

theorem quiet_unload (s : Store) (held : List Holding.Key) : s.Quiet (s.unload held) [] := by
  refine (Step.unload s held).quiet (fills_unload s held) rfl ?_
  funext i
  rw [isBound, unload, Array.getElem?_map, Option.any_map]
  rfl

namespace Chronicle

theorem load (h : s.Chronicle es) (config : Config) (unit : Nat) (plan : ClassPlan)
    {script : WrapperPlan} (hscript : InUse (Known es) script.holdings) :
    (s.load config unit plan script).2.Chronicle es :=
  h.quiet (quiet_load s config unit plan script) hscript

theorem newFacet (h : s.Chronicle es) (t : HostType) (w : WrapperRef) :
    (s.newFacet t w).2.Chronicle es :=
  h.quiet ((Step.facet s t w).quiet (grows_facet s t w).toFills rfl rfl) (.nil _)

theorem roots (h : s.Chronicle es) (roots : List Holding) : Store.Chronicle es { s with roots } :=
  h.quiet ((Step.roots s roots).quiet (grows_roots s roots).toFills rfl rfl) (.nil _)

/-- A request that is granted binds the static facet that it gives, and no request does anything
else to objects. -/
theorem generate (h : s.Chronicle es) (config : Config) {r : ClassRequest}
    (hr : InUse (Known es) r.holdings) : ∃ es', (s.generate config r).2.Chronicle (es ++ es') ∧
      ∀ f, (s.generate config r).1 = .ok f → es' = [.bound f.wrapper f] := by
  have hrefused {s' : Store} {e : RequestError} (h : s'.Chronicle es) : ∃ es',
      s'.Chronicle (es ++ es') ∧ ∀ f, (Except.error e : Except RequestError StaticFacet) = .ok f →
        es' = [.bound f.wrapper f] :=
    ⟨[], by rwa [List.append_nil], nofun⟩
  have h₀ : Store.Chronicle es { s with generations := s.generations + 1 } :=
    h.quiet ((Step.request s).quiet (grows_request s _).toFills rfl rfl) (.nil _)
  simp only [Store.generate]
  split
  · exact hrefused h₀
  next ms hcollect =>
    have hscript : InUse (Known es) (ClassPair.ofMembers
        (config.nameFor r.name (s.generations + 1)) (r.base.getD s.registry.object) r.interfaces
        ms).script.holdings := by
      intro x hx
      refine hr x ?_
      rcases WrapperPlan.holdings_ofMembers (ClassRequest.collect_ok hcollect) hx with hx | hx <;>
        simp [ClassRequest.holdings, hx]
    have hload := h₀.load config (s.generations + 1).toNat (ClassPair.ofMembers
      (config.nameFor r.name (s.generations + 1)) (r.base.getD s.registry.object) r.interfaces
      ms).host hscript
    split
    next heq =>
      rw [heq] at hload
      exact hrefused hload
    next l s₁ heq =>
      rw [heq] at hload
      split
      · exact hrefused (hload.newFacet l.backing l.wrapper)
      next s₂ hbind =>
        refine ⟨_, (hload.newFacet l.backing l.wrapper).bound hbind, fun f hf => ?_⟩
        cases hf
        rfl

end Chronicle

end Store

namespace Workspace

open Store

variable {W W' : Workspace} {es : List Event} {out : List Holding}

/-- The workspace has the chronicle, and all objects that are live in it were made. -/
structure Tells (W : Workspace) (es : List Event) : Prop where
  chronicle : W.store.Chronicle es
  live : ∀ x, W.Live x → x ∈ Known es

/-- What is reached from objects that were made are such objects. -/
theorem known_of_reaches {s : Store} {roots : List Holding} {x : Holding} (h : s.Chronicle es)
    (hroots : InUse (Known es) roots) (hx : s.Reaches roots x) : x ∈ Known es := by
  obtain ⟨r, hr, hpath⟩ := hx
  induction hpath with
  | refl => exact hroots r hr
  | tail _ hstep ih => exact h.closed hstep

/-- Only of objects it matters whether they were made. -/
theorem inUse_known_of_no_pair {xs : List Holding} (h : ∀ p, .pair p ∉ xs) : InUse (Known es) xs := by
  rintro x hx p rfl
  exact absurd hx (h p)

theorem known_registryRoots (s : Store) (es : List Event) : InUse (Known es) s.registryRoots := by
  intro x hx p hp
  rcases mem_registryRoots.mp hx with rfl | rfl | ⟨n, t, -, rfl⟩ <;> cases hp

/-- A workspace tells what its store does if its handles hold no other objects. -/
theorem Tells.of_handles (h : W.store.Chronicle es)
    (hhandles : ∀ e ∈ W.handles, InUse (Known es) e.2.holdings) : W.Tells es where
  chronicle := h
  live x hx := by
    refine known_of_reaches h (InUse.append (fun x hx => ?_) (known_registryRoots W.store es)) hx
    obtain ⟨e, he, hx⟩ := List.mem_flatMap.mp hx
    exact hhandles e he x hx

theorem tells_fresh (config : Config) (writable : Bool) (stateName : String) :
    (fresh config writable stateName).Tells [] :=
  .of_handles (.fresh writable stateName) nofun

/-- An operation continues the chronicle and hands out only objects that were made. -/
theorem Tells.run_chronicle (h : W.Tells es) {op : Operation} (hop : ∀ x ∈ op.holdings, W.Live x)
    (fuel : Nat) : ∃ es', (W.run (op.part fuel)).2.store.Chronicle (es ++ es') ∧
      ∀ out, (W.run (op.part fuel)).1 = .ok out → InUse (Known (es ++ es')) out := by
  have hkeeps := Operation.keeps_part (.chronicle es) fuel (fun x hx => h.live x (hop x hx))
    fun _ _ => trivial
  obtain ⟨es', hes, hout⟩ :=
    hkeeps.chronicle (h.chronicle.roots (W.handles.flatMap (·.2.holdings)))
  exact ⟨es', hes.roots [], hout⟩

/-- What a user does continues the chronicle and hands out only objects that were made. -/
theorem Does.chronicle (h : W.Does out W') (hW : W.Tells es) :
    ∃ es', W'.store.Chronicle (es ++ es') ∧ InUse (Known (es ++ es')) out := by
  have hquiet {s : Store} {xs out : List Holding} (hstep : W.store.Quiet s xs)
      (hxs : ∀ x ∈ xs, W.Live x) (hout : ∀ p, .pair p ∉ out) :
      ∃ es', s.Chronicle (es ++ es') ∧ InUse (Known (es ++ es')) out := by
    refine ⟨[], ?_, inUse_known_of_no_pair hout⟩
    rw [List.append_nil]
    exact hW.chronicle.quiet hstep fun x hx => hW.live x (hxs x hx)
  cases h with
  | rest => exact hquiet (.refl _ []) nofun nofun
  | perform op fuel h =>
    obtain ⟨es', hes, hout⟩ := hW.run_chronicle h fuel
    refine ⟨es', hes, fun x hx => ?_⟩
    rcases hrun : (W.run (op.part fuel)).1 with e | xs
    · rw [hrun] at hx
      cases hx
    · rw [hrun] at hx
      exact hout xs hrun x hx
  | extend r h =>
    obtain ⟨es', hes, -⟩ := hW.chronicle.generate W.config fun x hx => hW.live x (h x hx)
    refine ⟨es', hes, inUse_known_of_no_pair fun p hp => ?_⟩
    obtain ⟨f, -, hf⟩ := List.mem_map.mp hp
    cases hf
  | load unit plan script hsuper hinterfaces hscript =>
    refine hquiet (quiet_load W.store W.config unit plan script) hscript fun p hp => ?_
    obtain ⟨l, -, hl⟩ := List.mem_map.mp hp
    cases hl
  | @bind w f s hf h => exact ⟨[.bound w f], hW.chronicle.bound h, nofun⟩
  | type own superclass interfaces hown h =>
    let make (id : Nat) : HostType := .mk { own with id } superclass interfaces
    exact hquiet ((Step.type W.store make).quiet (grows_type W.store make).toFills rfl rfl) nofun
      (by simp)
  | register t h hplain =>
    exact hquiet (quiet_register W.store t) nofun nofun
  | native code h =>
    exact hquiet ((Step.native W.store code).quiet (grows_native W.store code).toFills rfl rfl) h nofun
  | function code name arity h =>
    exact hquiet ((Step.function W.store code name arity).quiet
      (grows_function W.store code name arity).toFills rfl rfl) h (by simp)
  | literal entries h =>
    exact hquiet ((Step.literal W.store entries).quiet (grows_literal W.store entries).toFills rfl rfl)
      h (by simp)
  | contexts contexts guards frames =>
    exact hquiet ((Step.contexts W.store contexts).quiet
      (grows_contexts W.store contexts).toFills rfl rfl) nofun nofun

/-- A step continues the chronicle. -/
theorem Next.tells (h : W.Next W') (hW : W.Tells es) : ∃ es', W'.Tells (es ++ es') := by
  cases h with
  | @intro out W' hdoes handles hkept =>
    obtain ⟨es', hes, hout⟩ := hdoes.chronicle hW
    have hroots : InUse (Known (es ++ es')) W'.roots := by
      refine InUse.append (fun x hx => ?_) (known_registryRoots W'.store _)
      obtain ⟨e, he, hx⟩ := List.mem_flatMap.mp hx
      rw [hdoes.handles] at he
      exact known_append es' (hW.live x (live_of_mem_handles he hx))
    have hbefore : Tells { W' with handles } (es ++ es') := .of_handles hes fun e he x hx =>
      known_of_reaches hes (hout.append hroots) (hkept e he x hx)
    refine ⟨es', hes.quiet (quiet_unload _ _) (.nil _), fun x hx => hbefore.live x ?_⟩
    rwa [live_settle] at hx

/-- Every workspace has a chronicle, and all objects that are live in it were made. -/
theorem Evolves.tells (h : Evolves W W') (hW : W.Tells es) : ∃ es', W'.Tells (es ++ es') := by
  induction h with
  | refl => exact ⟨[], by rwa [List.append_nil]⟩
  | tail _ hstep ih =>
    obtain ⟨es₁, h₁⟩ := ih
    obtain ⟨es₂, h₂⟩ := hstep.tells h₁
    exact ⟨es₁ ++ es₂, by rwa [← List.append_assoc]⟩

end Workspace

end ScriptClass
