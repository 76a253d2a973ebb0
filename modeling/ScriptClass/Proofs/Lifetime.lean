import ScriptClass.Proofs.Workspace.Evolution

/-!
# How long generated types live

A generated type is loaded exactly while some handle keeps it, if nothing that is stored
holds on to types (`Store.Detached`). A handle keeps the types of the objects and static
facets that it holds, and what these inherit from (`Handle.Keeps`).

The chain of reasons is short. What is loaded is what is live (`Workspace.Sound`). In a
detached store only types, objects and static facets lead to types, and to no others than
those that their own type inherits from (`Detached.inherits_of_reaches`). The registry keeps
host types, which inherit from no generated one (`Store.Lists.registryRoots`). So a path to
a generated type begins with a handle.
-/

namespace ScriptClass

namespace Holding

/-- The type that the thing is, or is of. -/
def type? : Holding → Option HostType
  | .type t => some t
  | .pair p => some p.type
  | .facet f => some f.backing
  | _ => none

/-- The wrapper class that the thing goes through to its script side. -/
def wrapper? : Holding → Option WrapperRef
  | .type t => t.wrapper?
  | .pair p => some p.wrapper
  | .facet f => some f.wrapper
  | _ => none

end Holding

namespace Handle

/-- Something that the handle holds is of the type or of one that inherits from it. -/
def Keeps (h : Handle) (t : HostType) : Prop :=
  ∃ x ∈ h.holdings, ∃ u, x.type? = some u ∧ u.Inherits t

/-- Wrapper classes, functions and weak handles. -/
def IsLoose : Handle → Prop
  | .wrapper _ => True
  | .weak _ => True
  | .script (.function _) => True
  | _ => False

theorem IsLoose.not_keeps {h : Handle} (hloose : h.IsLoose) (t : HostType) : ¬ h.Keeps t := by
  rintro ⟨x, hx, u, hu, -⟩
  match h, hloose with
  | .wrapper w, _ =>
    cases List.mem_singleton.mp hx
    cases hu
  | .weak t', _ => cases hx
  | .script (.function f), _ =>
    cases List.mem_singleton.mp hx
    cases hu

end Handle

namespace Store

/-- No value that is stored and no code holds on to a type, to an object of one or to a
static facet. -/
structure Detached (s : Store) : Prop where
  natives : ∀ code ∈ s.natives, ∀ x ∈ code.holdings, x.type? = none
  functions : ∀ code ∈ s.functions, ∀ x ∈ code.holdings, x.type? = none
  literals : ∀ entries ∈ s.literals, ∀ x ∈ Entries.holdings entries, x.type? = none
  pairs : ∀ state ∈ s.pairs, ∀ x ∈ state.properties.holdings, x.type? = none
  wrappers : ∀ c ∈ s.wrappers, ∀ x ∈ c.plan.holdings, x.type? = none

variable {s : Store} {roots : List Holding} {h x : Holding} {t : HostType}

namespace Detached

/-- What leads to the type of something is of that type or of one that inherits from it. -/
theorem inherits_of_holds (hs : s.Detached) (hstep : s.Holds h x) (hx : x.type? = some t) :
    ∃ u, h.type? = some u ∧ u.Inherits t := by
  have hnone (hnone : x.type? = none) : ∃ u, h.type? = some u ∧ u.Inherits t := by
    rw [hnone] at hx
    cases hx
  cases h with
  | type u =>
    rcases mem_heldByType.mp hstep with ⟨v, hv, rfl⟩ | ⟨w, -, rfl⟩ | ⟨m, -, id, code, -, hcode, hmem⟩
    · cases hx
      exact ⟨u, rfl, .single hv⟩
    · exact hnone rfl
    · exact hnone (hs.natives code (Array.mem_of_getElem? hcode) x hmem)
  | wrapper w =>
    obtain ⟨c, hc, hmem⟩ := (held_wrapper w).mp hstep
    exact hnone (hs.wrappers c (Array.mem_of_getElem? hc) x hmem)
  | pair p =>
    rcases (held_pair p).mp hstep with rfl | rfl | ⟨state, hstate, hmem⟩
    · cases hx
      exact ⟨p.type, rfl, .refl⟩
    · exact hnone rfl
    · exact hnone (hs.pairs state (Array.mem_of_getElem? hstate) x hmem)
  | facet f =>
    rcases List.mem_cons.mp hstep with rfl | hmem
    · cases hx
      exact ⟨f.backing, rfl, .refl⟩
    · cases List.mem_singleton.mp hmem
      exact hnone rfl
  | literal id =>
    obtain ⟨entries, hentries, hmem⟩ := (held_literal id).mp hstep
    exact hnone (hs.literals entries (Array.mem_of_getElem? hentries) x hmem)
  | function id =>
    obtain ⟨code, hcode, hmem⟩ := (held_function id).mp hstep
    exact hnone (hs.functions code (Array.mem_of_getElem? hcode) x hmem)

theorem inherits_of_reaches (hs : s.Detached) (hreach : s.Reaches roots x)
    (hx : x.type? = some t) : ∃ r ∈ roots, ∃ u, r.type? = some u ∧ u.Inherits t := by
  obtain ⟨r, hr, hpath⟩ := hreach
  refine ⟨r, hr, ?_⟩
  induction hpath generalizing t with
  | refl => exact ⟨t, hx, .refl⟩
  | tail _ hstep ih =>
    obtain ⟨u, hu, hinherits⟩ := hs.inherits_of_holds hstep hx
    obtain ⟨v, hv, hinherits'⟩ := ih hu
    exact ⟨v, hv, hinherits'.trans hinherits⟩

end Detached

/-- What a thing's type inherits from is reached with the thing. -/
theorem Reaches.inherits {u : HostType} (hreach : s.Reaches roots x) (hx : x.type? = some u)
    (h : u.Inherits t) : s.Reaches roots (.type t) := by
  have htype : s.Reaches roots (.type u) := by
    cases x with
    | type v =>
      cases hx
      exact hreach
    | pair p =>
      cases hx
      exact hreach.held ((held_pair p).mpr (.inl rfl))
    | facet f =>
      cases hx
      exact hreach.held List.mem_cons_self
    | _ => cases hx
  induction h with
  | refl => exact htype
  | tail _ hstep ih => exact ih.held (mem_heldByType.mpr (.inl ⟨_, hstep, rfl⟩))

end Store

theorem generate_name {s s' : Store} {config : Config} {r : ClassRequest} {f : StaticFacet}
    (h : s.generate config r = (.ok f, s')) :
    f.backing.name = config.nameFor r.name (s.generations + 1) := by
  simp only [Store.generate] at h
  split at h
  · cases h
  · split at h
    · cases h
    next l s₁ hload =>
      split at h <;> cases h
      rw [(Store.load_ok hload).backing]
      rfl

namespace Workspace

variable {W : Workspace}

/-- A generated type is live exactly while a handle keeps it. -/
theorem Sound.live_iff (hs : W.Sound) (hdetached : W.store.Detached) {t : HostType}
    (ht : t.IsGenerated) : W.Live (.type t) ↔ ∃ e ∈ W.handles, e.2.Keeps t := by
  constructor
  · intro hlive
    obtain ⟨r, hr, u, hu, hinherits⟩ := hdetached.inherits_of_reaches hlive rfl
    rcases List.mem_append.mp hr with hr | hr
    · obtain ⟨e, he, hr⟩ := List.mem_flatMap.mp hr
      exact ⟨e, he, r, hr, u, hu, hinherits⟩
    · -- the registry keeps plain host types only
      obtain ⟨v, rfl, -, hplain⟩ := hs.lists.registryRoots hr
      cases hu
      exact absurd ht (hplain t hinherits)
  · rintro ⟨e, he, x, hx, u, hu, hinherits⟩
    exact Store.Reaches.inherits (live_of_mem_handles he hx) hu hinherits

theorem Sound.lookup_iff (hs : W.Sound) (hdetached : W.store.Detached) (n : String)
    (t : HostType) : W.store.registry.lookup n = some t ∧ t.IsGenerated ↔
      t.IsGenerated ∧ t.name = n ∧ ∃ e ∈ W.handles, e.2.Keeps t := by
  rw [hs.lists.lookup_iff]
  constructor
  · rintro ⟨hlive, ht, hname⟩
    exact ⟨ht, hname, (hs.live_iff hdetached ht).mp hlive⟩
  · rintro ⟨ht, hname, hkept⟩
    exact ⟨(hs.live_iff hdetached ht).mpr hkept, ht, hname⟩

/-- What is live houses the wrapper class that it goes through. -/
theorem Sound.housed (hs : W.Sound) {x : Holding} {w : WrapperRef} (hx : W.Live x)
    (hw : x.wrapper? = some w) : Housed {x | W.Live x} w := by
  cases x with
  | type t => exact ⟨t, hx, hw⟩
  | pair p =>
    cases hw
    exact Store.Sound.housed_pair hs hx
  | facet f =>
    cases hw
    exact Store.Sound.housed_facet hs hx
  | _ => cases hw

/-- The user has all that the operation is given, and reaches the wrapper class that it
names through something live. -/
def Offers (W : Workspace) (op : Operation) : Prop :=
  (∀ x ∈ op.holdings, W.Live x) ∧
    ∀ w, op.wrapper? = some w → ∃ x, W.Live x ∧ x.wrapper? = some w

theorem Sound.not_unloaded (hs : W.Sound) {op : Operation} (hop : W.Offers op) (fuel : Nat)
    (name : String) : (W.run (op.part fuel)).1 ≠ .error (.failed (.unloaded name)) := by
  obtain ⟨hgiven, hnamed⟩ := hop
  have hhoused : ∀ w, op.wrapper? = some w → Housed {x | W.Live x} w := by
    intro w hw
    obtain ⟨x, hx, hxw⟩ := hnamed w hw
    exact hs.housed hx hxw
  have hroots := Store.Sound.grow hs
    (Store.grows_roots W.store (W.handles.flatMap (·.2.holdings))) (.nil _)
  obtain ⟨-, -, -, -, herror⟩ := Operation.keeps_part .loaded fuel hgiven hhoused _ hroots
  intro hname
  cases herror _ hname

end Workspace

/-- In a workspace where nothing that is stored holds on to types, however it came about: a
name leads to a generated type exactly while some handle keeps the type, by holding it, an
object or static facet of it, or one of what inherits from it. Wrapper classes, functions
and weak handles are none of these. Once no handle keeps the type a request or a load of the
name succeeds, if no host type has the name and nothing else is wrong with it. No operation
on what is live finds a class unloaded. -/
theorem generated_types_live_while_kept {config : Config} {writable : Bool} {stateName : String}
    {W : Workspace} (hW : Workspace.Evolves (.fresh config writable stateName) W)
    (hdetached : W.store.Detached) :
    (∀ n t, W.store.registry.lookup n = some t ∧ t.IsGenerated ↔
      t.IsGenerated ∧ t.name = n ∧ ∃ e ∈ W.handles, e.2.Keeps t) ∧
    (∀ n t, W.store.registry.lookup n = some t → t.IsGenerated →
      ∃ e ∈ W.handles, ¬ e.2.IsLoose ∧ e.2.Keeps t) ∧
    (∀ n, (∀ t, W.store.registry.lookup n = some t → t.IsGenerated) →
      (∀ e ∈ W.handles, ∀ t, e.2.Keeps t → t.IsGenerated → t.name ≠ n) →
      (∀ r : ClassRequest, W.config.nameFor r.name (W.store.generations + 1) = n →
        (r.base.getD W.store.registry.object).Extensible → (∀ i ∈ r.interfaces, i.Implementable) →
        (∃ ms, Members.collect r.instances r.statics = .ok ms) →
          ∃ f s, W.store.generate W.config r = (.ok f, s) ∧ f.backing.name = n) ∧
      ∀ unit plan script, plan.name = n →
        (∀ id w, Registry.WellFormed (plan.toHostType id w)) →
          ∃ l s, W.store.load W.config unit plan script = (.ok l, s) ∧ l.backing.name = n) ∧
    ∀ op fuel name, W.Offers op →
      (W.run (op.part fuel)).1 ≠ .error (.failed (.unloaded name)) := by
  have hs : W.Sound := hW.sound (Workspace.sound_fresh config writable stateName)
  have hlookup := hs.lookup_iff hdetached
  refine ⟨hlookup, fun n t ht hgen => ?_, fun n hhost hdropped => ?_,
    fun op fuel name hop => hs.not_unloaded hop fuel name⟩
  · obtain ⟨-, -, e, he, hkeeps⟩ := (hlookup n t).mp ⟨ht, hgen⟩
    exact ⟨e, he, fun hloose => hloose.not_keeps t hkeeps, hkeeps⟩
  · have hfree : W.store.registry.lookup n = none := by
      rw [Option.eq_none_iff_forall_ne_some]
      intro t ht
      obtain ⟨hgen, hname, e, he, hkeeps⟩ := (hlookup n t).mp ⟨ht, hhost t ht⟩
      exact hdropped e he t hkeeps hgen hname
    constructor
    · rintro r rfl hbase hinterfaces hcollect
      obtain ⟨hinstances, hstatics⟩ := Members.collect_succeeds_iff.mp hcollect
      obtain ⟨f, s, hgenerate⟩ := generate_of_acceptable
        ⟨hbase, hinterfaces, hfree, hinstances, hstatics⟩
      exact ⟨f, s, hgenerate, generate_name hgenerate⟩
    · rintro unit plan script rfl hplan
      obtain ⟨l, s, hload⟩ := Store.load_succeeds W.config unit script hplan hfree
      refine ⟨l, s, hload, ?_⟩
      rw [(Store.load_ok hload).backing]
      rfl

namespace Temp

def request : ClassRequest where
  name := some "Temp"

def start : Workspace := .fresh {} true "Counter"

def handles : List (String × Handle) :=
  (start.store.generate start.config request).1.toOption.toList.map fun f => ("temp", .facet f)

/-- A class is requested, and its static facet is kept. -/
def kept : Workspace := Workspace.settle
  { start with store := (start.store.generate start.config request).2, handles }

/-- Then the facet is dropped. -/
def dropped : Workspace := Workspace.settle { kept with handles := [] }

theorem evolves_kept : Workspace.Evolves start kept := by
  refine .single (.intro (.extend request fun x hx => ?_) handles fun e he x hx => ?_)
  · cases hx
  · obtain ⟨f, hf, rfl⟩ := List.mem_map.mp he
    cases List.mem_singleton.mp hx
    exact .root (List.mem_append_left _ (List.mem_map.mpr ⟨f, hf, rfl⟩))

theorem evolves_dropped : Workspace.Evolves start dropped :=
  .tail evolves_kept (.intro .rest [] fun e he => by cases he)

theorem detached_kept : kept.store.Detached := by
  refine ⟨?_, ?_, ?_, ?_, ?_⟩ <;> decide +kernel

theorem detached_dropped : dropped.store.Detached := by
  refine ⟨?_, ?_, ?_, ?_, ?_⟩ <;> decide +kernel

theorem granted : ∃ f s, start.store.generate start.config request = (.ok f, s) := by
  refine generate_of_acceptable ⟨⟨rfl, rfl, rfl, rfl⟩, fun i hi => ?_, ?_, ⟨_, rfl⟩, _, rfl⟩
  · cases hi
  exact Option.isNone_iff_eq_none.mp (by decide +kernel)

end Temp

open Temp in
theorem temp_lives_while_kept : ∃ t, t.IsGenerated ∧
    kept.store.registry.lookup "hostbridge/generated/Temp" = some t ∧
      dropped.store.registry.lookup "hostbridge/generated/Temp" = none ∧
        ∃ f s, dropped.store.generate dropped.config request = (.ok f, s) ∧
          f.backing.name = "hostbridge/generated/Temp" := by
  obtain ⟨hlive, -⟩ := generated_types_live_while_kept evolves_kept detached_kept
  obtain ⟨-, -, hagain, -⟩ := generated_types_live_while_kept evolves_dropped detached_dropped
  obtain ⟨f, s, hgenerate⟩ := granted
  obtain ⟨ms, hms, -⟩ := generate_ok hgenerate
  obtain ⟨name, id, hbacking⟩ := generate_backing hgenerate hms
  have hgenerated : f.backing.IsGenerated := by
    rw [hbacking]
    exact ⟨f.wrapper, rfl⟩
  have hkept : kept.handles = [("temp", .facet f)] := by
    simp only [kept, Workspace.settle, handles, hgenerate]
    rfl
  have hlookup := (hlive _ f.backing).mpr ⟨hgenerated, generate_name hgenerate, _,
    hkept ▸ List.mem_cons_self, _, List.mem_cons_self, f.backing, rfl, .refl⟩
  have hfree : dropped.store.registry.lookup "hostbridge/generated/Temp" = none :=
    Option.isNone_iff_eq_none.mp (by decide +kernel)
  obtain ⟨hrequest, -⟩ := hagain "hostbridge/generated/Temp" (by simp [hfree])
    fun e he => by cases he
  exact ⟨f.backing, hgenerated, hlookup.1, hfree,
    hrequest request rfl ⟨rfl, rfl, rfl, rfl⟩ (fun i hi => by cases hi) ⟨_, rfl⟩⟩

end ScriptClass
