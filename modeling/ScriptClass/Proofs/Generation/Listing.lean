import ScriptClass.Generation.Request
import ScriptClass.Proofs.Generation.MemberIds
import ScriptClass.Proofs.Store.History
import ScriptClass.Proofs.Store.Unlisted

/-!
# Requests and their listings

Rendering a listing looks up the member of each handler and always finds it, and its ids do not
overflow (`WrapperPlan.renders_ofMembers`). Whether a listing is made, and whether it can be written,
makes no difference to a load or a request but for the listing itself (`Store.load_unlisted`,
`Store.generate_unlisted`). What is left of it is a digest and a path in the record of the load unit,
and the file (`Store.load_listed`, `Store.generate_listed`).
-/

namespace ScriptClass

/-! ## Rendering -/

/-- What the listing says about a handler, if the member that it names is there. -/
def WrapperPlan.handlerText? (p : WrapperPlan) : Handler → Option String
  | .default => some "default"
  | .constructor =>
    some ((p.constructor.map fun m => "constructor " ++ m.key).getD "constructor (default)")
  | .member facet index => (p.members facet)[index]?.map fun m => facet.display ++ " " ++ m.key

/-- No line of the listing names a member that is not there. -/
theorem WrapperPlan.handlerText?_of_mem (name : String) (ms : Members) {line : MemberId × Handler}
    (hline : line ∈ (ofMembers name ms).handlers.toList) :
    (ofMembers name ms).handlerText? line.2 = some ((ofMembers name ms).handlerText line.2) := by
  obtain ⟨⟨handler, place⟩, hmem, rfl⟩ := List.mem_map.mp hline
  have hbounds := inBounds_of_mem name (List.fst_mem_of_mem_zipIdx hmem)
  cases handler with
  | default => rfl
  | constructor =>
    simp only [handlerText?, handlerText, memberOf?]
    cases (ofMembers name ms).constructor <;> rfl
  | member facet index =>
    have hlt := hbounds facet index rfl
    simp only [handlerText?, handlerText, memberOf?, List.getElem?_eq_getElem hlt, Option.map_some]

/-- The listing can be rendered: every lookup finds its member, and where the number of handlers has
32 bits, as an index has, so have the ids. -/
structure WrapperPlan.Renders (p : WrapperPlan) : Prop where
  handler {line : MemberId × Handler} : line ∈ p.handlers.toList →
    p.handlerText? line.2 = some (p.handlerText line.2)
  ids : p.handlers.size < 2 ^ 31 → ∀ place < p.handlers.size,
    (p.handlers.idAt place).value.toInt = p.handlers.firstId.value.toInt + place
  lastId : p.handlers.size < 2 ^ 31 →
    p.handlers.lastId.value.toInt = p.handlers.firstId.value.toInt + p.handlers.size - 1

theorem WrapperPlan.renders_ofMembers (name : String) (ms : Members) :
    (ofMembers name ms).Renders where
  handler := handlerText?_of_mem name ms
  ids hsize _ := HandlerTable.toInt_idAt hsize
  lastId := HandlerTable.toInt_lastId

/-! ## Loading -/

/-- The configuration without what it says of listings. -/
def Config.unlisted (config : Config) : Config :=
  { config with development := false, listingDir := "" }

namespace Store

variable {s s' : Store} {config : Config} {unit : Nat} {plan : ClassPlan} {script : WrapperPlan}
  {l : LoadedClass}

theorem bindBacking_unlisted (s : Store) (w : WrapperRef) (t : HostType) :
    s.unlisted.bindBacking w t = (s.bindBacking w t).map unlisted := by
  simp only [bindBacking, wrapper?_unlisted]
  cases s.wrapper? w with
  | none => rfl
  | some c =>
    dsimp only [Option.map_some, Wrapper.unlisted]
    split
    · rfl
    · exact congrArg Except.ok (s.updateWrapper_unlisted w fun _ => rfl)

theorem bindFacet_unlisted (s : Store) (w : WrapperRef) (f : StaticFacet) :
    s.unlisted.bindFacet w f = (s.bindFacet w f).map unlisted := by
  simp only [bindFacet, wrapper?_unlisted]
  cases s.wrapper? w with
  | none => rfl
  | some c =>
    dsimp only [Option.map_some, Wrapper.unlisted]
    split
    · rfl
    · exact congrArg Except.ok (s.updateWrapper_unlisted w fun _ => rfl)

/-- A static facet is made and bound. -/
theorem bindNewFacet_unlisted (s : Store) (t : HostType) (w : WrapperRef) :
    (s.unlisted.newFacet t w).2.bindFacet w (s.unlisted.newFacet t w).1 =
      ((s.newFacet t w).2.bindFacet w (s.newFacet t w).1).map unlisted :=
  bindFacet_unlisted (s.newFacet t w).2 w (s.newFacet t w).1

theorem writeListing_unlisted (s : Store) (dir file text : String) :
    (s.writeListing dir file text).2.unlisted = s.unlisted := by
  unfold writeListing
  split <;> rfl

/-- Ties the two sides of a class, without a record. -/
def tie (s : Store) (plan : ClassPlan) (script : WrapperPlan) :
    Except (GenerationError × Store) (LoadedClass × Store) :=
  let (w, loaded) := s.newWrapper
    { plan := script, backingName := plan.name, isAbstract := plan.isAbstract }
  let (t, loaded) := loaded.newType fun id => plan.toHostType id w
  match s.registerWeakly t with
  | (.error (.duplicateType name), s) => .error (.nameCollision name, s)
  | (.error e, s) => .error (.registration e, s)
  | (.ok (), s) =>
    match bindBacking { loaded with registry := s.registry } w t with
    | .error e => .error (.registration (.invalidType plan.name (.unbindable e)), s)
    | .ok loaded => .ok (⟨t, w⟩, loaded)

/-- Makes the listing of a class and the record of its load unit. -/
def record (s : Store) (config : Config) (unit : Nat) (plan : ClassPlan) (script : WrapperPlan)
    (w : WrapperRef) : Store :=
  let text := listingText unit plan script
  let (path, s) :=
    if config.development then
      s.writeListing config.listingDir (listingFile plan.superclass.simpleName unit) text
    else (none, s)
  let listingHash := if config.development then some (Hash.XXH64.ofString text) else none
  s.updateWrapper w fun c =>
    { c with unit := some { id := unit, name := plan.name, listingHash, path } }

/-- A class is tied first and recorded then. -/
theorem load_eq (s : Store) (config : Config) (unit : Nat) (plan : ClassPlan)
    (script : WrapperPlan) : s.load config unit plan script =
      match s.tie plan script with
      | .error (e, s) => (.error e, s)
      | .ok (l, s) => (.ok l, s.record config unit plan script l.wrapper) := by
  simp only [load, tie, newWrapper, newType]
  rcases s.registerWeakly (plan.toHostType s.declarations ⟨s.wrappers.size, script.name, plan.name⟩)
    with ⟨e | _, s₀⟩
  · cases e <;> rfl
  · dsimp only
    generalize bindBacking _ _ _ = x
    cases x <;> rfl

theorem tie_unlisted (s : Store) (plan : ClassPlan) (script : WrapperPlan) :
    s.unlisted.tie plan script = match s.tie plan script with
      | .error (e, s) => .error (e, s.unlisted)
      | .ok (l, s) => .ok (l, s.unlisted) := by
  obtain ⟨u, hu⟩ : ∃ u, s.unlisted = u := ⟨_, rfl⟩
  have hsize : u.wrappers.size = s.wrappers.size := hu ▸ Array.size_map
  have hdeclarations : u.declarations = s.declarations := hu ▸ rfl
  have hregister (t : HostType) : u.registerWeakly t =
      ((s.registerWeakly t).1, (s.registerWeakly t).2.unlisted) := hu ▸ rfl
  have hpush {c : Wrapper} (hc : c.unlisted = c) (declarations : Nat) (registry : Registry) :
      { u with declarations, wrappers := u.wrappers.push c, registry } =
        Store.unlisted { s with declarations, wrappers := s.wrappers.push c, registry } := by
    subst hu
    simp only [unlisted, Array.map_push, hc]
  rw [hu]
  simp only [tie, newWrapper, newType, hsize, hdeclarations, hregister]
  rcases s.registerWeakly (plan.toHostType s.declarations ⟨s.wrappers.size, script.name, plan.name⟩)
    with ⟨e | _, s₀⟩
  · cases e <;> rfl
  · have hregistry : s₀.unlisted.registry = s₀.registry := rfl
    dsimp only
    rw [hregistry, hpush rfl, bindBacking_unlisted]
    generalize bindBacking _ _ _ = x
    cases x <;> rfl

theorem record_unlisted (s : Store) (config : Config) (unit : Nat) (plan : ClassPlan)
    (script : WrapperPlan) (w : WrapperRef) : s.unlisted.record config.unlisted unit plan script w =
      (s.record config unit plan script w).unlisted := by
  have hwritten : (if config.development then s.writeListing config.listingDir
      (listingFile plan.superclass.simpleName unit) (listingText unit plan script)
      else (none, s)).2.unlisted = s.unlisted := by
    split
    · exact writeListing_unlisted ..
    · rfl
  simp only [record, Config.unlisted, Bool.false_eq_true, if_false]
  generalize (if config.development then s.writeListing config.listingDir
    (listingFile plan.superclass.simpleName unit) (listingText unit plan script)
    else (none, s)) = r at hwritten ⊢
  rw [← hwritten]
  exact r.2.updateWrapper_unlisted w fun _ => rfl

/-- A load comes to the same without a listing. -/
theorem load_unlisted (s : Store) (config : Config) (unit : Nat) (plan : ClassPlan)
    (script : WrapperPlan) : s.unlisted.load config.unlisted unit plan script =
      ((s.load config unit plan script).1, (s.load config unit plan script).2.unlisted) := by
  rw [load_eq, load_eq, tie_unlisted]
  rcases s.tie plan script with ⟨e, t⟩ | ⟨l, t⟩
  · rfl
  · exact congrArg (fun t => ((.ok l : Except GenerationError LoadedClass), t))
      (t.record_unlisted config unit plan script l.wrapper)

/-- A request comes to the same without a listing. -/
theorem generate_unlisted (s : Store) (config : Config) (r : ClassRequest) :
    s.unlisted.generate config.unlisted r =
      ((s.generate config r).1, (s.generate config r).2.unlisted) := by
  obtain ⟨u, hu⟩ : ∃ u, s.unlisted = u := ⟨_, rfl⟩
  have hrequest (generations : UInt64) :
      { u with generations } = Store.unlisted { s with generations } := hu ▸ rfl
  have hgenerations : u.generations = s.generations := hu ▸ rfl
  have hregistry : u.registry = s.registry := hu ▸ rfl
  have hname : config.unlisted.nameFor = config.nameFor := rfl
  rw [hu]
  simp only [generate, hgenerations, hrequest]
  simp only [hregistry, hname, load_unlisted]
  split
  · rfl
  next ms _ =>
    let plans := ClassPair.ofMembers (config.nameFor r.name (s.generations + 1))
      (r.base.getD s.registry.object) r.interfaces ms
    rcases Store.load { s with generations := s.generations + 1 } config (s.generations + 1).toNat
      plans.host plans.script with ⟨e | l, t⟩
    · rfl
    · dsimp only
      rw [bindNewFacet_unlisted]
      cases (t.newFacet l.backing l.wrapper).2.bindFacet l.wrapper
        (t.newFacet l.backing l.wrapper).1 <;> rfl

/-! ## What is left of a listing -/

/-- The file that a load writes, with its text: none out of development, and none where it cannot be
written. -/
def written? (s : Store) (config : Config) (unit : Nat) (plan : ClassPlan) (script : WrapperPlan) :
    Option (String × String) :=
  let file := listingFile plan.superclass.simpleName unit
  if config.development && (s.writable && isWritableName file) then
    some (if config.listingDir.isEmpty then file else config.listingDir ++ "/" ++ file,
      listingText unit plan script)
  else none

theorem written?_of_writable (hdevelopment : config.development = true)
    (hwritable : s.writable = true)
    (hname : isWritableName (listingFile plan.superclass.simpleName unit) = true) :
    s.written? config unit plan script = some
      (if config.listingDir.isEmpty then listingFile plan.superclass.simpleName unit
        else config.listingDir ++ "/" ++ listingFile plan.superclass.simpleName unit,
      listingText unit plan script) := by
  simp only [written?, hdevelopment, hwritable, hname, Bool.and_self, if_true]

/-- All that is left of the listing of a class: a digest if one was made, and the file if one was
written. Its wrapper class is the newest, and the others tell nothing of it. -/
structure Listed (s : Store) (config : Config) (unit : Nat) (plan : ClassPlan) (script : WrapperPlan)
    (w : WrapperRef) (s' : Store) : Prop where
  newest : w.id = s.wrappers.size
  record : ∃ c, s'.wrappers = s.wrappers.push c ∧ c.unit = some
    { id := unit, name := plan.name
      listingHash :=
        if config.development then some (Hash.XXH64.ofString (listingText unit plan script)) else none
      path := (s.written? config unit plan script).map (·.1) }
  files : s'.files = match s.written? config unit plan script with
    | some file => file :: s.files.filter (·.1 != file.1)
    | none => s.files
  writable : s'.writable = s.writable

theorem writeListing_eq (s : Store) (config : Config) (unit : Nat) (plan : ClassPlan)
    (script : WrapperPlan) :
    (if config.development then
      s.writeListing config.listingDir (listingFile plan.superclass.simpleName unit)
        (listingText unit plan script)
    else (none, s)) = ((s.written? config unit plan script).map (·.1),
      { s with files := match s.written? config unit plan script with
        | some file => file :: s.files.filter (·.1 != file.1)
        | none => s.files }) := by
  unfold written? writeListing
  cases config.development with
  | false => rfl
  | true =>
    simp only [if_true, Bool.true_and]
    split <;> rfl

theorem tie_ok {t : Store} (h : s.tie plan script = .ok (l, t)) : ∃ c registry, t = { s with
    declarations := s.declarations + 1, wrappers := s.wrappers.push c, registry } ∧
      l.wrapper.id = s.wrappers.size := by
  simp only [tie, newWrapper, newType] at h
  split at h
  · cases h
  · cases h
  next s₀ _ =>
    split at h
    · cases h
    next hbind =>
      cases h
      let w : WrapperRef := ⟨s.wrappers.size, script.name, plan.name⟩
      refine ⟨{ plan := script, backingName := plan.name, isAbstract := plan.isAbstract
                hasBacking := true, backing := some (plan.toHostType s.declarations w) },
        s₀.registry, ?_, rfl⟩
      rw [bindBacking_ok hbind, updateWrapper]
      congr 1
      exact modify_push _ _ _

/-- What a load leaves of the listing of its class. -/
theorem load_listed (h : s.load config unit plan script = (.ok l, s')) :
    s.Listed config unit plan script l.wrapper s' := by
  rw [load_eq] at h
  split at h
  · cases h
  next l₀ t htie =>
    obtain ⟨hl, rfl⟩ := Prod.mk.inj h
    cases hl
    obtain ⟨c, registry, rfl, hid⟩ := tie_ok htie
    simp only [record, writeListing_eq, updateWrapper, hid, modify_push]
    exact ⟨hid, ⟨_, rfl, rfl⟩, rfl, rfl⟩

/-- What a request that is granted leaves of the listing of its class. -/
theorem generate_listed {r : ClassRequest} {f : StaticFacet}
    (h : s.generate config r = (.ok f, s')) :
    ∃ ms, r.collect s.registry (r.base.getD s.registry.object)
        (config.nameFor r.name (s.generations + 1)) = .ok ms ∧
      let pair := ClassPair.ofMembers (config.nameFor r.name (s.generations + 1))
        (r.base.getD s.registry.object) r.interfaces ms
      s.Listed config (s.generations + 1).toNat pair.host pair.script f.wrapper s' := by
  simp only [generate] at h
  split at h
  · cases h
  next ms hms =>
    refine ⟨ms, hms, ?_⟩
    split at h
    · cases h
    next l t hload =>
      split at h
      · cases h
      next hbind =>
        cases h
        obtain ⟨hid, ⟨c, hwrappers, hunit⟩, hfiles, hwritable⟩ := load_listed hload
        rw [bindFacet_ok hbind]
        let f := (t.newFacet l.backing l.wrapper).1
        refine ⟨hid, ⟨{ c with isBound := true, facet := some f }, ?_, hunit⟩, hfiles, hwritable⟩
        simp only [updateWrapper, newFacet, hwrappers, hid]
        exact modify_push _ _ _

end Store

end ScriptClass
