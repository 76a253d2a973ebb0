import ScriptClass.Proofs.Generation.MemberNames
import ScriptClass.Proofs.MemberFunction
import ScriptClass.Proofs.Origin

/-!
# The data of objects

Data and callables of a generated class have no names in common (`CollectedFacet.property_apart`),
and an object takes no write of a name that a callable owns (`Members.findId_owned`). So however
objects are written, an object reads the last write of a name or what its class began with, and its
callables are read as ever (`Store.ShowsData`). A write is seen on no other object
(`Store.getProperty_write`).
-/

namespace ScriptClass

open Event

namespace CollectedFacet

variable {ms : CollectedFacet} {facet : Facet} {entries : Option Entries} {m : Member} {n : String}

theorem properties_distinct (h : collect facet entries = .ok ms) :
    (ms.properties.map Prod.fst).Nodup := by
  rw [(mirrors_of_collect h).properties]
  exact (collects_iff_acceptable.mp ⟨ms, h⟩).distinct.sublist (List.filter_sublist.map _)

/-- No callable answers to the name of data, nor does the constructor's name stand for data. -/
theorem property_apart (h : collect facet entries = .ok ms) (hn : n ∈ ms.properties.map Prod.fst) :
    n ≠ constructorName ∧ ∀ m ∈ ms.callables, ¬m.Answers n := by
  have hmirrors := mirrors_of_collect h
  have hacceptable := collects_iff_acceptable.mp ⟨ms, h⟩
  obtain ⟨d, hd, rfl⟩ := List.mem_map.mp hn
  rw [hmirrors.properties] at hd
  obtain ⟨hd, hdata⟩ := List.mem_filter.mp hd
  refine ⟨fun heq => hacceptable.unreserved d hd hdata (.inl heq), fun m hm hanswers => ?_⟩
  have hentry : m.entry ∈ entries.getD [] := by
    have hmem := hmirrors.callables_entry ▸ List.mem_map_of_mem (f := Member.entry) hm
    rcases List.mem_append.mp hmem with hmem | hmem <;> exact (List.mem_filter.mp hmem).1
  rcases hanswers with hkey | hname
  · -- two entries of one key are the same, but a callable is no data
    have hsame : m.entry = d := List.inj_on_of_nodup_map hacceptable.distinct hentry hd hkey
    rw [← hsame] at hdata
    cases hdata
  · exact hacceptable.apart d hd hdata _ hentry m.parsed (hmirrors.key hm) hname.symm

end CollectedFacet

namespace Members

variable {instances statics : Option Entries} {ms : Members} {n : String}

/-- The name is the constructor's, or an instance callable goes by it. -/
def Owns (ms : Members) (n : String) : Prop :=
  n = constructorName ∨ ∃ m ∈ ms.instances.callables, m.Answers n

instance (ms : Members) (n : String) : Decidable (ms.Owns n) := instDecidableOr

/-- A name that is owned leads to the constructor or to a method that goes by it. -/
theorem findId_owned (name : String) (h : collect instances statics = .ok ms) (hn : ms.Owns n) :
    (WrapperPlan.ofMembers name ms).findId .instances n = .constructor ∨
      ∃ i m, ms.instances.methods[i]? = some m ∧ m.Answers n ∧
        (WrapperPlan.ofMembers name ms).findId .instances n = .ofIndex .instances i := by
  by_cases hmethod : ∃ m ∈ ms.methods .instances, m.Answers n
  · obtain ⟨m, hm, hanswers⟩ := hmethod
    obtain ⟨i, m', hi, hanswers', hid⟩ :=
      findId_member name (numbered_of_collect h) hm hanswers.symm
    exact .inr ⟨i, m', hi, hanswers'.symm, hid⟩
  · left
    have hnone : ∀ m ∈ ms.methods .instances, ¬m.Answers n := fun m hm ha => hmethod ⟨m, hm, ha⟩
    have hmirrors := CollectedFacet.mirrors_of_collect (collect_part h .instances)
    have hconstructors : ∀ e ∈ ms.constructorEntries .instances, e.2 = .constructor := by
      simp only [constructorEntries, List.forall_mem_append, List.forall_mem_map,
        List.forall_mem_singleton, Option.mem_toList, and_true]
      exact fun m hm => hmirrors.constructorId hm
    have hwritten : ∃ e ∈ ms.constructorEntries .instances, e.1 = n := by
      have hname : (constructorName, MemberId.constructor) ∈ ms.constructorEntries .instances :=
        List.mem_append_right _ List.mem_cons_self
      rcases hn with rfl | ⟨m, hm, hanswers⟩
      · exact ⟨_, hname, rfl⟩
      · rcases List.mem_append.mp hm with hm | hm
        · exact absurd hanswers (hnone m hm)
        · rcases hanswers with hkey | rfl
          · exact ⟨_, List.mem_append_left _ (List.mem_map_of_mem hm), hkey⟩
          · exact ⟨_, hname, (hmirrors.constructor_name (Option.mem_toList.mp hm)).symm⟩
    rw [findId_unanswered name h hnone]
    cases hfind : (ms.constructorEntries .instances).find? (·.1 == n) with
    | none =>
      obtain ⟨e, he, heq⟩ := hwritten
      exact absurd (beq_iff_eq.mpr heq) (List.find?_eq_none.mp hfind e he)
    | some e => exact hconstructors e (List.mem_of_find?_eq_some hfind)

/-- No id is found for a name that is not owned. -/
theorem findId_unowned (name : String) (h : collect instances statics = .ok ms)
    (hn : ¬ms.Owns n) : (WrapperPlan.ofMembers name ms).findId .instances n = .default := by
  obtain ⟨hname, hcallables⟩ := not_or.mp hn
  refine findId_default name h
    (fun m hm ha => hcallables ⟨m, List.mem_append_left _ hm, ha⟩) hname fun _ hkey => ?_
  rw [constructorKey] at hkey
  cases hconstructor : ms.instances.constructor with
  | none =>
    rw [hconstructor] at hkey
    exact hname hkey
  | some c =>
    rw [hconstructor] at hkey
    exact hcallables ⟨c, List.mem_append_right _ (Option.mem_toList.mpr hconstructor), .inl hkey.symm⟩

/-- An object takes a write exactly if the name is not owned. -/
theorem isDefault_findId (name : String) (h : collect instances statics = .ok ms) (fit : ms.Fit) :
    ((WrapperPlan.ofMembers name ms).findId .instances n).isDefault = true ↔ ¬ms.Owns n := by
  constructor
  · intro hdefault hn
    rcases findId_owned name h hn with hid | ⟨i, m, hi, -, hid⟩
    · rw [hid] at hdefault
      cases hdefault
    · have hlt : i < (ms.methods .instances).length := (List.getElem?_eq_some_iff.mp hi).1
      rw [hid, (ofIndex_isMember fit hlt).1] at hdefault
      cases hdefault
  · intro hn
    rw [findId_unowned name h hn]
    rfl

end Members

namespace Store

variable {s s' : Store} {p q : Pair} {w : WrapperRef} {facet : Facet} {o : ScriptObject}
  {n k : String} {v : ScriptValue}

/-- The data of an object are read first. -/
theorem getProperty_data (h : (s.properties p).get? n = some v) :
    s.getProperty (.pair p) n = (some v, s) := by
  simp only [getProperty, h]

/-- Where the class finds an id, a function for it is made. -/
theorem memberFunction_of_findId {c : Wrapper} (hc : s.wrapper? w = some c)
    (hid : (c.plan.findId facet n).isDefault = false) : ∃ exact, s.memberFunction w facet n =
      (some ⟨s.functions.size, some n, none⟩,
        (s.newFunction (.member w facet n (c.plan.findId facet n) exact) (some n) none).2) := by
  simp only [memberFunction, hc, hid, Bool.false_eq_true, if_false]
  exact ⟨_, rfl⟩

/-- A write leaves the functions of members as they are. -/
theorem memberFunction_write (s : Store) (p : Pair) (n : String) (v : ScriptValue) (w : WrapperRef)
    (facet : Facet) (k : String) :
    ((s.write p n v).memberFunction w facet k).1 = (s.memberFunction w facet k).1 := by
  simp only [memberFunction, show (s.write p n v).wrapper? w = s.wrapper? w from rfl]
  cases s.wrapper? w with
  | none => rfl
  | some c =>
    dsimp only
    split <;> rfl

theorem memberFunction_none (h : s.memberFunction w facet k = (none, s')) : s' = s := by
  unfold memberFunction at h
  split at h
  · exact (Prod.mk.inj h).2.symm
  · dsimp only at h
    split at h
    · exact (Prod.mk.inj h).2.symm
    · cases h

/-- No other object reads a write. -/
theorem getProperty_write (ho : ∀ q, o = .pair q → q.id ≠ p.id) (k : String) :
    ((s.write p n v).getProperty o k).1 = (s.getProperty o k).1 := by
  cases o with
  | plain id => rfl
  | pair q =>
    have hmember := memberFunction_write s p n v q.wrapper .instances k
    simp only [getProperty, properties_write_other (ho q rfl)]
    cases (s.properties q).get? k with
    | some v => rfl
    | none =>
      rcases h : s.memberFunction q.wrapper .instances k with ⟨f | f, t⟩ <;>
        rcases h' : (s.write p n v).memberFunction q.wrapper .instances k with ⟨f' | f', t'⟩ <;>
        rw [h, h'] at hmember <;> cases hmember
      · obtain rfl := memberFunction_none h
        obtain rfl := memberFunction_none h'
        simp only [hostFunction]
        split <;> rfl
      · rfl
  | facet f =>
    have hmember := memberFunction_write s p n v f.wrapper .statics k
    simp only [getProperty, show (s.write p n v).wrapper? f.wrapper = s.wrapper? f.wrapper from rfl]
    cases (s.wrapper? f.wrapper).bind (·.plan.classData? k) with
    | some v => rfl
    | none => exact congrArg (Option.map ScriptValue.function) hmember

theorem keysOf_write (ho : ∀ q, o = .pair q → q.id ≠ p.id) :
    (s.write p n v).keysOf o = s.keysOf o := by
  cases o with
  | plain id => rfl
  | pair q =>
    simp only [keysOf, properties_write_other (ho q rfl)]
    rfl
  | facet f => rfl

/-- What an object of a class with these members shows after these events. -/
structure ShowsData (s : Store) (es : List Event) (ms : Members) (p : Pair) : Prop where
  distinct : ((s.properties p).map Prod.fst).Nodup
  /-- No data go by a name that a callable owns. -/
  apart : ∀ n ∈ (s.properties p).map Prod.fst, ¬ms.Owns n
  keys_distinct : (s.keysOf (.pair p)).Nodup
  readable : ∀ n ∈ s.keysOf (.pair p), (s.getProperty (.pair p) n).1.isSome = true
  /-- Data are read as last written, or as they are in the class. -/
  data {n : String} {v : ScriptValue} :
    (Entries.get? (writes es p).reverse n).or (ms.instances.properties.get? n) = some v →
      s.getProperty (.pair p) n = (some v, s)
  /-- A name that is owned is read as a function for the constructor or for a method that goes
  by it. -/
  member {n : String} : ms.Owns n → ∃ f s' id exact,
    s.getProperty (.pair p) n = (some (.function f), s') ∧
      s'.functions[f.id]? = some (.member p.wrapper .instances n id exact) ∧
      (id = .constructor ∨ ∃ i m, ms.instances.methods[i]? = some m ∧ m.Answers n ∧
        id = .ofIndex .instances i)

end Store

namespace Generated

variable {base : HostType} {interfaces : List HostType} {instances : Option Entries} {ms : Members}
  {l : LoadedClass} {s : Store} {es : List Event} {p : Pair}

theorem collect_instances (h : Generated base interfaces instances ms l s) :
    CollectedFacet.collect .instances instances = .ok ms.instances := by
  obtain ⟨hcollect, -, -, -⟩ := h
  exact (Members.collect_ok hcollect).1

/-- The data of an object of the class. -/
theorem properties_eq (h : Generated base interfaces instances ms l s) (hes : s.Chronicle es)
    (hp : p ∈ objects es) (hw : p.wrapper = l.wrapper) :
    s.properties p = Entries.putAll (writes es p) ms.instances.properties ∧
      ∀ e ∈ writes es p, ¬ms.Owns e.1 := by
  obtain ⟨c, name, statics, hc, hplan, hcollect⟩ := h.plan
  obtain ⟨c', hc', hproperties, hwrites⟩ := hes.shows hp
  rw [hw, hc] at hc'
  cases hc'
  rw [hplan] at hproperties hwrites
  exact ⟨hproperties, fun e he => (Members.isDefault_findId name hcollect h.fit).mp (hwrites e he)⟩

theorem keysOf_eq (h : Generated base interfaces instances ms l s) (hw : p.wrapper = l.wrapper) :
    s.keysOf (.pair p) = (s.properties p).map Prod.fst ++ ms.instances.methods.map Member.key := by
  obtain ⟨c, name, -, hc, hplan, -⟩ := h.plan
  simp only [Store.keysOf, hw, hc, hplan, Option.map_some, Option.getD_some]
  rfl

theorem data_distinct (h : Generated base interfaces instances ms l s) (hes : s.Chronicle es)
    (hp : p ∈ objects es) (hw : p.wrapper = l.wrapper) : ((s.properties p).map Prod.fst).Nodup := by
  rw [(h.properties_eq hes hp hw).1]
  exact Entries.nodup_putAll _ (CollectedFacet.properties_distinct h.collect_instances)

/-- No data go by a name that a callable owns: such data are neither collected nor written. -/
theorem data_apart (h : Generated base interfaces instances ms l s) (hes : s.Chronicle es)
    (hp : p ∈ objects es) (hw : p.wrapper = l.wrapper) {n : String}
    (hn : n ∈ (s.properties p).map Prod.fst) : ¬ms.Owns n := by
  obtain ⟨hproperties, hwrites⟩ := h.properties_eq hes hp hw
  rw [hproperties] at hn
  rcases Entries.mem_keys_putAll.mp hn with hn | hn
  · obtain ⟨e, he, rfl⟩ := List.mem_map.mp hn
    exact hwrites e he
  · obtain ⟨hname, hcallables⟩ := CollectedFacet.property_apart h.collect_instances hn
    exact not_or.mpr ⟨hname, fun ⟨m, hm, ha⟩ => hcallables m hm ha⟩

/-- A name that is owned is read as a function of the class, whatever was written. -/
theorem getProperty_owned (h : Generated base interfaces instances ms l s) (hes : s.Chronicle es)
    (hp : p ∈ objects es) (hw : p.wrapper = l.wrapper) {n : String} (hn : ms.Owns n) :
    ∃ f s' id exact, s.getProperty (.pair p) n = (some (.function f), s') ∧
      s'.functions[f.id]? = some (.member p.wrapper .instances n id exact) ∧
      (id = .constructor ∨ ∃ i m, ms.instances.methods[i]? = some m ∧ m.Answers n ∧
        id = .ofIndex .instances i) := by
  obtain ⟨c, name, statics, hc, hplan, hcollect⟩ := h.plan
  have hnone : (s.properties p).get? n = none := by
    rw [← Option.not_isSome_iff_eq_none, Entries.isSome_get?]
    exact fun hmem => h.data_apart hes hp hw hmem hn
  have hid : (c.plan.findId .instances n).isDefault = false := by
    rw [hplan, Bool.eq_false_iff, Ne, Members.isDefault_findId name hcollect h.fit, not_not]
    exact hn
  obtain ⟨exact, hfunction⟩ := Store.memberFunction_of_findId (w := p.wrapper) (hw ▸ hc) hid
  refine ⟨⟨s.functions.size, some n, none⟩, (s.newFunction (.member p.wrapper .instances n
    (c.plan.findId .instances n) exact) (some n) none).2, c.plan.findId .instances n, exact, ?_,
    Array.getElem?_push_size, ?_⟩
  · simp only [Store.getProperty, hnone, hfunction]
  · rw [hplan]
    exact Members.findId_owned name hcollect hn

theorem showsData (h : Generated base interfaces instances ms l s) (hes : s.Chronicle es)
    (hp : p ∈ objects es) (hw : p.wrapper = l.wrapper) : s.ShowsData es ms p := by
  have hdistinct := h.data_distinct hes hp hw
  have howned : ∀ m ∈ ms.instances.methods, ms.Owns m.key :=
    fun m hm => .inr ⟨m, List.mem_append_left _ hm, .inl rfl⟩
  refine ⟨hdistinct, fun n hn => h.data_apart hes hp hw hn, ?_, fun n hn => ?_, fun hv => ?_,
    fun hn => h.getProperty_owned hes hp hw hn⟩
  · have hmethods := CollectedFacet.keys_distinct h.collect_instances
    rw [h.keysOf_eq hw, List.nodup_append]
    refine ⟨hdistinct, List.pairwise_map.mpr (List.pairwise_append.mp hmethods).1, ?_⟩
    rintro n hn _ hkey rfl
    obtain ⟨m, hm, rfl⟩ := List.mem_map.mp hkey
    exact h.data_apart hes hp hw hn (howned m hm)
  · rw [h.keysOf_eq hw] at hn
    rcases List.mem_append.mp hn with hn | hn
    · obtain ⟨v, hv⟩ := Option.isSome_iff_exists.mp (Entries.isSome_get?.mpr hn)
      rw [Store.getProperty_data hv]
      rfl
    · obtain ⟨m, hm, rfl⟩ := List.mem_map.mp hn
      obtain ⟨f, s', id, exact, hread, -⟩ := h.getProperty_owned hes hp hw (howned m hm)
      rw [hread]
      rfl
  · refine Store.getProperty_data ?_
    rw [(h.properties_eq hes hp hw).1, Entries.get?_putAll]
    exact hv

/-- A write of an object of the class. -/
theorem putProperty_eq (h : Generated base interfaces instances ms l s) (hw : p.wrapper = l.wrapper)
    (n : String) (v : ScriptValue) :
    (ms.Owns n → s.putProperty (.pair p) n v = .error (.readOnlyProperty n)) ∧
      (¬ms.Owns n → s.putProperty (.pair p) n v = .ok (s.write p n v)) := by
  obtain ⟨c, name, statics, hc, hplan, hcollect⟩ := h.plan
  have hdefault := Members.isDefault_findId (n := n) name hcollect h.fit
  rw [Store.putProperty_pair (hw ▸ hc), hplan]
  exact ⟨fun hn => if_neg fun hid => hdefault.mp hid hn, fun hn => if_pos (hdefault.mpr hn)⟩

end Generated

/-- Objects of a generated class show what was last written on them, or what their class began
with, and their callables are always read: no data of theirs go by a name that a callable owns, nor
can such data be written. A write that is refused changes nothing. One that is granted is seen on
the object itself alone, and wrapper classes stay as they are. All that any code does to objects is
to make them and to write them so, from the fresh workspace on, the script constructor's writes on
the new object among them. -/
theorem objects_keep_their_data :
    (∀ (config : Config) (writable : Bool) (stateName : String) (W : Workspace),
      Workspace.Evolves (.fresh config writable stateName) W → ∃ es, W.Tells es) ∧
    (∀ (es : List Event) (fuel : Nat), Run.KeepsAt (.chronicle es) fuel) ∧
    ∀ (base : HostType) (interfaces : List HostType) (instances : Option Entries) (ms : Members)
      (l : LoadedClass) (s : Store) (es : List Event),
      Generated base interfaces instances ms l s → s.Chronicle es →
        ∀ p ∈ objects es, p.wrapper = l.wrapper → s.ShowsData es ms p ∧ ∀ n v,
          (ms.Owns n → (Run.putProperty (.object (.pair p)) n v).run s =
            (.error (.failed (.readOnlyProperty n)), s)) ∧
          (¬ms.Owns n → ∃ s', (Run.putProperty (.object (.pair p)) n v).run s = (.ok (), s') ∧
            Generated base interfaces instances ms l s' ∧
            (InUse (Known es) v.holdings → s'.Chronicle (es ++ [.wrote p n v])) ∧
            s'.wrappers = s.wrappers ∧ ∀ o, o.holding ∈ Known es → o ≠ .pair p →
              (∀ k, (s'.getProperty o k).1 = (s.getProperty o k).1) ∧ s'.keysOf o = s.keysOf o) := by
  refine ⟨fun config writable stateName W hW => ?_, fun es => Run.keeps (.chronicle es), ?_⟩
  · obtain ⟨es, hes⟩ := hW.tells (Workspace.tells_fresh config writable stateName)
    exact ⟨_, hes⟩
  · intro base interfaces instances ms l s es h hes p hp hw
    refine ⟨h.showsData hes hp hw, fun n v => ⟨fun hn => ?_, fun hn => ?_⟩⟩
    · rw [Run.putProperty, Run.ofUpdate, ExceptT.run_mk, (h.putProperty_eq hw n v).1 hn]
    · have hput := (h.putProperty_eq hw n v).2 hn
      refine ⟨s.write p n v, ?_, h.later (.single (.put hput)), fun hv => hes.wrote hp hv hput, rfl,
        fun o ho hne => ?_⟩
      · rw [Run.putProperty, Run.ofUpdate, ExceptT.run_mk, hput]
      · have hother : ∀ q, o = .pair q → q.id ≠ p.id := by
          rintro q rfl hid
          exact hne (congrArg ScriptObject.pair (hes.eq_of_id (pair_mem_known.mp ho) hp hid))
        exact ⟨fun k => Store.getProperty_write hother k, Store.keysOf_write hother⟩

namespace Sample

/-- A store with a function, and a class with it and with data. -/
def runs : Store :=
  (Temp.start.store.newFunction (.expression (.const (.string "ran"))) (some "run") none).2

def box : ClassRequest where
  instances := some [("size", .int 3), ("run", .function ⟨0, some "run", none⟩)]
  name := some "Box"

/-- The members of `box`. -/
def boxMembers : Members where
  instances := ⟨.instances, [("size", .int 3)],
    [⟨"run", ⟨"run", none⟩, ⟨2⟩, ⟨0, some "run", none⟩⟩], none⟩
  statics := .empty .statics

theorem collect_box : Members.collect box.instances box.statics = .ok boxMembers := rfl

theorem chronicle_runs : runs.Chronicle [] := by
  have hstart : Temp.start.store.Chronicle [] := .fresh true "Counter"
  refine hstart.quiet ((Store.Step.function _ _ _ _).quiet
    (Store.grows_function _ _ _ _).toFills rfl rfl) (Workspace.inUse_known_of_no_pair nofun)

end Sample

set_option maxRecDepth 10000 in
open Sample in
/-- A new size is read back, and no write hides the method. -/
theorem box_keeps_its_data : ∃ f s p t u, runs.generate {} box = (.ok f, s) ∧
    (Run.construct 3 0 f.wrapper []).run s = (.ok p, t) ∧
      (Run.putProperty (.object (.pair p)) "size" (.int 5)).run t = (.ok (), u) ∧
      u.getProperty (.pair p) "size" = (some (.int 5), u) ∧
      (Run.putProperty (.object (.pair p)) "run" .null).run u =
        (.error (.failed (.readOnlyProperty "run")), u) := by
  have h : (object runs box).isSome = true := by decide +kernel
  obtain ⟨⟨f, p, t⟩, ho⟩ := Option.isSome_iff_exists.mp h
  have hbox : box.holdings = [.function 0] := rfl
  obtain ⟨s, hgen, hp, hlater, hw, es, ht⟩ :=
    object_chronicle chronicle_runs (fun p hmem => by simp [hbox] at hmem) ho
  obtain ⟨ms, hms, hclass⟩ := generate_ok hgen
  cases hms.symm.trans collect_box
  have hclass := (hclass ⟨by decide, by decide⟩).later hlater
  have hmem : p ∈ objects ([.bound f.wrapper f] ++ [.made p []] ++ es) :=
    mem_objects.mpr ⟨[], by simp⟩
  obtain ⟨-, hput⟩ := objects_keep_their_data.2.2 _ _ _ _ _ _ _ hclass ht p hmem hw
  obtain ⟨u, hu, hclass', hwrote, -⟩ := (hput "size" (.int 5)).2 (by decide)
  obtain ⟨hdata, hagain⟩ := objects_keep_their_data.2.2 _ _ _ _ _ _ _ hclass' (hwrote nofun) p
    (mem_objects.mpr ⟨[], by simp⟩) hw
  refine ⟨f, s, p, t, u, hgen, hp, hu, hdata.data ?_, (hagain "run" .null).1 (by decide)⟩
  rw [writes_snoc, Event.write?, if_pos rfl, Option.toList_some, List.reverse_concat,
    Entries.get?_cons]
  rfl

end ScriptClass
