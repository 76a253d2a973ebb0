import ScriptClass.Proofs.Forwarding
import ScriptClass.Proofs.Generation.Success
import ScriptClass.Proofs.Override.WrittenOrder

/-!
# What the order of members decides

The members of an implementation may be written in any order. Their ids change, but not what
is bound to a candidate nor whether the class is abstract, and a host call of a bound override
calls back the same function (`Generated.callsBack_bind?`).

What nothing is bound to is inherited. There the order shows in one case: a method that is
inherited from a generated class above the base knows its function by a number, and calls back
what is written at that place (`Generated.callsBack_place`). `written_order_moves_forwarded_calls`
says this for two requests that differ in the order of members only, and
`call_depends_on_written_order` is a case where it does show.
-/

namespace ScriptClass

/-- The function that is written at a place, the constructor and data not counted. -/
def Entries.functionAt (entries : Entries) (i : Nat) : Option FunctionRef :=
  ((entries.filter Entry.isMethod)[i]?).bind (·.2.function?)

/-- From a store on, a host call of the signature on an object of the class is one call back of
the function, as long as the arguments fit and there is a context. -/
def StaticFacet.CallsBack (f : StaticFacet) (s : Store) (sig : Signature) (g : FunctionRef) : Prop :=
  ∀ (t : Store) (p : Pair) (args : List HostValue) (fuel context : Nat), s.Later t → p.IsOf f →
    sig.checkFit args = .ok () → t.contexts.active = some context →
      (Run.invoke (fuel + 4) (.pair p) sig args).run t =
        (Run.callBack fuel context g p sig args).run t

theorem CollectedFacet.Mirrors.functionAt {facet : Facet} {entries : Entries} {ms : CollectedFacet}
    (h : Mirrors facet entries ms) (i : Nat) :
    entries.functionAt i = ms.methods[i]?.map Member.function := by
  rw [Entries.functionAt, ← h.methods, List.getElem?_map]
  cases ms.methods[i]? <;> rfl

namespace Generated

variable {base : HostType} {interfaces : List HostType} {instances : Option Entries} {ms : Members}
  {f : StaticFacet} {s : Store} {sig : Signature}

/-- A forwarding method calls back what the class has at its place. -/
theorem callsBack_place (h : Generated base interfaces instances ms f.loaded s) {t : HostType}
    {m : Method} {i : Nat} {key : String} (hm : f.backing.virtual? sig = some (t, m))
    (hbody : m.body = .forward (.ofIndex .instances i) key) {called : Member}
    (hcalled : ms.instances.methods[i]? = some called) : f.CallsBack s sig called.function := by
  intro t p args fuel context hlater hp hfit hactive
  have hms : t.HasMembers p.wrapper ms := hp.2 ▸ (h.later hlater).hasMembers
  exact Run.invoke_forward_called (hp.1 ▸ hm) hbody hfit hms hcalled hactive fuel

/-- A candidate that is bound calls back the function that it is bound to. -/
theorem callsBack_bind? (h : Generated base interfaces instances ms f.loaded s) {c : Candidate}
    {m : Member} (hc : c ∈ Candidate.all base interfaces) (hm : ms.instances.bind? c = some m) :
    f.CallsBack s c.signature m.function := by
  obtain ⟨i, hi⟩ := List.mem_iff_getElem?.mp (CollectedFacet.bind?_some hm).1
  have hb : (⟨c, m.id, m.key⟩ : Binding) ∈
      (Overrides.ofMembers base interfaces ms.instances).bound :=
    Overrides.mem_bound.mpr ⟨hc, m, hm, rfl, rfl⟩
  have hbody : (⟨c, m.id, m.key⟩ : Binding).method.body =
      .forward (.ofIndex .instances i) m.key := by
    rw [Binding.method, h.collected.id hi]
  exact h.callsBack_place (h.virtual?_bound hb) hbody hi

/-- Where nothing is bound the class inherits. -/
theorem virtual?_unbound (h : Generated base interfaces instances ms f.loaded s)
    (hnone : ∀ c ∈ Candidate.all base interfaces, c.signature = sig → ms.instances.bind? c = none) :
    f.backing.virtual? sig = base.inherited? interfaces sig := by
  obtain ⟨name, id, hbacking⟩ := h.backing
  have hunbound : (Overrides.ofMembers base interfaces ms.instances).binding? sig = none := by
    cases hb : (Overrides.ofMembers base interfaces ms.instances).binding? sig with
    | none => rfl
    | some b =>
      obtain ⟨hb, hsig⟩ := Overrides.binding?_eq_some.mp hb
      obtain ⟨hc, m, hm, -⟩ := Overrides.mem_bound.mp hb
      cases (hnone _ hc hsig).symm.trans hm
  rw [show f.backing = _ from hbacking, HostType.virtual?_generated, hunbound]

/-- A call back of a place, in terms of what is written there. -/
theorem callsBack_functionAt {entries : Entries}
    (h : Generated base interfaces (some entries) ms f.loaded s) {t : HostType} {m : Method}
    {i : Nat} {key : String} (hm : f.backing.virtual? sig = some (t, m))
    (hbody : m.body = .forward (.ofIndex .instances i) key) {g : FunctionRef}
    (hg : entries.functionAt i = some g) : f.CallsBack s sig g := by
  have hmirrors : CollectedFacet.Mirrors .instances entries ms.instances := by
    obtain ⟨hcollect, -, -, -⟩ := h
    exact CollectedFacet.mirrors_of_collect (Members.collect_ok hcollect).1
  rw [hmirrors.functionAt] at hg
  obtain ⟨called, hcalled, rfl⟩ := Option.map_eq_some_iff.mp hg
  exact h.callsBack_place hm hbody hcalled

end Generated

section Requests

variable {s₀ s₁ : Store} {config : Config} {r : ClassRequest} {f : StaticFacet}
  {entries entries' : Entries}

/-- A request is granted whatever the order in which its members are written. -/
theorem generate_reordered (h : s₀.generate config r = (.ok f, s₁))
    (hr : r.instances = some entries) (hperm : entries.Perm entries') :
    ∃ f' s₁', s₀.generate config { r with instances := some entries' } = (.ok f', s₁') := by
  have hr₀ := acceptable_of_generate h
  obtain ⟨ms, hms⟩ := hr ▸ hr₀.instances
  exact generate_of_acceptable
    { hr₀ with instances := CollectedFacet.collect_perm hperm hms }

/-- Two classes that differ in the order of their members bind the same members and are both
abstract or both not. A host call of a signature calls back the same function of both, or else
nothing is bound to it and both inherit the same. The order shows only where that is a
forwarding method, which calls back what each class has at its place. -/
theorem written_order_moves_forwarded_calls (hgen : s₀.generate config r = (.ok f, s₁))
    (hr : r.instances = some entries) (hperm : entries.Perm entries') {ms : Members}
    (hms : Members.collect r.instances r.statics = .ok ms) (fit : ms.Fit) :
    ∃ ms' f' s₁', Members.collect (some entries') r.statics = .ok ms' ∧
      s₀.generate config { r with instances := some entries' } = (.ok f', s₁') ∧
      f'.backing.isAbstract = f.backing.isAbstract ∧
      (∀ c ∈ Candidate.all (r.base.getD s₀.registry.object) r.interfaces,
        (ms'.instances.bind? c).map Member.key = (ms.instances.bind? c).map Member.key) ∧
      ∀ sig, (∃ g, f.CallsBack s₁ sig g ∧ f'.CallsBack s₁' sig g) ∨
        (∀ c ∈ Candidate.all (r.base.getD s₀.registry.object) r.interfaces, c.signature = sig →
          ms.instances.bind? c = none) ∧
        f.backing.virtual? sig = (r.base.getD s₀.registry.object).inherited? r.interfaces sig ∧
        f'.backing.virtual? sig = (r.base.getD s₀.registry.object).inherited? r.interfaces sig ∧
        ∀ t m i key, (r.base.getD s₀.registry.object).inherited? r.interfaces sig = some (t, m) →
          m.body = .forward (.ofIndex .instances i) key → ∀ g,
            (entries.functionAt i = some g → f.CallsBack s₁ sig g) ∧
            (entries'.functionAt i = some g → f'.CallsBack s₁' sig g) := by
  obtain ⟨f', s₁', hgen'⟩ := generate_reordered hgen hr hperm
  obtain ⟨ms₀, hms₀, hclass⟩ := generate_ok hgen
  obtain ⟨ms', hms', hclass'⟩ := generate_ok hgen'
  rw [hms] at hms₀
  cases hms₀
  rw [hr] at hms hclass
  obtain ⟨hinstances, hstatics⟩ := Members.collect_ok hms
  obtain ⟨hinstances', hstatics'⟩ := Members.collect_ok hms'
  have hbind := CollectedFacet.bind?_perm hperm hinstances hinstances'
  have fit' : ms'.Fit := by
    have hlength := CollectedFacet.length_methods_perm hperm hinstances hinstances'
    rw [Members.Fit, hlength, Except.ok.inj (hstatics'.symm.trans hstatics)]
    exact fit
  have hclass := hclass fit
  have hclass' := hclass' fit'
  have hsome (c : Candidate) : (ms'.instances.bind? c).isNone = (ms.instances.bind? c).isNone := by
    have hnone := congrArg Option.isNone (hbind c)
    rwa [Option.isNone_map, Option.isNone_map] at hnone
  refine ⟨ms', f', s₁', hms', hgen', ?_, fun c _ => ?_, fun sig => ?_⟩
  · rw [generate_isAbstract hgen (hr ▸ hms), generate_isAbstract hgen' hms',
      Overrides.isAbstract_congr fun c _ => hsome c]
  · have hkey := congrArg (Option.map Prod.fst) (hbind c)
    rwa [Option.map_map, Option.map_map] at hkey
  · by_cases hbound : ∃ c ∈ Candidate.all (r.base.getD s₀.registry.object) r.interfaces,
        c.signature = sig ∧ ∃ m, ms.instances.bind? c = some m
    · obtain ⟨c, hc, rfl, m, hm⟩ := hbound
      have hentry := hbind c
      rw [hm] at hentry
      obtain ⟨m', hm', hsame⟩ := Option.map_eq_some_iff.mp hentry
      have hfunction : m'.function = m.function :=
        ScriptValue.function.inj (congrArg Prod.snd hsame)
      exact .inl ⟨m.function, hclass.callsBack_bind? hc hm,
        hfunction ▸ hclass'.callsBack_bind? hc hm'⟩
    · have hnone : ∀ c ∈ Candidate.all (r.base.getD s₀.registry.object) r.interfaces,
          c.signature = sig → ms.instances.bind? c = none := fun c hc hsig =>
        Option.eq_none_iff_forall_ne_some.mpr fun m hm => hbound ⟨c, hc, hsig, m, hm⟩
      have hvirtual := hclass.virtual?_unbound hnone
      have hvirtual' := hclass'.virtual?_unbound fun c hc hsig => by
        rw [← Option.isNone_iff_eq_none, hsome c, hnone c hc hsig]
        rfl
      refine .inr ⟨hnone, hvirtual, hvirtual', fun t m i key hm hbody g => ⟨fun hg => ?_, fun hg => ?_⟩⟩
      · exact hclass.callsBack_functionAt (hvirtual.trans hm) hbody hg
      · exact hclass'.callsBack_functionAt (hvirtual'.trans hm) hbody hg

end Requests

namespace Sample

/-- A method that `shape` asks for, and another. -/
def drawing : Entries :=
  [("draw", .function ⟨0, some "draw", none⟩), ("erase", .function ⟨1, some "erase", none⟩)]

def drawn (entries : Entries) : ClassRequest where
  interfaces := [shape]
  instances := some entries
  name := some "Drawn"

/-- The members of `drawn drawing`. -/
def drawnMembers : Members where
  instances := ⟨.instances, [], [⟨"draw", ⟨"draw", none⟩, ⟨2⟩, ⟨0, some "draw", none⟩⟩,
    ⟨"erase", ⟨"erase", none⟩, ⟨3⟩, ⟨1, some "erase", none⟩⟩], none⟩
  statics := .empty .statics

theorem collect_drawn : Members.collect (drawn drawing).instances (drawn drawing).statics =
    .ok drawnMembers := rfl

/-- Two functions, for a class that inherits from a generated one through a host class. -/
def letters : Entries :=
  [("alpha", .function ⟨1, some "alpha", none⟩), ("beta", .function ⟨2, some "beta", none⟩)]

def lettered (t : HostType) (entries : Entries) : ClassRequest where
  base := some (heir t)
  instances := some entries

/-- What a host call of `draw` gives on an object. -/
def drawnText (s : Store) (p : Pair) : Option String :=
  ((Run.invoke 6 (.pair p) draw []).run s).1.toOption.bind HostValue.string?

end Sample

set_option maxRecDepth 10000 in
open Sample in
/-- Whichever of its two methods is written first, `draw` is bound to its own. -/
theorem drawn_in_either_order : ∃ (ms' : Members) (f f' : StaticFacet) (s₁ s₁' : Store),
    start.generate {} (drawn drawing) = (.ok f, s₁) ∧
    Members.collect (some drawing.reverse) none = .ok ms' ∧
    start.generate {} (drawn drawing.reverse) = (.ok f', s₁') ∧
    f'.backing.isAbstract = f.backing.isAbstract ∧
    ∀ c ∈ Candidate.all start.registry.object [shape],
      (ms'.instances.bind? c).map Member.key = (drawnMembers.instances.bind? c).map Member.key := by
  obtain ⟨f, s₁, hgen⟩ := granted (s := start) (r := drawn drawing) (by decide +kernel)
  obtain ⟨ms', f', s₁', hms', hgen', habstract, hkeys, -⟩ :=
    written_order_moves_forwarded_calls hgen rfl drawing.reverse_perm.symm collect_drawn
      ⟨by decide, by decide⟩
  exact ⟨ms', f, f', s₁, s₁', hgen, hms', hgen', habstract, hkeys⟩

set_option maxRecDepth 10000 in
open Sample in
/-- A host call of `draw`, which a generated class above the base forwards, reaches whichever
of two functions is written first. -/
theorem call_depends_on_written_order : ∃ f p s g q t h r u,
    object (speaking ["first draw", "alpha", "beta"]) first = some (f, p, s) ∧
      object s (lettered f.backing letters) = some (g, q, t) ∧
      object s (lettered f.backing letters.reverse) = some (h, r, u) ∧
      drawnText t q = some "alpha" ∧ drawnText u r = some "beta" := by
  have h : (object (speaking ["first draw", "alpha", "beta"]) first).any (fun (f, _, s) =>
      (object s (lettered f.backing letters)).any fun (_, q, t) =>
        (object s (lettered f.backing letters.reverse)).any fun (_, r, u) =>
          drawnText t q = some "alpha" ∧ drawnText u r = some "beta") = true := by decide +kernel
  obtain ⟨⟨f, p, s⟩, hf, h⟩ := (Option.any_eq_true _ _).mp h
  obtain ⟨⟨g, q, t⟩, hg, h⟩ := (Option.any_eq_true _ _).mp h
  obtain ⟨⟨h, r, u⟩, hh, htexts⟩ := (Option.any_eq_true _ _).mp h
  obtain ⟨halpha, hbeta⟩ := of_decide_eq_true htexts
  exact ⟨f, p, s, g, q, t, h, r, u, hf, hg, hh, halpha, hbeta⟩

end ScriptClass
