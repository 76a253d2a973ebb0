import ScriptClass.Proofs.Generation.Object

/-!
# Forwarding methods

What a virtual call does that reaches a method of a generated class. The method
knows its script function by a number alone, which the class of the receiver
reads: the callable at that place of the receiver's class is called back, once,
or the call is refused (`invoke_forward_called`, `invoke_forward_beyond`).

On an object of the class that declares the method this is the function that the
override was bound to (`overrides_call_their_functions`), since the ids under
which members are collected, the bindings, the host class and the dispatch table
all agree. On an object of another generated class it is that class's callable of
the same place (`forwarding_calls_the_receivers_member`); such an object exists
where a host class extends a generated one and is extended in turn
(`forwarding_crosses_classes`).
-/

namespace ScriptClass

namespace Run

/-- A script result on its way back through a method of this signature. -/
def returned (sig : Signature) (x : Except Halt ScriptValue × Store) :
    Except Halt HostValue × Store :=
  match x with
  | (.ok v, t) => (ofConversion (v.unbox sig.returns)).run t
  | (.error e, t) => (.error e, t)

/-- One call of a script function on an object, with boxed arguments and an unboxed
result. Receiver and arguments are held meanwhile. -/
def callBack (fuel context : Nat) (g : FunctionRef) (p : Pair) (sig : Signature)
    (args : List HostValue) : Run HostValue :=
  keeping (.native (.pair p) :: args.map HostValue.box) do
    let result ← callFunction fuel context g (.object (.pair p)) (args.map HostValue.box)
    ofConversion (result.unbox sig.returns)

/-- What one call of a script function leaves that runs its code on an object: one
call deeper in the context, and back again but for what the code changes. -/
def calledOnce (fuel context : Nat) (g : FunctionRef) (code : FunctionCode) (p : Pair)
    (sig : Signature) (args : List HostValue) (s : Store) : Except Halt HostValue × Store :=
  let boxed := args.map HostValue.box
  let held := s.holding (.native (.pair p) :: boxed)
  let deeper := s.contexts.update context fun c => { c with depth := c.depth + 1 }
  letGo s (returned sig (leave held context
    ((runCode fuel context code (.object (.pair p)) boxed).run
      (held.inside deeper (.function g :: .object (.pair p) :: boxed)))))

/-- Below the limit of its context a call back runs the code of the function. -/
theorem run_callBack {s : Store} {context : Nat} {c : Context} {g : FunctionRef}
    {code : FunctionCode} (hc : s.contexts.get? context = some c) (hd : c.depth < c.maxDepth)
    (hg : s.functions[g.id]? = some code) (fuel : Nat) (p : Pair) (sig : Signature)
    (args : List HostValue) :
    (callBack (fuel + 1) context g p sig args).run s =
      calledOnce fuel context g code p sig args s := by
  have hpush := Contexts.pushCall_of_lt hc hd
  have henter : (s.holding (.native (.pair p) :: args.map HostValue.box)).contexts.pushCall
      context = .ok _ := hpush
  rw [callBack, run_keeping, run_bind, callFunction_of_code henter hg]
  simp only [calledOnce]
  rcases leave _ context _ with ⟨e | v, t⟩ <;> rfl

section Forwarding

variable {s : Store} {sig : Signature} {args : List HostValue} {receiver : HostObject}
  {owner : HostType} {m : Method} {member : MemberId} {key : String}

/-- A call is refused if its forwarding body is, once the arguments fit. -/
theorem invoke_forward_refused (hm : receiver.type.virtual? sig = some (owner, m))
    (hbody : m.body = .forward member key) {fuel : Nat}
    (h : sig.checkFit args = .ok () → Refused (forward fuel member key sig receiver args)
      (s.holding (.native receiver :: HostValue.boxAll args))) :
    Refused (invoke (fuel + 2) receiver sig args) s := by
  cases hfit : sig.checkFit args with
  | error e => exact ⟨e, invoke_misfit hfit _⟩
  | ok =>
    obtain ⟨e, he⟩ := (h hfit).keeping
    exact ⟨e, by rw [invoke_forward hfit hm hbody, he]⟩

/-- In no context a forwarding method calls nothing. -/
theorem invoke_forward_no_context (hm : receiver.type.virtual? sig = some (owner, m))
    (hbody : m.body = .forward member key) (hfit : sig.checkFit args = .ok ())
    (hactive : s.contexts.active = none) (fuel : Nat) :
    (invoke (fuel + 3) receiver sig args).run s = (.error (.failed .noActiveContext), s) := by
  rw [invoke_forward hfit hm hbody, run_keeping,
    forward_no_context (s := s.holding _) hactive, letGo_holding]

variable {p : Pair} {ms own : Members} {i context : Nat}

/-- A place that the receiver's class has is called back. -/
theorem invoke_forward_called (hm : (HostObject.pair p).type.virtual? sig = some (owner, m))
    (hbody : m.body = .forward (.ofIndex .instances i) key) (hfit : sig.checkFit args = .ok ())
    (hms : s.HasMembers p.wrapper ms) {called : Member}
    (hcalled : ms.instances.methods[i]? = some called)
    (hactive : s.contexts.active = some context) (fuel : Nat) :
    (invoke (fuel + 4) (.pair p) sig args).run s =
      (callBack fuel context called.function p sig args).run s := by
  rw [invoke_forward hfit hm hbody, callBack, run_keeping, run_keeping, HostValue.boxAll_eq_map,
    forward_pair (s := s.holding _) hactive, run_bind, HostValue.boxAll_eq_map,
    dispatch_instance (hms.holding _) hcalled, run_bind]

theorem forward_beyond (hms : s.HasMembers p.wrapper ms) (fitOwn : own.Fit)
    (hi : i < (own.methods .instances).length) (hnone : (ms.methods .instances)[i]? = none)
    (fuel : Nat) :
    Refused (forward (fuel + 2) (.ofIndex .instances i) key sig (.pair p) args) s := by
  cases hactive : s.contexts.active with
  | none => exact ⟨_, forward_no_context hactive _ _⟩
  | some context =>
    obtain ⟨e, he⟩ := (dispatch_beyond hms fitOwn hi hnone fuel context (some p)
      (HostValue.boxAll args)).bind fun result => ofConversion (result.unbox sig.returns)
    exact ⟨e, by rw [forward_pair hactive, he]⟩

/-- A place beyond the callables of the receiver's class is refused. -/
theorem invoke_forward_beyond (hm : (HostObject.pair p).type.virtual? sig = some (owner, m))
    (hbody : m.body = .forward (.ofIndex .instances i) key) (hms : s.HasMembers p.wrapper ms)
    (fitOwn : own.Fit) (hi : i < own.instances.methods.length)
    (hnone : ms.instances.methods[i]? = none) (fuel : Nat) :
    Refused (invoke (fuel + 4) (.pair p) sig args) s :=
  invoke_forward_refused hm hbody fun _ =>
    forward_beyond (hms.holding _) fitOwn hi hnone fuel

end Forwarding

end Run

/-! ## Objects of the class itself -/

namespace Generated

variable {base : HostType} {interfaces : List HostType} {instances : Option Entries} {ms : Members}
  {l : LoadedClass} {s : Store}

/-- A bound override was given as a function. -/
theorem function_of_bound (h : Generated base interfaces instances ms l s) {b : Binding}
    (hb : b ∈ (Overrides.ofMembers base interfaces ms.instances).bound) :
    ∃ g, (instances.getD []).lookup b.key = some (.function g) := by
  obtain ⟨i, m, -, -, -, hkey⟩ := h.member_of_bound hb
  exact ⟨m.function, hkey⟩

/-- A host call of a bound override on an object of the class is one call back of
the function that was written under its key. -/
theorem invoke_bound (h : Generated base interfaces instances ms l s) {b : Binding}
    (hb : b ∈ (Overrides.ofMembers base interfaces ms.instances).bound) {g : FunctionRef}
    (hg : (instances.getD []).lookup b.key = some (.function g)) {p : Pair}
    (htype : p.type = l.backing) (hp : p.wrapper = l.wrapper) {args : List HostValue}
    (hfit : b.candidate.signature.checkFit args = .ok ()) {context : Nat}
    (hactive : s.contexts.active = some context) (fuel : Nat) :
    (Run.invoke (fuel + 4) (.pair p) b.candidate.signature args).run s =
      (Run.callBack fuel context g p b.candidate.signature args).run s := by
  obtain ⟨i, m, hm, hid, -, hkey⟩ := h.member_of_bound hb
  rw [hg] at hkey
  cases hkey
  have hbody : b.method.body = .forward (.ofIndex .instances i) b.key := by
    rw [Binding.method, hid]
  have hv : (HostObject.pair p).type.virtual? b.candidate.signature =
      some (l.backing, b.method) := by
    rw [HostObject.type, htype, h.virtual?_bound hb]
  have hms : s.HasMembers p.wrapper ms := by
    rw [hp]
    exact h.hasMembers
  exact Run.invoke_forward_called hv hbody hfit hms hm hactive fuel

end Generated

/-- Every object of a generated class answers a host call of a bound override by
one call of the function that was written under the override's key, on itself and
with the arguments boxed in order, and hands back what it gives, unboxed to the
declared type. In no context it calls nothing. -/
theorem overrides_call_their_functions {s₀ s₁ : Store} {config : Config} {r : ClassRequest}
    {f : StaticFacet} {ms : Members} (hgen : s₀.generate config r = (.ok f, s₁))
    (hms : Members.collect r.instances r.statics = .ok ms) (fit : ms.Fit) :
    (∀ (s s' : Store) (fuel context : Nat) (args : List ScriptValue) (p : Pair), s₁.Later s →
      (Run.construct fuel context f.wrapper args).run s = (.ok p, s') → p.IsOf f) ∧
    ∀ b ∈ (Overrides.ofMembers (r.base.getD s₀.registry.object) r.interfaces ms.instances).bound,
      ∃ g, (r.instances.getD []).lookup b.key = some (.function g) ∧
        ∀ (s : Store) (p : Pair) (args : List HostValue) (fuel : Nat), s₁.Later s → p.IsOf f →
          b.candidate.signature.checkFit args = .ok () →
          (s.contexts.active = none →
            (Run.invoke (fuel + 4) (.pair p) b.candidate.signature args).run s =
              (.error (.failed .noActiveContext), s)) ∧
          ∀ context, s.contexts.active = some context →
            (Run.invoke (fuel + 4) (.pair p) b.candidate.signature args).run s =
              (Run.callBack fuel context g p b.candidate.signature args).run s ∧
            ∀ (c : Context) (code : FunctionCode), s.contexts.get? context = some c →
              c.depth < c.maxDepth → s₀.functions[g.id]? = some code →
              (Run.invoke (fuel + 5) (.pair p) b.candidate.signature args).run s =
                Run.calledOnce fuel context g code p b.candidate.signature args s := by
  obtain ⟨ms', hms', hclass⟩ := generate_ok hgen
  rw [hms] at hms'
  cases hms'
  have hclass := hclass fit
  refine ⟨fun s s' fuel context args p hs hp => (hclass.later hs).isOf_of_construct hp, ?_⟩
  intro b hb
  obtain ⟨g, hg⟩ := hclass.function_of_bound hb
  refine ⟨g, hg, fun s p args fuel hs hp hfit => ?_⟩
  have hlater := hclass.later hs
  refine ⟨fun hactive => ?_, ?_⟩
  · have hv : (HostObject.pair p).type.virtual? b.candidate.signature =
        some (f.backing, b.method) := by
      rw [HostObject.type, hp.1]
      exact hlater.virtual?_bound hb
    exact Run.invoke_forward_no_context hv rfl hfit hactive _
  intro context hactive
  refine ⟨hlater.invoke_bound hb hg hp.1 hp.2 hfit hactive fuel, ?_⟩
  intro c code hc hd hcode
  have hgen' : s₀.Later s₁ := by
    have := generate_later s₀ config r
    rwa [hgen] at this
  rw [hlater.invoke_bound hb hg hp.1 hp.2 hfit hactive (fuel + 1)]
  exact Run.run_callBack hc hd ((Store.Later.extends (hgen'.trans hs)).function hcode) fuel p _ args

namespace Sample

def draw : Signature := ⟨"draw", [], .string⟩

/-- An interface whose one method is `draw`. -/
def shape : HostType :=
  .mk { id := 2, name := "app/Shape", modifiers := .ofInterface, methods := [.abstract draw] } none []

/-- A host class that extends a generated one. -/
def heir (t : HostType) : HostType :=
  .mk { id := 10, name := "app/Heir", modifiers := .onlyPublic } (some t) []

def start : Store := speaking ["first draw", "second secret"]

def first : ClassRequest where
  interfaces := [shape]
  instances := some [("draw", .function ⟨0, some "draw", none⟩)]
  name := some "First"

def second (t : HostType) : ClassRequest where
  base := some (heir t)
  instances := some [("secret", .function ⟨1, some "secret", none⟩)]
  name := some "Second"

/-- The members of `first`. -/
def members : Members where
  instances := ⟨.instances, [], [⟨"draw", ⟨"draw", none⟩, ⟨2⟩, ⟨0, some "draw", none⟩⟩], none⟩
  statics := .empty .statics

theorem collect_first : Members.collect first.instances first.statics = .ok members := rfl

theorem members_fit : members.Fit := ⟨by decide, by decide⟩

theorem draw_bound : ∃ b ∈ (Overrides.ofMembers (first.base.getD start.registry.object)
    first.interfaces members.instances).bound, b.key = "draw" ∧ b.candidate.signature = draw := by
  decide +kernel

set_option maxRecDepth 10000 in
/-- The object of `first` stands in a context in which nothing runs. -/
theorem object_first : ∃ f p s, object start first = some (f, p, s) ∧
    s.contexts = { all := #[{ maxDepth := 256, nesting := 1 }], active := some 0 } := by
  have h : (object start first).any (fun o => o.2.2.contexts =
      { all := #[{ maxDepth := 256, nesting := 1 }], active := some 0 }) = true := by decide +kernel
  obtain ⟨⟨f, p, s⟩, ho, hs⟩ := (Option.any_eq_true _ _).mp h
  exact ⟨f, p, s, ho, of_decide_eq_true hs⟩

end Sample

open Sample in
theorem first_draws : ∃ f p s, object start first = some (f, p, s) ∧
    (Run.invoke 6 (.pair p) draw []).run s =
      Run.calledOnce 1 0 ⟨0, some "draw", none⟩ (.expression (.const (.string "first draw"))) p
        draw [] s := by
  obtain ⟨f, p, s, ho, hcontexts⟩ := object_first
  obtain ⟨s₁, hgen, hp, hlater⟩ := object_some ho
  refine ⟨f, p, s, ho, ?_⟩
  obtain ⟨hof, hbound⟩ := overrides_call_their_functions hgen collect_first members_fit
  obtain ⟨b, hb, hkey, hsig⟩ := draw_bound
  obtain ⟨g, hg, hcall⟩ := hbound b hb
  rw [hkey] at hg
  cases hg
  obtain ⟨-, hactive⟩ := hcall s p [] 1 hlater (hof s₁ s 3 0 [] p .refl hp) (by rw [hsig]; rfl)
  rw [hsig] at hactive
  exact (hactive 0 (by rw [hcontexts])).2 { maxDepth := 256, nesting := 1 } _
    (by rw [hcontexts]; rfl) (by decide) rfl

/-! ## Any object

A forwarding method is inherited by host classes that extend the generated class,
and by classes generated from those. -/

/-- A virtual call that reaches a method of the class reaches a forwarding body,
which was made for one of the instance callables. -/
theorem Generated.forward_of_virtual? {base : HostType} {interfaces : List HostType}
    {instances : Option Entries} {ms : Members} {l : LoadedClass} {s : Store}
    (h : Generated base interfaces instances ms l s) {t : HostType}
    {sig : Signature} {m : Method} (hm : t.virtual? sig = some (l.backing, m)) :
    ∃ i own, ms.instances.methods[i]? = some own ∧
      m.body = .forward (.ofIndex .instances i) own.key ∧
      (instances.getD []).lookup own.key = some (.function own.function) := by
  obtain ⟨b, hb, rfl⟩ := h.declared?_bound (HostType.virtual?_declared hm)
  obtain ⟨i, own, hown, hid, hkey, hlookup⟩ := h.member_of_bound hb
  refine ⟨i, own, hown, ?_, hkey ▸ hlookup⟩
  rw [Binding.method, hid, hkey]

/-- Whatever object a virtual call reaches a forwarding method of a class on, the
method's number is read by the class of the object: an object that was not
generated is refused, and a generated one calls back its own class's callable of
that place. On an object of the class that declares the method this is the callable
that was collected under the method's key; on any other it is refused only where
its class has no such place. -/
theorem forwarding_calls_the_receivers_member {base : HostType} {interfaces : List HostType}
    {instances : Option Entries} {ms : Members} {l : LoadedClass} {s : Store}
    (h : Generated base interfaces instances ms l s) {o : HostObject} {sig : Signature} {m : Method}
    (hm : o.type.virtual? sig = some (l.backing, m)) :
    ∃ i own, ms.instances.methods[i]? = some own ∧
      m.body = .forward (.ofIndex .instances i) own.key ∧
      (instances.getD []).lookup own.key = some (.function own.function) ∧
      ∀ (args : List HostValue) (fuel : Nat),
        (o.pair? = none → Run.Refused (Run.invoke (fuel + 4) o sig args) s) ∧
        ∀ (p : Pair) (ms' : Members), o = .pair p → s.HasMembers p.wrapper ms' →
          ((sig.checkFit args ≠ .ok () ∨ s.contexts.active = none ∨
              ms'.instances.methods[i]? = none) →
            Run.Refused (Run.invoke (fuel + 4) o sig args) s) ∧
          ∀ context called, sig.checkFit args = .ok () → s.contexts.active = some context →
            ms'.instances.methods[i]? = some called →
            (Run.invoke (fuel + 4) o sig args).run s =
              (Run.callBack fuel context called.function p sig args).run s ∧
            (p.wrapper.id = l.wrapper.id → called = own) := by
  obtain ⟨i, own, hown, hbody, hlookup⟩ := h.forward_of_virtual? hm
  refine ⟨i, own, hown, hbody, hlookup, fun args fuel => ⟨fun hplain => ?_, ?_⟩⟩
  · cases o with
    | pair p => cases hplain
    | plain id t => exact Run.invoke_forward_refused hm hbody fun _ => Run.forward_plain ..
  · rintro p ms' rfl hms'
    have hi : i < ms.instances.methods.length := (List.getElem?_eq_some_iff.mp hown).1
    refine ⟨fun hwhy => ?_, fun context called hfit hactive hcalled => ⟨?_, fun hw => ?_⟩⟩
    · rcases hwhy with hmisfit | hactive | hnone
      · exact Run.invoke_forward_refused hm hbody fun hfit => absurd hfit hmisfit
      · exact Run.invoke_forward_refused hm hbody fun _ =>
          ⟨_, Run.forward_no_context (s := s.holding _) hactive _ _⟩
      · exact Run.invoke_forward_beyond hm hbody hms' h.fit hi hnone fuel
    · exact Run.invoke_forward_called hm hbody hfit hms' hcalled hactive fuel
    · have heq : ms'.instances.methods = ms.instances.methods :=
        hms'.methods_eq h.hasMembers hw .instances
      rw [heq, hown] at hcalled
      exact (Option.some.inj hcalled).symm

open Sample in
theorem first_draws_by_its_member : ∃ f p s, object start first = some (f, p, s) ∧
    (Run.invoke 5 (.pair p) draw []).run s =
      (Run.callBack 1 0 ⟨0, some "draw", none⟩ p draw []).run s := by
  obtain ⟨f, p, s, ho, hcontexts⟩ := object_first
  obtain ⟨s₁, hgen, hp, hlater⟩ := object_some ho
  refine ⟨f, p, s, ho, ?_⟩
  obtain ⟨ms, hms, hclass⟩ := generate_ok hgen
  rw [collect_first] at hms
  cases hms
  have hclass := hclass members_fit
  have hof : p.IsOf f := hclass.isOf_of_construct hp
  have hs := hclass.later hlater
  obtain ⟨b, hb, -, hsig⟩ := draw_bound
  have hm : (HostObject.pair p).type.virtual? draw = some (f.loaded.backing, b.method) := by
    rw [← hsig, HostObject.type, hof.1]
    exact hs.virtual?_bound hb
  obtain ⟨i, own, hown, -, -, hcall⟩ := forwarding_calls_the_receivers_member hs hm
  have hmembers : s.HasMembers p.wrapper members := hof.2 ▸ hs.hasMembers
  have hlast : own = ⟨"draw", ⟨"draw", none⟩, ⟨2⟩, ⟨0, some "draw", none⟩⟩ :=
    List.mem_singleton.mp (List.mem_of_getElem? hown)
  subst hlast
  exact (((hcall [] 1).2 p members rfl hmembers).2 0 _ rfl (by rw [hcontexts]) hown).1

set_option maxRecDepth 10000 in
open Sample in
/-- Forwarding crosses classes. The object of `second` inherits the `draw` of `first`
through a host class and has a callable at its place, `secret`, which is what
runs. -/
theorem forwarding_crosses_classes : ∃ f p s g q t found,
    object start first = some (f, p, s) ∧ object s (second f.backing) = some (g, q, t) ∧
      q.type.virtual? draw = some found ∧ found.1.id = f.backing.id ∧
      found.2.body = .forward ⟨2⟩ "draw" ∧ q.wrapper.id ≠ f.wrapper.id ∧
      ((Run.invoke 6 (.pair q) draw []).run t).1.toOption.bind HostValue.string? =
        some "second secret" := by
  have h : (object start first).any (fun (f, _, s) =>
      (object s (second f.backing)).any fun (_, q, t) =>
        (q.type.virtual? draw).any fun found =>
          found.1.id = f.backing.id ∧ found.2.body = .forward ⟨2⟩ "draw" ∧
            q.wrapper.id ≠ f.wrapper.id ∧
            ((Run.invoke 6 (.pair q) draw []).run t).1.toOption.bind HostValue.string? =
              some "second secret") = true := by decide +kernel
  obtain ⟨⟨f, p, s⟩, hf, h⟩ := (Option.any_eq_true _ _).mp h
  obtain ⟨⟨g, q, t⟩, hg, h⟩ := (Option.any_eq_true _ _).mp h
  obtain ⟨found, hfound, h⟩ := (Option.any_eq_true _ _).mp h
  exact ⟨f, p, s, g, q, t, found, hf, hg, hfound, of_decide_eq_true h⟩

end ScriptClass
