import ScriptClass.Proofs.Firsts
import ScriptClass.Proofs.MemberReading
import ScriptClass.Proofs.Value.Passing

/-!
# Inherited methods

Script code calls the host methods that an object inherits by their bare names. A call of a name
that no data and no callable of the class have looks the name up in the class chain alone, and
runs the first of the methods found there that takes the arguments
(`Run.callProperty_inherited`). So a method runs if it comes first
(`HostType.ComesFirst`), but not if it is a default of an interface, and not if any callable of the
class has its name, also one of other parameters (`inherited_methods_run_unless_hidden`): the class
that overrides one overload hides the others (`override_hides_overload`).
-/

namespace ScriptClass

/-- The script arguments unboxed to the parameters, if there are as many and each is accepted. -/
def Signature.take? (s : Signature) (args : List ScriptValue) : Option (List HostValue) :=
  if s.params.length = args.length then (ScriptValue.unboxArguments args s.params).toOption else none

theorem Signature.checkFit_of_take? {s : Signature} {args : List ScriptValue}
    {hostArgs : List HostValue} (h : s.take? args = some hostArgs) : s.checkFit hostArgs = .ok () := by
  obtain ⟨hlength, h⟩ := Option.ite_none_right_eq_some.mp h
  cases hargs : ScriptValue.unboxArguments args s.params with
  | error e =>
    rw [hargs] at h
    cases h
  | ok hs =>
    rw [hargs] at h
    cases h
    exact checkFit_of_unboxArguments hlength hargs

/-- What is applied is the first signature that takes the arguments. -/
theorem firstApplicable_eq (signatures : List Signature) (args : List ScriptValue) :
    firstApplicable signatures args = (signatures.find? fun s => (s.take? args).isSome).bind
      fun s => (s.take? args).map fun hostArgs => (s, hostArgs) := by
  induction signatures with
  | nil => rfl
  | cons s signatures ih =>
    have hcons : firstApplicable (s :: signatures) args =
        ((s.take? args).map fun hostArgs => (s, hostArgs)).or (firstApplicable signatures args) := by
      rw [firstApplicable, List.findSome?_cons, Signature.take?]
      by_cases hlength : s.params.length = args.length
      · rw [if_pos hlength, if_pos hlength]
        cases ScriptValue.unboxArguments args s.params <;> rfl
      · rw [if_neg hlength, if_neg hlength]
        rfl
    rw [hcons, ih, List.find?_cons]
    cases htake : s.take? args with
    | none => rfl
    | some hostArgs =>
      rw [Option.isSome_some, Option.bind_some, htake]
      rfl

namespace HostType

variable {t : HostType} {name : String} {m : Method} {args : List ScriptValue}

/-- The methods of a name in the class chain that script may call on objects of the class. -/
def callables (t : HostType) (name : String) : List Method :=
  (t.chain.flatMap methods).filter fun m => m.name == name && !m.isStatic && !m.modifiers.isPrivate

theorem callableSignatures_eq (t : HostType) (name : String) :
    t.callableSignatures name = firstsBy Signature.slot ((t.callables name).map Method.signature) := by
  rw [firstsBy, List.foldl_map]
  rfl

/-- Of the methods of its name that script may call, the method is the first of its slot, and none
before it takes the arguments. -/
def ComesFirst (t : HostType) (m : Method) (args : List ScriptValue) : Prop :=
  ∃ before after, t.callables m.name = before ++ m :: after ∧
    ∀ d ∈ before, d.signature.slot ≠ m.signature.slot ∧ d.signature.take? args = none

/-- A method that comes first is picked. -/
theorem ComesFirst.firstApplicable (h : t.ComesFirst m args) {hostArgs : List HostValue}
    (htake : m.signature.take? args = some hostArgs) :
    firstApplicable (t.callableSignatures m.name) args = some (m.signature, hostArgs) := by
  obtain ⟨before, after, hsplit, hbefore⟩ := h
  have hsplit : (t.callables m.name).map Method.signature =
      before.map Method.signature ++ m.signature :: after.map Method.signature := by
    rw [hsplit, List.map_append, List.map_cons]
  have hslot : m.signature ∈ firstsBy Signature.slot ((t.callables m.name).map Method.signature) := by
    rw [mem_firstsBy, hsplit]
    refine List.find?_eq_some_iff_append.mpr ⟨beq_self_eq_true _, _, _, rfl, ?_⟩
    simpa using fun d hd => (hbefore d hd).1
  have hfirst : ((t.callables m.name).map Method.signature).find? (fun s => (s.take? args).isSome) =
      some m.signature := by
    rw [hsplit]
    refine List.find?_eq_some_iff_append.mpr ⟨by rw [htake]; rfl, _, _, rfl, ?_⟩
    simpa using fun d hd => (hbefore d hd).2
  rw [firstApplicable_eq, callableSignatures_eq, find?_firstsBy_of_mem _ hfirst hslot,
    Option.bind_some, htake]
  rfl

end HostType

namespace Generated

variable {base : HostType} {interfaces : List HostType} {instances : Option Entries} {ms : Members}
  {l : LoadedClass} {s : Store} {p : Pair} {n : String}

/-- A name that neither data nor a callable of the class have is read in the class chain. -/
theorem getProperty_unowned (h : Generated base interfaces instances ms l s)
    (hw : p.wrapper = l.wrapper) (hn : ¬ms.Owns n) (hdata : (s.properties p).get? n = none) :
    s.getProperty (.pair p) n = ((s.hostFunction p.type n).1.map .function,
      (s.hostFunction p.type n).2) := by
  obtain ⟨c, name, statics, hc, hplan, hcollect⟩ := h.plan
  have hdefault : (c.plan.findId .instances n).isDefault = true := by
    rw [hplan, Members.isDefault_findId name hcollect h.fit]
    exact hn
  have hmember : s.memberFunction p.wrapper .instances n = (none, s) := by
    simp only [Store.memberFunction, hw, hc, hdefault, if_true]
  simp only [Store.getProperty, hdata, hmember]

theorem getProperty_uninherited (h : Generated base interfaces instances ms l s)
    (hw : p.wrapper = l.wrapper) (hn : ¬ms.Owns n) (hdata : (s.properties p).get? n = none)
    (hsigs : p.type.callableSignatures n = []) : s.getProperty (.pair p) n = (none, s) := by
  rw [h.getProperty_unowned hw hn hdata]
  simp only [Store.hostFunction, hsigs, Option.map_none]

theorem readsAs_inherited (h : Generated base interfaces instances ms l s)
    (hw : p.wrapper = l.wrapper) (hn : ¬ms.Owns n) (hdata : (s.properties p).get? n = none)
    (hsigs : p.type.callableSignatures n ≠ []) :
    s.ReadsAs (.pair p) n (.inherited p.type.name n (p.type.callableSignatures n)) := by
  rw [Store.ReadsAs, h.getProperty_unowned hw hn hdata]
  obtain ⟨first, rest, hsigs⟩ := List.exists_cons_of_ne_nil hsigs
  simp only [Store.hostFunction, hsigs, Option.map_some]

/-- A name that a callable has is read as a function that picks a callable when it is called. -/
theorem readsAs_named (h : Generated base interfaces instances ms l s)
    (hw : p.wrapper = l.wrapper) (hn : ∃ c ∈ ms.instances.methods, c.name = n)
    (hdata : (s.properties p).get? n = none) : ∃ i, i < ms.instances.methods.length ∧
      s.ReadsAs (.pair p) n (.member p.wrapper .instances n (.ofIndex .instances i) false) := by
  obtain ⟨_, _, _, -, -, hcollect⟩ := h.plan
  have hn : ∃ c ∈ ms.methods .instances, c.name = n := hn
  obtain ⟨i, hi, hread⟩ := Store.memberFunction_name (hw ▸ h.hasMembers) hcollect hn
  exact ⟨i, hi, Store.getProperty_of_memberFunction rfl hdata hread⟩

end Generated

namespace Run

variable {s s₁ : Store} {o : ScriptObject} {n : String} {context : Nat} {cs : Contexts}
  {args : List ScriptValue}

/-- A call of a name runs the code of the function that is read under it. -/
theorem callProperty_of_readsAs {code : FunctionCode} (h : s.ReadsAs o n code)
    (hpush : s.contexts.pushCall context = .ok cs) (fuel : Nat) :
    ∃ f s₁, s.getProperty o n = (some (.function f), s₁) ∧ s₁.contexts = s.contexts ∧
      s.Later s₁ ∧ (callProperty (fuel + 2) context (.object o) n args).run s =
        leave s₁ context ((runCode fuel context code (.object o) args).run
          (s₁.inside cs (.function f :: .object o :: args))) := by
  refine ⟨_, _, h, rfl, .single (.function s code (some n) none), ?_⟩
  have hread : (getProperty (.object o) n).run s =
      (.ok (some (.function (s.newFunction code (some n) none).1)),
        (s.newFunction code (some n) none).2) := by
    rw [getProperty, ofChange, ExceptT.run_mk, h]
  have hpush' : (s.newFunction code (some n) none).2.contexts.pushCall context = .ok cs := hpush
  rw [callProperty, run_bind_ok hread]
  exact callFunction_of_code hpush' Array.getElem?_push_size fuel (.object o) args

theorem callProperty_none (h : s.getProperty o n = (none, s₁)) (fuel : Nat) :
    (callProperty (fuel + 1) context (.object o) n args).run s =
      (.error (.failed (.unknownMember (ScriptValue.object o).describe n)), s₁) := by
  have hread : (getProperty (.object o) n).run s = (.ok none, s₁) := by
    rw [getProperty, ofChange, ExceptT.run_mk, h]
  rw [callProperty, run_bind_ok hread]
  rfl

section Inherited

variable {base : HostType} {interfaces : List HostType} {instances : Option Entries} {ms : Members}
  {l : LoadedClass} {p : Pair}

/-- A call of a name that neither data nor a callable of the class have calls the first of the
listed signatures that takes the arguments. -/
theorem callProperty_inherited (h : Generated base interfaces instances ms l s)
    (hw : p.wrapper = l.wrapper) (hn : ¬ms.Owns n) (hdata : (s.properties p).get? n = none)
    (hpush : s.contexts.pushCall context = .ok cs) {sig : Signature} {hostArgs : List HostValue}
    (hpick : firstApplicable (p.type.callableSignatures n) args = some (sig, hostArgs)) (fuel : Nat) :
    ∃ f s₁, s.getProperty (.pair p) n = (some (.function f), s₁) ∧
      (callProperty (fuel + 2) context (.object (.pair p)) n args).run s =
        leave s₁ context ((do return (← invoke fuel (.pair p) sig hostArgs).box : Run ScriptValue).run
          (s₁.inside cs (.function f :: .object (.pair p) :: args))) := by
  have hsigs : p.type.callableSignatures n ≠ [] := by
    rintro hnil
    rw [hnil] at hpick
    cases hpick
  obtain ⟨f, s₁, hread, -, -, hrun⟩ :=
    callProperty_of_readsAs (h.readsAs_inherited hw hn hdata hsigs) hpush fuel
  refine ⟨f, s₁, hread, ?_⟩
  rw [hrun]
  simp only [runCode, ScriptValue.host?, ScriptObject.host?, hpick]

/-- Where none of them takes the arguments, nothing is called. -/
theorem callProperty_not_inherited (h : Generated base interfaces instances ms l s)
    (hw : p.wrapper = l.wrapper) (hn : ¬ms.Owns n) (hdata : (s.properties p).get? n = none)
    (hpush : s.contexts.pushCall context = .ok cs)
    (hpick : firstApplicable (p.type.callableSignatures n) args = none) (fuel : Nat) :
    (callProperty (fuel + 2) context (.object (.pair p)) n args).run s =
      (.error (.failed (if p.type.callableSignatures n = [] then
          .unknownMember (ScriptValue.object (.pair p)).describe n
        else .noMatchingOverload p.type.name n args.length)), (s.getProperty (.pair p) n).2) := by
  by_cases hsigs : p.type.callableSignatures n = []
  · have hread := h.getProperty_uninherited hw hn hdata hsigs
    rw [callProperty_none hread, if_pos hsigs, hread]
  · obtain ⟨f, s₁, hread, hcontexts, -, hrun⟩ :=
      callProperty_of_readsAs (h.readsAs_inherited hw hn hdata hsigs) hpush fuel
    rw [hrun, if_neg hsigs, hread]
    simp only [runCode, ScriptValue.host?, ScriptObject.host?, hpick]
    exact leave_inside _ (hcontexts ▸ hpush) _

/-- Where a callable of the class has the name and none of that name accepts the arguments, nothing
is called. -/
theorem callProperty_named (h : Generated base interfaces instances ms l s)
    (hw : p.wrapper = l.wrapper) (hn : ∃ c ∈ ms.instances.methods, c.name = n)
    (hnone : ∀ c ∈ ms.instances.methods, c.name = n → c.accepts args = false)
    (hdata : (s.properties p).get? n = none) (hpush : s.contexts.pushCall context = .ok cs)
    (fuel : Nat) : (callProperty (fuel + 3) context (.object (.pair p)) n args).run s =
      (.error (.failed (.noMatchingOverload p.wrapper.backing n args.length)),
        (s.getProperty (.pair p) n).2) := by
  obtain ⟨i, hi, hreads⟩ := h.readsAs_named hw hn hdata
  obtain ⟨f, s₁, hread, hcontexts, hlater, hrun⟩ := callProperty_of_readsAs hreads hpush (fuel + 1)
  have hfirst : ms.firstTaking .instances n args = none := by
    rw [Members.firstTaking, List.find?_eq_none]
    intro m hm hm'
    obtain ⟨hname, htakes⟩ := of_decide_eq_true hm'
    exact Bool.false_ne_true ((hnone m hm hname).symm.trans (Member.accepts_iff.mpr htakes))
  have hms : (s₁.inside cs (.function f :: .object (.pair p) :: args)).HasMembers p.wrapper ms :=
    hw ▸ ((h.later hlater).hasMembers.inside cs _)
  have hlt : i < (ms.methods .instances).length := hi
  have hpick := pickMember_name (n := n) hms hlt args
  rw [hfirst] at hpick
  rw [hrun, hread, runCode, callMemberFunction_succ, run_bind, hpick]
  exact leave_inside _ (hcontexts ▸ hpush) _

end Inherited

end Run

/-- A virtual call on an object of a generated class reaches the method, the method takes the
arguments, and no data of the object go by its name. Script that calls the name runs the method if
no callable of the class goes by the name and the method comes first in the class chain. Where a
callable of the class has the name and none of that name accepts the arguments, nothing is called,
though the class need not override the method. Where no callable goes by the name, only the class
chain is looked at: the first overload there that takes the arguments is called, and without one
nothing is, also if the method is a default of an interface. -/
theorem inherited_methods_run_unless_hidden {base : HostType} {interfaces : List HostType}
    {instances : Option Entries} {ms : Members} {l : LoadedClass} {s : Store}
    (h : Generated base interfaces instances ms l s) {p : Pair} (hw : p.wrapper = l.wrapper)
    {owner : HostType} {m : Method} (hm : p.type.virtual? m.signature = some (owner, m))
    {args : List ScriptValue} {hostArgs : List HostValue}
    (htake : m.signature.take? args = some hostArgs) (hdata : (s.properties p).get? m.name = none)
    {context : Nat} {cs : Contexts} (hpush : s.contexts.pushCall context = .ok cs) (fuel : Nat) :
    (¬ms.Owns m.name → p.type.ComesFirst m args →
      ∃ f s₁, s.getProperty (.pair p) m.name = (some (.function f), s₁) ∧
        (Run.callProperty (fuel + 3) context (.object (.pair p)) m.name args).run s =
          Run.leave s₁ context ((do
            let result ← Run.keeping (.native (.pair p) :: HostValue.boxAll hostArgs)
              (Run.runMethod fuel owner m (some (.pair p)) hostArgs)
            return result.box : Run ScriptValue).run
              (s₁.inside cs (.function f :: .object (.pair p) :: args)))) ∧
    ((∃ c ∈ ms.instances.methods, c.name = m.name) →
      (∀ c ∈ ms.instances.methods, c.name = m.name → c.accepts args = false) →
        (Run.callProperty (fuel + 3) context (.object (.pair p)) m.name args).run s =
          (.error (.failed (.noMatchingOverload p.wrapper.backing m.name args.length)),
            (s.getProperty (.pair p) m.name).2)) ∧
    (¬ms.Owns m.name → ∀ other otherArgs,
      firstApplicable (p.type.callableSignatures m.name) args = some (other, otherArgs) →
        ∃ f s₁, s.getProperty (.pair p) m.name = (some (.function f), s₁) ∧
          (Run.callProperty (fuel + 3) context (.object (.pair p)) m.name args).run s =
            Run.leave s₁ context ((do
              return (← Run.invoke (fuel + 1) (.pair p) other otherArgs).box : Run ScriptValue).run
                (s₁.inside cs (.function f :: .object (.pair p) :: args)))) ∧
    (¬ms.Owns m.name → firstApplicable (p.type.callableSignatures m.name) args = none →
      (Run.callProperty (fuel + 3) context (.object (.pair p)) m.name args).run s =
        (.error (.failed (if p.type.callableSignatures m.name = [] then
            .unknownMember (ScriptValue.object (.pair p)).describe m.name
          else .noMatchingOverload p.type.name m.name args.length)),
          (s.getProperty (.pair p) m.name).2)) := by
  refine ⟨fun hn hfirst => ?_, fun hn hnone => Run.callProperty_named h hw hn hnone hdata hpush fuel,
    fun hn other otherArgs hpick =>
      Run.callProperty_inherited h hw hn hdata hpush hpick (fuel + 1),
    fun hn hpick => Run.callProperty_not_inherited h hw hn hdata hpush hpick (fuel + 1)⟩
  obtain ⟨f, s₁, hread, hrun⟩ :=
    Run.callProperty_inherited h hw hn hdata hpush (hfirst.firstApplicable htake) (fuel + 1)
  refine ⟨f, s₁, hread, ?_⟩
  have hfit := Signature.checkFit_of_take? htake
  have hm : (HostObject.pair p).type.virtual? m.signature = some (owner, m) := hm
  rw [hrun, Run.run_bind, Run.run_bind, Run.invoke_run hfit hm]

namespace Sample

/-- `greet()Lhost/String;`. -/
def greet : Signature := ⟨"greet", [], .string⟩

/-- A host class with two methods `greet`, one of which takes an `int`. -/
def greeter : HostType :=
  .mk { id := 10, name := "app/Greeter", modifiers := .onlyPublic,
        methods := [.native greet 2, .native { greet with params := [.primitive .int] } 2] } none []

/-- A class that overrides nothing of `greeter`. -/
def quiet : ClassRequest where
  base := some greeter
  name := some "Quiet"

/-- A class that overrides only the `greet` with a parameter. -/
def loud : ClassRequest where
  base := some greeter
  instances := some [("greet(I)Lhost/String;", .function ⟨0, some "greet", none⟩)]
  name := some "Loud"

/-- The members of `loud`. -/
def loudMembers : Members where
  instances := ⟨.instances, [], [⟨"greet(I)Lhost/String;",
    ⟨"greet", some { greet with params := [.primitive .int] }⟩, ⟨2⟩, ⟨0, some "greet", none⟩⟩], none⟩
  statics := .empty .statics

theorem parse_greet : MemberKey.parse "greet(I)Lhost/String;" =
    .ok ⟨"greet", some { greet with params := [.primitive .int] }⟩ := by decide +kernel

theorem collect_loud : Members.collect loud.instances loud.statics = .ok loudMembers := by
  have hadd : (CollectedFacet.empty .instances).add
      ("greet(I)Lhost/String;", .function ⟨0, some "greet", none⟩) = .ok loudMembers.instances := by
    simp only [CollectedFacet.add, parse_greet]
    rfl
  simp only [Members.collect, CollectedFacet.collect, loud, Option.getD_some, List.foldlM_cons, hadd]
  rfl

/-- The members of `quiet`. -/
def quietMembers : Members := ⟨.empty .instances, .empty .statics⟩

theorem collect_quiet : Members.collect quiet.instances quiet.statics = .ok quietMembers := rfl

/-- A virtual call of `greet` on an object reaches the one without parameters, no data of the object
go by its name, and a context takes calls. -/
def Greets (p : Pair) (s : Store) : Prop :=
  ((s.properties p).get? "greet").isNone ∧
    s.contexts.get? 0 = some { maxDepth := 256, nesting := 1 } ∧
    (p.type.virtual? greet).map Prod.snd = some (.native greet 2)

instance (p : Pair) (s : Store) : Decidable (Greets p s) := instDecidableAnd

theorem Greets.parts {p : Pair} {s : Store} (h : Greets p s) :
    (s.properties p).get? greet.name = none ∧
      s.contexts.pushCall 0 =
        .ok (s.contexts.update 0 fun c => { c with depth := c.depth + 1 }) ∧
      ∃ owner, p.type.virtual? greet = some (owner, .native greet 2) := by
  obtain ⟨hdata, hcontext, hvirtual⟩ := h
  refine ⟨Option.isNone_iff_eq_none.mp hdata, Contexts.pushCall_of_lt hcontext (by decide), ?_⟩
  obtain ⟨⟨owner, m⟩, hvirtual, rfl⟩ := Option.map_eq_some_iff.mp hvirtual
  exact ⟨owner, hvirtual⟩

end Sample

set_option maxRecDepth 10000 in
open Sample in
/-- An object of `quiet` greets as `greeter` does. -/
theorem quiet_greets : ∃ f p s owner g s₁, object (speaking []) quiet = some (f, p, s) ∧
    p.type.virtual? greet = some (owner, .native greet 2) ∧
    s.getProperty (.pair p) "greet" = (some (.function g), s₁) ∧
    (Run.callProperty 6 0 (.object (.pair p)) "greet" []).run s =
      Run.leave s₁ 0 ((do
        let result ← Run.keeping [.native (.pair p)]
          (Run.runMethod 3 owner (.native greet 2) (some (.pair p)) [])
        return result.box : Run ScriptValue).run
          (s₁.inside (s.contexts.update 0 fun c => { c with depth := c.depth + 1 })
            [.function g, .object (.pair p)])) := by
  have h : (object (speaking []) quiet).any (fun (_, p, s) => Greets p s ∧
      (p.type.callables "greet").head? = some (.native greet 2)) = true := by
    decide +kernel
  obtain ⟨⟨f, p, s⟩, ho, h⟩ := (Option.any_eq_true _ _).mp h
  obtain ⟨hgreets, hfirst⟩ := of_decide_eq_true h
  obtain ⟨hdata, hpush, owner, hvirtual⟩ := hgreets.parts
  obtain ⟨s₁, hgen, hp, hlater⟩ := object_some ho
  obtain ⟨ms, hms, hclass⟩ := generate_ok hgen
  cases hms.symm.trans collect_quiet
  have hclass := hclass ⟨by decide, by decide⟩
  have hw := (hclass.isOf_of_construct hp).2
  obtain ⟨after, hafter⟩ := List.head?_eq_some_iff.mp hfirst
  obtain ⟨hruns, -⟩ := inherited_methods_run_unless_hidden (m := .native greet 2)
    (hclass.later hlater) hw hvirtual (show greet.take? [] = some [] from rfl) hdata hpush 3
  have hnone : ∀ d ∈ ([] : List Method), d.signature.slot ≠ greet.slot ∧ d.signature.take? [] = none :=
    List.forall_mem_nil _
  obtain ⟨g, s₂, hread, hrun⟩ := hruns (by decide) ⟨[], after, hafter, hnone⟩
  exact ⟨f, p, s, owner, g, s₂, ho, hvirtual, hread, hrun⟩

set_option maxRecDepth 10000 in
open Sample in
/-- Overriding one overload hides the other. A virtual call of `greet()` on an object of `loud`
reaches the method of `greeter`, which `loud` does not override, but a call from script finds no
overload. -/
theorem override_hides_overload : ∃ f p s owner,
    object (speaking ["script greet(I)"]) loud = some (f, p, s) ∧
      p.type.virtual? greet = some (owner, .native greet 2) ∧ f.backing.declared? greet = none ∧
      greet.take? [] = some [] ∧ (s.properties p).get? "greet" = none ∧
      (∀ c ∈ loudMembers.instances.methods, c.accepts [] = false) ∧
      ((Run.callProperty 6 0 (.object (.pair p)) "greet" []).run s).1 =
        .error (.failed (.noMatchingOverload "hostbridge/generated/Loud" "greet" 0)) := by
  have h : (object (speaking ["script greet(I)"]) loud).any (fun (f, p, s) => Greets p s ∧
      f.backing.declared? greet = none ∧
      p.wrapper.backing = "hostbridge/generated/Loud") = true := by
    decide +kernel
  obtain ⟨⟨f, p, s⟩, ho, h⟩ := (Option.any_eq_true _ _).mp h
  obtain ⟨hgreets, hdeclared, hname⟩ := of_decide_eq_true h
  obtain ⟨hdata, hpush, owner, hvirtual⟩ := hgreets.parts
  obtain ⟨s₁, hgen, hp, hlater⟩ := object_some ho
  obtain ⟨ms, hms, hclass⟩ := generate_ok hgen
  cases hms.symm.trans collect_loud
  have hclass := hclass ⟨by decide, by decide⟩
  have hw := (hclass.isOf_of_construct hp).2
  have hrefused : ∀ c ∈ loudMembers.instances.methods, c.accepts [] = false :=
    List.forall_mem_singleton.mpr rfl
  have hrun := Run.callProperty_named (hclass.later hlater) hw
    ⟨_, List.mem_singleton_self _, rfl⟩ (fun c hc _ => hrefused c hc) hdata hpush 3
  refine ⟨f, p, s, owner, ho, hvirtual, hdeclared, rfl, hdata, hrefused, ?_⟩
  rw [← hname]
  exact congrArg Prod.fst hrun

end ScriptClass
