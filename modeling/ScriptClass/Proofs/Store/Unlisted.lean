import ScriptClass.Store.Property
import ScriptClass.Store.Reach

/-!
# Stores but for their listings

Listings leave their traces in a store: files, and the digests and paths in the records of load
units. `Store.unlisted` is the store without them. What programs read, write and hold is the same in
both, and changes of a store are made alike in both: a change of one is the change of the other,
without the traces. So stores that are `Alike` but for the traces read alike and change alike.
-/

namespace ScriptClass

/-- The record without the digest and the path of the listing. -/
def LoadRecord.unlisted (u : LoadRecord) : LoadRecord := { u with listingHash := none, path := none }

/-- The wrapper class without what its record tells of the listing. -/
def Wrapper.unlisted (c : Wrapper) : Wrapper := { c with unit := c.unit.map LoadRecord.unlisted }

namespace Store

/-- The store as if no listing had been made, where none can be written. -/
def unlisted (s : Store) : Store :=
  { s with wrappers := s.wrappers.map Wrapper.unlisted, writable := false, files := [] }

/-- The stores are the same but for listings. -/
def Alike (s s' : Store) : Prop := s.unlisted = s'.unlisted

variable {s : Store}

/-! ## Reading -/

theorem wrapper?_unlisted (s : Store) (w : WrapperRef) :
    s.unlisted.wrapper? w = (s.wrapper? w).map Wrapper.unlisted := Array.getElem?_map

theorem memberFunction_unlisted (s : Store) (w : WrapperRef) (facet : Facet) (name : String) :
    s.unlisted.memberFunction w facet name =
      ((s.memberFunction w facet name).1, (s.memberFunction w facet name).2.unlisted) := by
  simp only [memberFunction, wrapper?_unlisted]
  cases s.wrapper? w with
  | none => rfl
  | some c =>
    dsimp only [Option.map_some, Wrapper.unlisted]
    split <;> rfl

theorem hostFunction_unlisted (s : Store) (t : HostType) (name : String) :
    s.unlisted.hostFunction t name =
      ((s.hostFunction t name).1, (s.hostFunction t name).2.unlisted) := by
  simp only [hostFunction]
  split <;> rfl

theorem getProperty_unlisted (s : Store) (o : ScriptObject) (name : String) :
    s.unlisted.getProperty o name =
      ((s.getProperty o name).1, (s.getProperty o name).2.unlisted) := by
  cases o with
  | plain id => rfl
  | pair p =>
    have hdata : s.unlisted.properties p = s.properties p := rfl
    simp only [getProperty, hdata, memberFunction_unlisted]
    cases (s.properties p).get? name with
    | some v => rfl
    | none =>
      rcases s.memberFunction p.wrapper .instances name with ⟨_ | f, t⟩
      · simp only [hostFunction_unlisted]
      · rfl
  | facet f =>
    have hdata : (s.unlisted.wrapper? f.wrapper).bind (·.plan.classData? name) =
        (s.wrapper? f.wrapper).bind (·.plan.classData? name) := by
      rw [wrapper?_unlisted, Option.bind_map]
      rfl
    simp only [getProperty, hdata, memberFunction_unlisted]
    split <;> rfl

theorem putProperty_unlisted (s : Store) (o : ScriptObject) (name : String) (v : ScriptValue) :
    s.unlisted.putProperty o name v = (s.putProperty o name v).map unlisted := by
  cases o with
  | plain id => rfl
  | pair p =>
    have hid : (s.unlisted.wrapper? p.wrapper).map (fun c => c.plan.findId .instances name) =
        (s.wrapper? p.wrapper).map fun c => c.plan.findId .instances name := by
      rw [wrapper?_unlisted, Option.map_map]
      rfl
    simp only [putProperty, hid]
    split <;> rfl
  | facet f => rfl

/-! ## Holding -/

theorem held_unlisted (s : Store) : s.unlisted.held = s.held := by
  funext x
  cases x with
  | wrapper w =>
    simp only [held, wrapper?_unlisted, Option.map_map]
    rfl
  | _ => rfl

/-- What is reached depends on what things hold only, as far as the fuel goes. -/
theorem reachFrom_congr {s' : Store} (h : s'.held = s.held) (fuel : Nat) :
    s'.reachFrom fuel = s.reachFrom fuel := by
  induction fuel with
  | zero => rfl
  | succ fuel ih =>
    funext seen met
    rw [reachFrom, reachFrom, h, ih]

theorem reach_unlisted (s : Store) : s.unlisted.reach = s.reach := by
  have hpopulation : s.unlisted.population = s.population := by
    simp only [population, unlisted, Array.size_map]
  funext roots
  rw [reach, reach, hpopulation, reachFrom_congr s.held_unlisted]

theorem isHeld_unlisted (s : Store) : s.unlisted.isHeld = s.isHeld := by
  funext x
  rw [isHeld, reach_unlisted]
  rfl

theorem unload_unlisted (s : Store) (held : List Holding.Key) :
    s.unlisted.unload held = (s.unload held).unlisted := by
  simp only [unload, unlisted, Array.map_map]
  rfl

/-! ## Changing -/

theorem updateWrapper_unlisted (s : Store) (w : WrapperRef) {f f' : Wrapper → Wrapper}
    (hf : ∀ c, f' c.unlisted = (f c).unlisted) :
    s.unlisted.updateWrapper w f' = (s.updateWrapper w f).unlisted := by
  have hwrappers : (s.wrappers.map Wrapper.unlisted).modify w.id f' =
      (s.wrappers.modify w.id f).map Wrapper.unlisted := by
    refine Array.ext_getElem? fun i => ?_
    simp only [Array.getElem?_modify, Array.getElem?_map]
    split
    · simp only [Option.map_map]
      exact congrArg (fun g => s.wrappers[i]?.map g) (funext hf)
    · rfl
  simp only [updateWrapper, unlisted, hwrappers]

theorem register_unlisted (s : Store) (t : HostType) :
    s.unlisted.register t = ((s.register t).1, (s.register t).2.unlisted) := by
  have hregistry : s.unlisted.registry = s.registry := rfl
  simp only [register, hregistry]
  split <;> rfl

/-! ## Stores that are alike -/

namespace Alike

variable {s' : Store}

/-- What is read alike in a store without listings is read alike in stores that are alike. -/
theorem read {α : Type} {f : Store → α} (hf : ∀ s : Store, f s.unlisted = f s) (h : s.Alike s') :
    f s = f s' :=
  (hf s).symm.trans ((congrArg f h).trans (hf s'))

/-- What is done alike in a store without listings is done alike in stores that are alike. -/
theorem change {f : Store → Store} (hf : ∀ s : Store, f s.unlisted = (f s).unlisted)
    (h : s.Alike s') : (f s).Alike (f s') :=
  (hf s).symm.trans ((congrArg f h).trans (hf s'))

/-- Answers that are one and the same without listings are the same, and leave stores that are
alike. -/
theorem of_answers {α : Type} {a b a' b' : α × Store} (ha : a' = (a.1, a.2.unlisted))
    (hb : b' = (b.1, b.2.unlisted)) (h : a' = b') : a.1 = b.1 ∧ a.2.Alike b.2 :=
  Prod.mk.inj (ha.symm.trans (h.trans hb))

theorem wrapper? (h : s.Alike s') (w : WrapperRef) :
    (s.wrapper? w).map Wrapper.unlisted = (s'.wrapper? w).map Wrapper.unlisted := by
  rw [← wrapper?_unlisted, ← wrapper?_unlisted, h]

end Alike

end Store

end ScriptClass
