import ScriptClass.Proofs.HostType.Closure
import ScriptClass.Proofs.HostType.Subtype

/-!
# Declarations in sight

A virtual call reaches the declaration of the most derived class that has one. Where no class has
one, the interfaces of the classes are searched upwards, and a search ends at the first declaration
on its way: what is above it is out of sight (`HostType.InSight`). So an implementation is found
exactly where one is in sight, an abstract declaration where all that are in sight are abstract, and
nothing only where there is nothing at all (`virtual_lookup_finds_what_is_in_sight`). An interface
that declares an inherited default as abstract hides the default from its heirs
(`redeclaration_hides_default`).
-/

namespace ScriptClass

namespace HostType

variable {t u : HostType} {ts : List HostType} {s : Signature} {m : Method}

/-- The type itself declares the method for the signature, and not as static. -/
def Provides (s : Signature) (t : HostType) (m : Method) : Prop :=
  m ∈ t.methods ∧ m.signature = s ∧ m.isStatic = false

/-- The type itself declares no signature twice. -/
def DeclaresOnce (t : HostType) : Prop := (t.methods.map Method.signature).Nodup

instance (t : HostType) : Decidable t.DeclaresOnce :=
  inferInstanceAs (Decidable (List.Nodup _))

/-- The interface is reached upwards past interfaces that provide nothing for the signature. -/
abbrev InSight (s : Signature) : HostType → HostType → Prop :=
  Relation.ReflTransGen fun t u => (∀ m, ¬t.Provides s m) ∧ u ∈ t.interfaces

/-- The interfaces of a class and of its superclasses, with all above them. -/
def interfaceClosure (t : HostType) : List HostType := expansion (t.chain.flatMap interfaces)

/-- The interface is in sight from one of those that the class or a superclass implements. -/
def Sees (s : Signature) (t u : HostType) : Prop := ∃ i ∈ t.chain.flatMap interfaces, i.InSight s u

/-- A type that declares the signature only once gives what it provides for it. -/
theorem declaredVirtual?_iff (h : t.DeclaresOnce) :
    t.declaredVirtual? s = some m ↔ t.Provides s m := by
  rw [declaredVirtual?_some, Provides, ← and_assoc]
  refine and_congr_left fun _ => ⟨fun hm => ?_, ?_⟩
  · exact ⟨List.mem_of_find?_eq_some hm, declared?_signature hm⟩
  · rintro ⟨hm, rfl⟩
    exact find?_of_pairwise Method.signature (List.pairwise_map.mp h) hm

theorem declaredVirtual?_eq_none_iff (h : t.DeclaresOnce) :
    t.declaredVirtual? s = none ↔ ∀ m, ¬t.Provides s m := by
  simp only [Option.eq_none_iff_forall_ne_some, ne_eq, declaredVirtual?_iff h]

/-! ## Searches among interfaces -/

theorem virtualInInterface?_of_provides (h : t.DeclaresOnce) (hm : t.Provides s m) :
    t.virtualInInterface? s = some (t, m) := by
  have hdeclared := (declaredVirtual?_iff h).mpr hm
  obtain ⟨own, superclass, interfaces⟩ := t
  rw [virtualInInterface?, hdeclared]

theorem virtualInInterface?_of_none (h : t.DeclaresOnce) (hnone : ∀ m, ¬t.Provides s m) :
    t.virtualInInterface? s = virtualInInterfaces? s t.interfaces := by
  have hdeclared := (declaredVirtual?_eq_none_iff h).mpr hnone
  obtain ⟨own, superclass, interfaces⟩ := t
  rw [virtualInInterface?, hdeclared]
  rfl

theorem prefer_eq_none_iff {a b : Option Found} : prefer a b = none ↔ a = none ∧ b = none := by
  rcases a with _ | a <;> rcases b with _ | b <;> simp only [prefer]
  · simp
  · simp
  · simp
  · split <;> simp

theorem virtualInInterfaces?_eq_none_iff :
    virtualInInterfaces? s ts = none ↔ ∀ t ∈ ts, t.virtualInInterface? s = none := by
  induction ts with
  | nil => simp [virtualInInterfaces?]
  | cons t ts ih => rw [virtualInInterfaces?, prefer_eq_none_iff, ih, List.forall_mem_cons]

theorem mem_of_virtualInInterfaces? {found : Found} (h : virtualInInterfaces? s ts = some found) :
    ∃ t ∈ ts, t.virtualInInterface? s = some found := by
  induction ts with
  | nil =>
    rw [virtualInInterfaces?] at h
    cases h
  | cons t ts ih =>
    rw [virtualInInterfaces?] at h
    rw [List.exists_mem_cons_iff]
    exact (prefer_some h).imp_right ih

/-- Several interfaces give an implementation if one of them does. -/
theorem virtualInInterfaces?_implemented_iff :
    (∃ found, virtualInInterfaces? s ts = some found ∧ found.2.isAbstract = false) ↔
      ∃ t ∈ ts, ∃ found, t.virtualInInterface? s = some found ∧ found.2.isAbstract = false := by
  constructor
  · rintro ⟨found, hfound, hdefault⟩
    obtain ⟨t, ht, h⟩ := mem_of_virtualInInterfaces? hfound
    exact ⟨t, ht, found, h, hdefault⟩
  · induction ts with
    | nil => simp
    | cons t ts ih =>
      rw [virtualInInterfaces?, List.exists_mem_cons_iff]
      exact fun h => prefer_implemented (h.imp_right ih)

/-- What is found from an interface is provided in sight of it. -/
theorem inSight_of_virtualInInterface? (t : HostType) (honce : ∀ u ∈ preorder [] t, u.DeclaresOnce)
    {found : Found} (h : t.virtualInInterface? s = some found) :
    t.InSight s found.1 ∧ found.1.Provides s found.2 := by
  rw [preorder_nil, List.forall_mem_cons] at honce
  by_cases hown : ∃ m, t.Provides s m
  · obtain ⟨m, hm⟩ := hown
    rw [virtualInInterface?_of_provides honce.1 hm] at h
    cases h
    exact ⟨.refl, hm⟩
  · rw [not_exists] at hown
    rw [virtualInInterface?_of_none honce.1 hown] at h
    obtain ⟨p, hp, h⟩ := mem_of_virtualInInterfaces? h
    have hlt := Extends.sizeOf_lt (.inr hp)
    obtain ⟨hsight, hprovides⟩ := inSight_of_virtualInInterface? p
      (fun u hu => honce.2 u (mem_preorders.mpr ⟨p, hp, hu⟩)) h
    exact ⟨.head ⟨hown, hp⟩ hsight, hprovides⟩
termination_by sizeOf t

/-- Nothing is found from an interface only where neither it nor any above it provides anything. -/
theorem virtualInInterface?_eq_none_iff (t : HostType)
    (honce : ∀ u ∈ preorder [] t, u.DeclaresOnce) :
    t.virtualInInterface? s = none ↔ ∀ u ∈ preorder [] t, ∀ m, ¬u.Provides s m := by
  rw [preorder_nil, List.forall_mem_cons] at honce
  rw [preorder_nil, List.forall_mem_cons]
  by_cases hown : ∃ m, t.Provides s m
  · obtain ⟨m, hm⟩ := hown
    rw [virtualInInterface?_of_provides honce.1 hm]
    exact ⟨nofun, fun h => absurd hm (h.1 m)⟩
  · rw [not_exists] at hown
    rw [virtualInInterface?_of_none honce.1 hown, virtualInInterfaces?_eq_none_iff,
      and_iff_right hown]
    have hparent (p : HostType) (hp : p ∈ t.interfaces) :
        p.virtualInInterface? s = none ↔ ∀ u ∈ preorder [] p, ∀ m, ¬u.Provides s m := by
      have hlt := Extends.sizeOf_lt (.inr hp)
      exact virtualInInterface?_eq_none_iff p
        fun u hu => honce.2 u (mem_preorders.mpr ⟨p, hp, hu⟩)
    rw [forall₂_congr hparent, expansion, forall_mem_preorders]
termination_by sizeOf t

/-- An implementation is found from an interface exactly where one is in sight of it. -/
theorem virtualInInterface?_implemented_iff (t : HostType)
    (honce : ∀ u ∈ preorder [] t, u.DeclaresOnce) :
    (∃ found, t.virtualInInterface? s = some found ∧ found.2.isAbstract = false) ↔
      ∃ u m, t.InSight s u ∧ u.Provides s m ∧ m.isAbstract = false := by
  rw [preorder_nil, List.forall_mem_cons] at honce
  constructor
  · rintro ⟨found, hfound, hdefault⟩
    have hseen := inSight_of_virtualInInterface? t (by simpa [preorder_nil] using honce) hfound
    exact ⟨found.1, found.2, hseen.1, hseen.2, hdefault⟩
  · rintro ⟨u, m, hsight, hm, hdefault⟩
    rcases hsight.cases_head with rfl | ⟨p, ⟨hown, hp⟩, hsight⟩
    · exact ⟨_, virtualInInterface?_of_provides honce.1 hm, hdefault⟩
    · rw [virtualInInterface?_of_none honce.1 hown, virtualInInterfaces?_implemented_iff]
      have hlt := Extends.sizeOf_lt (.inr hp)
      exact ⟨p, hp, (virtualInInterface?_implemented_iff p
        fun v hv => honce.2 v (mem_preorders.mpr ⟨p, hp, hv⟩)).mpr ⟨u, m, hsight, hm, hdefault⟩⟩
termination_by sizeOf t

theorem mem_preorder_of_inSight (h : t.InSight s u) : u ∈ preorder [] t := by
  induction h using Relation.ReflTransGen.head_induction_on with
  | refl =>
    rw [preorder_nil]
    exact List.mem_cons_self
  | head hstep _ ih =>
    rw [preorder_nil]
    exact List.mem_cons_of_mem _ (mem_preorders.mpr ⟨_, hstep.2, ih⟩)

/-! ## Lookups on a class -/

theorem virtualInChain?_eq_none (honce : ∀ c ∈ t.chain, c.DeclaresOnce)
    (hnone : ∀ c ∈ t.chain, ∀ m, ¬c.Provides s m) : t.virtualInChain? s = none := by
  refine List.findSome?_eq_none_iff.mpr fun c hc => ?_
  rw [(declaredVirtual?_eq_none_iff (honce c hc)).mpr (hnone c hc)]
  rfl

theorem virtualInChain?_of_provides (honce : ∀ c ∈ t.chain, c.DeclaresOnce)
    {before after : List HostType} {c : HostType} (hchain : t.chain = before ++ c :: after)
    (hbefore : ∀ b ∈ before, ∀ n, ¬b.Provides s n) (hc : c.Provides s m) :
    t.virtualInChain? s = some (c, m) := by
  rw [hchain] at honce
  have hself := honce c (List.mem_append_right _ List.mem_cons_self)
  refine List.findSome?_eq_some_iff.mpr ⟨before, c, after, hchain, ?_, fun b hb => ?_⟩
  · rw [(declaredVirtual?_iff hself).mpr hc]
    rfl
  · rw [(declaredVirtual?_eq_none_iff (honce b (List.mem_append_left _ hb))).mpr (hbefore b hb)]
    rfl

/-- A lookup finds what the most derived class provides that provides anything. Where no class does,
it finds nothing only if no interface above provides anything, an implementation exactly if one is
in sight, and in any case something in sight. -/
theorem virtual_lookup_finds_what_is_in_sight (honce : ∀ u ∈ t.closure [], u.DeclaresOnce) :
    (∀ before c after m, t.chain = before ++ c :: after → (∀ b ∈ before, ∀ n, ¬b.Provides s n) →
      c.Provides s m → t.virtual? s = some (c, m)) ∧
    ((∀ c ∈ t.chain, ∀ m, ¬c.Provides s m) →
      (t.virtual? s = none ↔ ∀ u ∈ t.interfaceClosure, ∀ m, ¬u.Provides s m) ∧
      ((∃ u m, t.virtual? s = some (u, m) ∧ m.isAbstract = false) ↔
        ∃ u m, t.Sees s u ∧ u.Provides s m ∧ m.isAbstract = false) ∧
      ∀ u m, t.virtual? s = some (u, m) →
        u ∈ t.interfaceClosure ∧ t.Sees s u ∧ u.Provides s m) := by
  obtain ⟨hclasses, hinterfaces⟩ := List.forall_mem_append.mp honce
  have hpreorder := forall_mem_preorders.mp hinterfaces
  refine ⟨fun before c after m hchain hbefore hc => ?_, fun hnone => ?_⟩
  · rw [virtual?, virtualInChain?_of_provides hclasses hchain hbefore hc, Option.some_or]
  have hlookup : t.virtual? s = virtualInInterfaces? s (t.chain.flatMap interfaces) := by
    rw [virtual?, virtualInChain?_eq_none hclasses hnone, Option.none_or]
  rw [hlookup]
  refine ⟨?_, ?_, fun u m h => ?_⟩
  · rw [virtualInInterfaces?_eq_none_iff, interfaceClosure, expansion, forall_mem_preorders]
    exact forall₂_congr fun i hi => virtualInInterface?_eq_none_iff i (hpreorder i hi)
  · have himplemented (i : HostType) (hi : i ∈ t.chain.flatMap interfaces) :=
      virtualInInterface?_implemented_iff (s := s) i (hpreorder i hi)
    constructor
    · rintro ⟨u, m, h, hdefault⟩
      obtain ⟨i, hi, h⟩ := mem_of_virtualInInterfaces? h
      obtain ⟨v, n, hsight, hn⟩ := (himplemented i hi).mp ⟨(u, m), h, hdefault⟩
      exact ⟨v, n, ⟨i, hi, hsight⟩, hn⟩
    · rintro ⟨u, m, ⟨i, hi, hsight⟩, hm⟩
      obtain ⟨⟨v, n⟩, h⟩ := virtualInInterfaces?_implemented_iff.mpr
        ⟨i, hi, (himplemented i hi).mpr ⟨u, m, hsight, hm⟩⟩
      exact ⟨v, n, h⟩
  · obtain ⟨i, hi, h⟩ := mem_of_virtualInInterfaces? h
    obtain ⟨hsight, hprovides⟩ := inSight_of_virtualInInterface? i (hpreorder i hi) h
    exact ⟨mem_preorders.mpr ⟨i, hi, mem_preorder_of_inSight hsight⟩, ⟨i, hi, hsight⟩, hprovides⟩

end HostType

namespace Sample

def title : Signature := ⟨"title", [], .string⟩

/-- An interface that implements `title`. -/
def titled : HostType :=
  .mk { id := 2, name := "app/Titled", modifiers := .ofInterface, methods := [.native title 0] }
    none []

/-- An interface that inherits an implementation of `title` and declares it as abstract. -/
def untitled : HostType :=
  .mk { id := 3, name := "app/Untitled", modifiers := .ofInterface, methods := [.abstract title] }
    none [titled]

def book : HostType :=
  .mk { id := 10, name := "app/Book", modifiers := .onlyPublic } none [untitled]

/-- A book that is also titled in its own right. -/
def volume : HostType :=
  .mk { id := 11, name := "app/Volume", modifiers := .onlyPublic } (some book) [titled]

theorem volume_declares_once : ∀ u ∈ volume.closure [], u.DeclaresOnce := by decide

theorem title_of_titled : titled.Provides title (.native title 0) := ⟨.head _, rfl, rfl⟩

theorem not_provides {t : HostType} (h : t.methods = []) (m : Method) : ¬t.Provides title m :=
  fun hm => List.not_mem_nil (h ▸ hm.1)

end Sample

open Sample in
/-- A volume has `titled` in sight, so that the default is found. -/
theorem volume_finds_default : (∀ u ∈ volume.closure [], u.DeclaresOnce) ∧
    ∃ u m, volume.virtual? title = some (u, m) ∧ m.isAbstract = false := by
  obtain ⟨-, hinterfaces⟩ :=
    HostType.virtual_lookup_finds_what_is_in_sight (s := title) volume_declares_once
  have hmethods : ∀ c ∈ volume.chain, c.methods = [] := by decide
  obtain ⟨-, hdefault, -⟩ := hinterfaces fun c hc => not_provides (hmethods c hc)
  exact ⟨volume_declares_once,
    hdefault.mpr ⟨titled, _, ⟨titled, .head _, .refl⟩, title_of_titled, rfl⟩⟩

open Sample in
/-- No class of a book provides `title`, an interface above it implements it, and yet the lookup
finds it abstract. -/
theorem redeclaration_hides_default : (∀ u ∈ book.closure [], u.DeclaresOnce) ∧
    (∀ c ∈ book.chain, ∀ m, ¬c.Provides title m) ∧
    (∃ m, titled ∈ book.interfaceClosure ∧ titled.Provides title m ∧ m.isAbstract = false) ∧
    ∃ m, book.virtual? title = some (untitled, m) ∧ m.isAbstract = true := by
  have hmethods : ∀ c ∈ book.chain, c.methods = [] := by decide
  refine ⟨by decide, fun c hc => not_provides (hmethods c hc), ⟨_, ?_, title_of_titled, rfl⟩,
    _, rfl, rfl⟩
  exact .tail _ (.head _)

end ScriptClass
