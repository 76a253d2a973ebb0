import ScriptClass.Proofs.Generation.Registration
import ScriptClass.Proofs.Lifetime
import ScriptClass.Proofs.Workspace.Blind

/-!
# Listings are a side channel

A request comes to the same whether its listing is made or not and whether it can be written or not:
it is granted or refused alike, with the same static facet, the registry answers alike, and whatever
the user does from then on has the same outcome (`listings_are_a_side_channel`). The request leaves
its listing in the record of the load unit and in the files, and rendering it never goes astray.
-/

namespace ScriptClass

/-- What is to become of listings. -/
structure ListingMode where
  /-- Whether they are made. -/
  development : Bool
  /-- Where they are to be written. -/
  dir : String
  /-- Whether they can be written there. -/
  writable : Bool

namespace ListingMode

def off : ListingMode := ⟨false, "extended-classes", true⟩

def listing : ListingMode := ⟨true, "extended-classes", true⟩

def blocked : ListingMode := ⟨true, "extended-classes", false⟩

end ListingMode

namespace Workspace

/-- The workspace under a way of treating listings. -/
def under (W : Workspace) (m : ListingMode) : Workspace :=
  { W with
    config := { W.config with development := m.development, listingDir := m.dir }
    store := { W.store with writable := m.writable } }

theorem alike_under (W : Workspace) (m n : ListingMode) : (W.under m).Alike (W.under n) :=
  ⟨rfl, rfl, rfl, rfl, rfl⟩

/-- All that can be asked is answered alike, and all else that is there is the same but for
listings. -/
structure Agrees (W V : Workspace) : Prop where
  alike : W.Alike V
  registry : W.store.registry = V.store.registry
  /-- Wrapper classes have the same contents, and records that tell the same but for listings. -/
  wrapper (w : WrapperRef) :
    (W.store.wrapper? w).map Wrapper.unlisted = (V.store.wrapper? w).map Wrapper.unlisted
  request (r : ClassRequest) : (W.extend r).1 = (V.extend r).1
  program {α : Type} {x : Run α} (hx : Run.Program x) : (W.run x).1 = (V.run x).1

theorem Alike.agrees {W V : Workspace} (h : W.Alike V) : W.Agrees V where
  alike := h
  registry := h.store.read fun _ => rfl
  wrapper := h.store.wrapper?
  request r := (h.extend r).1
  program hx := (h.run hx.blind).1

end Workspace

open Workspace

/-- However listings are treated, a request has the same answer, and what the user does with it from
then on has the same outcome. A request that is granted leaves its listing, and no more of it than
`Store.Listed` says; one that is refused leaves none. Listings of planned classes can be
rendered. -/
theorem listings_are_a_side_channel (W : Workspace) (m n : ListingMode) (r : ClassRequest) :
    (((W.under m).extend r).1 = ((W.under n).extend r).1 ∧
      ((W.under m).extend r).2.Agrees ((W.under n).extend r).2) ∧
    (∀ handles V, Evolves { ((W.under m).extend r).2 with handles } V →
      ∃ V', Evolves { ((W.under n).extend r).2 with handles } V' ∧ V.Agrees V') ∧
    (∀ f V, (W.under m).extend r = (.ok f, V) →
      ∃ ms, r.collect W.store.registry (r.base.getD W.store.registry.object)
          (W.config.nameFor r.name (W.store.generations + 1)) = .ok ms ∧
        let pair := ClassPair.ofMembers (W.config.nameFor r.name (W.store.generations + 1))
          (r.base.getD W.store.registry.object) r.interfaces ms
        (W.under m).store.Listed (W.under m).config (W.store.generations + 1).toNat pair.host
          pair.script f.wrapper V.store) ∧
    (∀ e V, (W.under m).extend r = (.error e, V) →
      V.store.files = W.store.files ∧ V.store.wrappers = W.store.wrappers) ∧
    ∀ name ms, (WrapperPlan.ofMembers name ms).Renders := by
  obtain ⟨hanswer, halike⟩ := (W.alike_under m n).extend r
  refine ⟨⟨hanswer, halike.agrees⟩, fun handles V hevolves => ?_, fun f V hok => ?_,
    fun e V herror => ?_, WrapperPlan.renders_ofMembers⟩
  · have hkept : Workspace.Alike { ((W.under m).extend r).2 with handles }
        { ((W.under n).extend r).2 with handles } :=
      ⟨halike.store, halike.config, rfl, halike.guards, halike.frames⟩
    obtain ⟨V', hevolves', h⟩ := hevolves.alike hkept
    exact ⟨V', hevolves', h.agrees⟩
  · obtain ⟨hgranted, rfl⟩ := Prod.mk.inj hok
    exact Store.generate_listed (Prod.ext hgranted rfl)
  · obtain ⟨hrefused, rfl⟩ := Prod.mk.inj herror
    have hstore : ((W.under m).extend r).2.store = _ := Store.generate_error (Prod.ext hrefused rfl)
    exact ⟨(congrArg Store.files hstore).trans rfl, (congrArg Store.wrappers hstore).trans rfl⟩

open Temp in
/-- A class is requested in the three ways: its listing is written in one of them. -/
theorem temp_comes_the_same : ∃ f, (∀ m, ((start.under m).extend request).1 = .ok f) ∧
    ((start.under .off).extend request).2.store.files = [] ∧
      ((start.under .blocked).extend request).2.store.files = [] ∧
        ∃ text, ((start.under .listing).extend request).2.store.files =
          [("extended-classes/Object_1.txt", text)] := by
  obtain ⟨f, s, hgenerate⟩ := granted
  have hlisting : ((start.under .listing).extend request).1 = .ok f := congrArg Prod.fst hgenerate
  have hanswer (m : ListingMode) : ((start.under m).extend request).1 = .ok f :=
    (listings_are_a_side_channel start m .listing request).1.1.trans hlisting
  have hfiles (m : ListingMode) := (listings_are_a_side_channel start m m request).2.2.1 f _
    (Prod.ext (hanswer m) rfl)
  refine ⟨f, hanswer, ?_, ?_, ?_⟩
  · obtain ⟨ms, -, hlisted⟩ := hfiles .off
    rw [hlisted.files]
    rfl
  · obtain ⟨ms, -, hlisted⟩ := hfiles .blocked
    rw [hlisted.files]
    rfl
  · obtain ⟨ms, -, hlisted⟩ := hfiles .listing
    have hname : isWritableName (listingFile rootClass.simpleName 1) = true := by decide +kernel
    have hpath : "extended-classes" ++ "/" ++ listingFile rootClass.simpleName 1 =
        "extended-classes/Object_1.txt" := by decide +kernel
    rw [hlisted.files, Store.written?_of_writable]
    · exact ⟨_, congrArg (fun path => [(path, _)]) hpath⟩
    · rfl
    · rfl
    · exact hname

end ScriptClass
