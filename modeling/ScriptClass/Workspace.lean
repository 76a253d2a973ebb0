import ScriptClass.Store.Reach
import ScriptClass.Run.Call
import ScriptClass.Generation.Request

/-!
# Workspaces

A workspace is a store together with the handles that its user keeps, each under
a name. What no handle reaches, and no strongly registered type, is unloaded
when the workspace settles, which it does between any two operations. Guards and
call frames that the user keeps belong to the current thread.
-/

namespace ScriptClass

/-- A thing that a user keeps. -/
inductive Handle where
  | type (t : HostType)
  | facet (f : StaticFacet)
  | pair (p : Pair)
  | host (v : HostValue)
  | script (v : ScriptValue)
  /-- A type that is not held by the handle; nothing once it is unloaded. -/
  | weak (t : Option HostType)
  | loaded (l : LoadedClass)
  | wrapper (w : WrapperRef)

namespace Handle

/-- The things that a handle holds. -/
def holdings : Handle → List Holding
  | .type t => [.type t]
  | .facet f => [.facet f]
  | .pair p => [.pair p]
  | .host v => v.holdings
  | .script v => v.holdings
  | .weak _ => []
  | .loaded l => [.type l.backing, .wrapper l.wrapper]
  | .wrapper w => [.wrapper w]

/-- The script view of a handle. -/
def script? : Handle → Option ScriptValue
  | .facet f => some (.object (.facet f))
  | .pair p => some (.object (.pair p))
  | .host v => some v.box
  | .script v => some v
  | _ => none

/-- The host object of a handle. -/
def object? : Handle → Option HostObject
  | .pair p => some (.pair p)
  | .host v => v.object?
  | .script v => v.host?
  | _ => none

/-- The host view of a handle. -/
def host? : Handle → Option HostValue
  | .host v => some v
  | h => h.object?.map .object

/-- The object of a generated class. -/
def pair? (h : Handle) : Option Pair := h.object?.bind HostObject.pair?

/-- The script object of a handle. -/
def scriptObject? (h : Handle) : Option ScriptObject := h.script?.bind ScriptValue.object?

/-- The static facet of a handle. -/
def facet? (h : Handle) : Option StaticFacet :=
  match h.scriptObject? with
  | some (.facet f) => some f
  | _ => none

/-- The host type of a handle: the type itself, the host side of a generated
class, or the class of an object. -/
def type? (h : Handle) : Option HostType :=
  match h with
  | .type t => some t
  | .loaded l => some l.backing
  | .weak t => t
  | .wrapper _ => none
  | h =>
    match h.facet? with
    | some f => some f.backing
    | none => h.object?.map HostObject.type

/-- The wrapper class of a handle. -/
def wrapper? (h : Handle) : Option WrapperRef :=
  match h with
  | .wrapper w => some w
  | .loaded l => some l.wrapper
  | h =>
    match h.facet? with
    | some f => some f.wrapper
    | none => h.pair?.map Pair.wrapper

/-- Lets go of a type that is not among the things held. -/
def unload (held : List Holding.Key) : Handle → Handle
  | .weak t => .weak (t.filter fun t => held.contains (.type t.id))
  | h => h

/-- A weak handle in diagnostics. -/
def debugWeak : Option HostType → String
  | some t => "WeakTypeRef(" ++ t.name ++ ")"
  | none => "WeakTypeRef(<unloaded>)"

/-- A handle in diagnostics, the thing and what stands behind it. -/
def debug (s : Store) : Handle → String
  | .type t => t.debugRef ++ " " ++ t.debug
  | .facet f => f.debug ++ " " ++ ((s.wrapper? f.wrapper).map Wrapper.debug).getD ""
  | .pair p => p.debug s ++ " " ++ (HostObject.pair p).debug
  | .host v => v.debug
  | .script v => v.debug
  | .weak t => debugWeak t
  | .loaded l =>
    let unit := ((s.wrapper? l.wrapper).bind Wrapper.unit).map LoadRecord.debug
    l.debug s ++ " " ++ Text.optionText unit
  | .wrapper w => ((s.wrapper? w).map Wrapper.debug).getD ""

end Handle

/-- A store and the handles that its user keeps. -/
structure Workspace where
  store : Store := .initial
  config : Config := {}
  handles : List (String × Handle) := []
  /-- The guards of the current thread, the newest first. -/
  guards : List Nat := []
  /-- The call frames of the current thread, the newest first. -/
  frames : List Nat := []

namespace Workspace

/-- The handle of a name. Two names are always there, `$object` and `$string`,
for the built-in classes. -/
def handle? (w : Workspace) (name : String) : Option Handle :=
  if name = "$object" then some (.type w.store.registry.object)
  else if name = "$string" then some (.type w.store.registry.string)
  else w.handles.lookup name

/-- Keeps a handle under a name, and lets go of what was kept there. -/
def keep (w : Workspace) (name : String) (h : Handle) : Workspace :=
  { w with handles := (name, h) :: w.handles.filter (·.1 != name) }

/-- Lets go of a handle; says whether there was one. -/
def release (w : Workspace) (name : String) : Bool × Workspace :=
  (w.handles.any (·.1 == name), { w with handles := w.handles.filter (·.1 != name) })

/-- All that is held, by handles or by the registry. -/
def held (w : Workspace) : List Holding.Key :=
  w.store.reach (w.handles.flatMap (·.2.holdings) ++ w.store.registryRoots)

/-- Unloads what is not held any more. -/
def settle (w : Workspace) : Workspace :=
  let held := w.held
  { w with
    store := w.store.unload held
    handles := w.handles.map fun (name, h) => (name, h.unload held) }

/-- Runs a part on the store, while the handles are kept. -/
def run {α : Type} (w : Workspace) (part : Run α) : Except Halt α × Workspace :=
  let (r, store) := part.run { w.store with roots := w.handles.flatMap (·.2.holdings) }
  (r, { w with store := { store with roots := [] } })

/-! ## Threads and contexts -/

/-- Enters a context on the current thread and keeps the guard. -/
def enter (w : Workspace) (maxDepth : Nat) : Nat × Workspace :=
  let (id, contexts) := w.store.contexts.enter maxDepth
  (id, { w with store := { w.store with contexts }, guards := id :: w.guards })

def leaveContext (w : Workspace) (id : Nat) : Workspace :=
  { w with store := { w.store with contexts := w.store.contexts.leave id } }

/-- Drops the newest guard; says whether there was one. -/
def exitNewest (w : Workspace) : Bool × Workspace :=
  match w.guards with
  | [] => (false, w)
  | id :: guards => (true, { w.leaveContext id with guards })

/-- Drops the oldest guard; says whether there was one. -/
def exitOldest (w : Workspace) : Bool × Workspace :=
  match w.guards.getLast? with
  | none => (false, w)
  | some id => (true, { w.leaveContext id with guards := w.guards.dropLast })

/-- Enters a script call, keeps its frame and gives the depth. -/
def pushFrame (w : Workspace) : Except RuntimeError Nat × Workspace :=
  match w.store.contexts.current with
  | .error e => (.error e, w)
  | .ok id =>
    match w.store.contexts.pushCall id with
    | .error e => (.error e, w)
    | .ok contexts =>
      (.ok (contexts.depth id),
        { w with store := { w.store with contexts }, frames := id :: w.frames })

/-- Drops the newest call frame; says whether there was one. -/
def popFrame (w : Workspace) : Bool × Workspace :=
  match w.frames with
  | [] => (false, w)
  | id :: frames =>
    let contexts := w.store.contexts.popCall id
    (true, { w with store := { w.store with contexts }, frames })

/-- Runs a part on another thread, in a context with this limit or in none. The
thread's guards and frames end with it. -/
def onThread {α : Type} (w : Workspace) (maxDepth : Option Nat)
    (part : Workspace → α × Workspace) : α × Workspace :=
  let start (active : Option Nat) (w : Workspace) : Workspace :=
    { w with
      store := { w.store with contexts := { w.store.contexts with active } }
      guards := [], frames := [] }
  let fresh := start none w
  -- the guard of the thread's own context is not the user's to drop
  let fresh :=
    match maxDepth with
    | some limit => { (fresh.enter limit).2 with guards := [] }
    | none => fresh
  let (r, after) := part fresh
  (r, { start w.store.contexts.active after with guards := w.guards, frames := w.frames })

end Workspace

end ScriptClass
