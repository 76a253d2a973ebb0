import ScriptClass.Error

/-!
# Script contexts

Script code runs only in a context. A thread enters one, and entering again
nests in the context that is active; the thread leaves it with the last guard.
A context counts the nested script calls and refuses one beyond its limit.
-/

namespace ScriptClass

/-- The state of a context. -/
structure Context where
  maxDepth : Nat
  /-- Live call frames. -/
  depth : Nat := 0
  /-- Live guards. -/
  nesting : UInt32 := 0
  deriving DecidableEq, Repr

namespace Context

/-- The limit on nested script calls where none is given. -/
def defaultMaxDepth : Nat := 256

def debug (c : Context) : String :=
  let options := Text.recordText "ContextOptions" [("max_call_depth", toString c.maxDepth)]
  Text.recordText "ScriptContext"
    [("options", options), ("depth", toString c.depth), ("nesting", toString c.nesting)]

/-- The count of guards when one is dropped; it does not go below zero. -/
def guardsLeft (c : Context) : UInt32 := if c.nesting = 0 then 0 else c.nesting - 1

def debugGuard (c : Context) : String := "ContextGuard(" ++ c.debug ++ ")"

end Context

/-- The contexts of all threads, and the one that the current thread is in. -/
structure Contexts where
  all : Array Context := #[]
  active : Option Nat := none
  deriving DecidableEq, Repr

namespace Contexts

def get? (cs : Contexts) (id : Nat) : Option Context := cs.all[id]?

def update (cs : Contexts) (id : Nat) (f : Context → Context) : Contexts :=
  { cs with all := cs.all.modify id f }

/-- The context that the thread is in. -/
def current (cs : Contexts) : Except RuntimeError Nat :=
  match cs.active with
  | some id => .ok id
  | none => .error .noActiveContext

/-- Enters a context and gives its number, which stands for the guard. The limit
counts only for a thread that is in no context yet. The count of guards wraps
around. -/
def enter (cs : Contexts) (maxDepth : Nat) : Nat × Contexts :=
  match cs.active with
  | some id => (id, cs.update id fun c => { c with nesting := c.nesting + 1 })
  | none =>
    let id := cs.all.size
    (id, { all := cs.all.push { maxDepth, nesting := 1 }, active := some id })

/-- Drops a guard of a context. With the last guard the thread is in no context
any more. -/
def leave (cs : Contexts) (id : Nat) : Contexts :=
  let nesting := ((cs.get? id).map Context.guardsLeft).getD 0
  let cs := cs.update id fun c => { c with nesting }
  if nesting = 0 then { cs with active := none } else cs

/-- Enters a script call. -/
def pushCall (cs : Contexts) (id : Nat) : Except RuntimeError Contexts :=
  match cs.get? id with
  | none => .error .noActiveContext
  | some c =>
    if c.maxDepth ≤ c.depth then .error (.stackOverflow c.maxDepth)
    else .ok (cs.update id fun c => { c with depth := c.depth + 1 })

/-- Drops a call frame of a context. -/
def popCall (cs : Contexts) (id : Nat) : Contexts :=
  cs.update id fun c => { c with depth := c.depth - 1 }

/-- The depth of nested calls in a context. -/
def depth (cs : Contexts) (id : Nat) : Nat := ((cs.get? id).map Context.depth).getD 0

end Contexts

end ScriptClass
