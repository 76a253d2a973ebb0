import ScriptClass.HostType.Basic

/-!
# Subtyping and method lookup

A virtual call reaches the declaration of the most derived class that has one.
Where no class of the chain declares the method, an interface default is taken,
and an abstract declaration only if no interface has a default.
-/

namespace ScriptClass

namespace HostType

mutual

/-- Whether objects of the type may stand where `target` is expected. Every
type is a subtype of the root class. -/
def isSubtypeOf (target : String) : HostType → Bool
  | .mk own superclass interfaces =>
    target == objectName || own.name == target || superIsSubtypeOf target superclass ||
      anyIsSubtypeOf target interfaces

def superIsSubtypeOf (target : String) : Option HostType → Bool
  | none => false
  | some t => t.isSubtypeOf target

def anyIsSubtypeOf (target : String) : List HostType → Bool
  | [] => false
  | t :: ts => t.isSubtypeOf target || anyIsSubtypeOf target ts

end

/-- The method that the type itself declares with exactly this signature. -/
def declared? (t : HostType) (s : Signature) : Option Method :=
  t.methods.find? fun m => m.signature = s

/-- The non-static method that the type itself declares. -/
def declaredVirtual? (t : HostType) (s : Signature) : Option Method :=
  (t.declared? s).filter fun m => !m.isStatic

/-- The static method that the type itself declares. -/
def declaredStatic? (t : HostType) (s : Signature) : Option Method :=
  (t.declared? s).filter Method.isStatic

/-- A method with the type that declares it. -/
abbrev Found := HostType × Method

/-- Of two finds the first, unless only the second has an implementation. -/
def prefer : Option Found → Option Found → Option Found
  | none, later => later
  | some found, none => some found
  | some found, some later =>
    if found.2.isAbstract && !later.2.isAbstract then some later else some found

mutual

/-- What an interface gives for a signature: its own declaration hides those of
its parents. -/
def virtualInInterface? (s : Signature) : HostType → Option Found
  | .mk own superclass interfaces =>
    match (HostType.mk own superclass interfaces).declaredVirtual? s with
    | some m => some (.mk own superclass interfaces, m)
    | none => virtualInInterfaces? s interfaces

/-- The first default that one of the interfaces gives, or else the first
abstract declaration. -/
def virtualInInterfaces? (s : Signature) : List HostType → Option Found
  | [] => none
  | t :: ts => prefer (t.virtualInInterface? s) (virtualInInterfaces? s ts)

end

/-- The declaration of the most derived class in the chain that has one. -/
def virtualInChain? (t : HostType) (s : Signature) : Option Found :=
  t.chain.findSome? fun c => (c.declaredVirtual? s).map fun m => (c, m)

/-- What a virtual call reaches. -/
def virtual? (t : HostType) (s : Signature) : Option Found :=
  (t.virtualInChain? s).or (virtualInInterfaces? s (t.chain.flatMap interfaces))

/-- The signatures of the methods of one name that script may call on an object
of the class: neither static nor private, one per slot, the most derived
first. -/
def callableSignatures (t : HostType) (name : String) : List Signature :=
  let all := (t.chain.flatMap methods).filter fun m =>
    m.name == name && !m.isStatic && !m.modifiers.isPrivate
  all.foldl (fun seen m =>
    if seen.any (·.slot == m.signature.slot) then seen else seen ++ [m.signature]) []

end HostType

end ScriptClass
