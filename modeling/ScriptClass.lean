import ScriptClass.Workspace
import ScriptClass.Config.Reader
import ScriptClass.Proofs.Descriptor.Reading
import ScriptClass.Proofs.Signature
import ScriptClass.Proofs.Run.Basic
import ScriptClass.Proofs.Store.History
import ScriptClass.Proofs.Run.History
import ScriptClass.Proofs.Dispatch.Table
import ScriptClass.Proofs.Member.Collection
import ScriptClass.Proofs.Override.Binding
import ScriptClass.Proofs.Generation.ClassPlan
import ScriptClass.Proofs.Generation.Request
import ScriptClass.Proofs.Run.Dispatch
import ScriptClass.Proofs.Forwarding
import ScriptClass.Proofs.Dispatch.NameIndex
import ScriptClass.Proofs.MemberFunction
import ScriptClass.Proofs.HostType.Ancestors
import ScriptClass.Proofs.Override.Abstract
import ScriptClass.Proofs.AbstractCall
import ScriptClass.Proofs.Member.Key
import ScriptClass.Proofs.Registry.LiveTypes
import ScriptClass.Proofs.Registry.Refinement
import ScriptClass.Proofs.HostType.Subtype
import ScriptClass.Proofs.Generation.Success
import ScriptClass.Proofs.Member.Acceptance
import ScriptClass.Proofs.Value.RoundTrip
import ScriptClass.Proofs.Number.Rounding
import ScriptClass.Proofs.Value.Conversion
import ScriptClass.Proofs.Generation.MemberIds
import ScriptClass.Proofs.Generation.MemberNames
import ScriptClass.Proofs.WrittenOrder
import ScriptClass.Proofs.RequestedOrder
import ScriptClass.Proofs.Lifetime
import ScriptClass.Proofs.Thread
import ScriptClass.Proofs.Generation.Registration
import ScriptClass.Proofs.Origin
import ScriptClass.Proofs.ObjectData
import ScriptClass.Proofs.Registry.Assignability
import ScriptClass.Proofs.Value.Argument
import ScriptClass.Proofs.InheritedMethod
import ScriptClass.Proofs.StaticFacet
import ScriptClass.Proofs.Listing
import ScriptClass.Proofs.HostType.Closure
import ScriptClass.Proofs.Override.FirstDeclarations
import ScriptClass.Proofs.HostType.InSight
import ScriptClass.Proofs.Override.Account
import ScriptClass.Proofs.Conformance
import ScriptClass.Proofs.Value.Root
import ScriptClass.Proofs.Value.Integer
import ScriptClass.Proofs.Overload
import ScriptClass.Proofs.Value.Numeral
import ScriptClass.Proofs.Value.Equality
import ScriptClass.Proofs.MemberAnswers
import ScriptClass.Proofs.Override.Access
import ScriptClass.Proofs.Dispatch.Numbering
import ScriptClass.Proofs.Hash.TypeHash
import ScriptClass.Scanner
import ScriptClass.Proofs.Text.Bytes
import ScriptClass.Proofs.Scanner
