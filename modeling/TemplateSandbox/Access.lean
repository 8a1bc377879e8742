/-
# Accesses and decisions

A template asks for one member of one value at a time: an `Access`. A policy
answers with a `Decision`, which either allows it or gives a `Denial`: the
names involved, as they were written, and a reason. A denial holds names only,
never a part of the value.
-/

import TemplateSandbox.Target
import TemplateSandbox.Fault

namespace TemplateSandbox

/-- How a policy treats what it does not list. -/
inductive Mode where
  /-- Unlisted methods are denied. -/
  | strict
  /-- Unlisted members are allowed. -/
  | legacy
  deriving DecidableEq

/-- The word for a mode in policies and events. -/
def Mode.label : Mode → String
  | .strict => "strict"
  | .legacy => "legacy"

/-- What a template does with a member. -/
inductive Kind where
  /-- It calls a method. -/
  | method
  /-- It reads a property. -/
  | property
  deriving DecidableEq

/-- The word for a kind in events. -/
def Kind.label : Kind → String
  | .method => "method"
  | .property => "property"

/-- Why an access was denied. -/
inductive Reason where
  /-- Nothing admits the member. -/
  | notAllowListed
  /-- The member is blocked on a type the value is an instance of. -/
  | blockedForType
  /-- Every method of a type the value is an instance of is blocked. -/
  | blockedType
  /-- The member is blocked on every value. -/
  | blockedName
  /-- The property is blocked on every value. -/
  | blockedProperty
  deriving DecidableEq

/-- The word for a reason in events. -/
def Reason.label : Reason → String
  | .notAllowListed => "not_allow_listed"
  | .blockedForType => "blocked_for_type"
  | .blockedType => "blocked_type"
  | .blockedName => "blocked_name"
  | .blockedProperty => "blocked_property"

/-- One member of one value that a template asks for. -/
structure Access where
  /-- The value. -/
  target : Target
  /-- The member, as the template wrote it. -/
  member : String
  /-- What is done with the member. -/
  kind : Kind

namespace Access

/-- The call of a method. -/
def method (target : Target) (member : String) : Access := ⟨target, member, .method⟩

/-- The read of a property. -/
def property (target : Target) (member : String) : Access := ⟨target, member, .property⟩

/-- The folded name of the member that is asked for. -/
def name (a : Access) : MemberName := .fold a.member

/-- An access as it is shown to people. -/
def describe (a : Access) : String :=
  "MemberAccess \x7b type: " ++ a.target.type.describe ++ ", member: " ++
    Text.quoted a.member ++ ", kind: " ++
    (match a.kind with | .method => "Method" | .property => "Property") ++ " \x7d"

end Access

/-- The details of a denied access. -/
structure Denial where
  /-- The name of the concrete type of the value. -/
  typeName : String
  /-- The member, as the template wrote it. -/
  member : String
  /-- What was to be done with it. -/
  kind : Kind
  /-- Why it was denied. -/
  reason : Reason
  deriving DecidableEq

/-- The denial of an access for a reason. -/
def Access.denial (a : Access) (reason : Reason) : Denial :=
  ⟨a.target.type.name, a.member, a.kind, reason⟩

/-- The fault that stops a render on a denial. -/
def Denial.toFault (d : Denial) : Fault :=
  match d.kind, d.reason with
  | .property, _ => .propertyDenied d.typeName d.member
  | .method, .blockedType => .typeDenied d.typeName d.member
  | .method, _ => .methodDenied d.typeName d.member

/-- The answer of a policy to an access. -/
inductive Decision where
  /-- The access goes ahead. -/
  | allowed
  /-- The access is stopped. -/
  | denied (denial : Denial)
  deriving DecidableEq

namespace Decision

/-- Whether the access goes ahead. -/
def isAllowed : Decision → Bool
  | .allowed => true
  | .denied _ => false

/-- Why the access is stopped, if it is. -/
def reason? : Decision → Option Reason
  | .allowed => none
  | .denied d => some d.reason

/-- A decision as the outcome of a check. -/
def toExcept : Decision → Except Fault Unit
  | .allowed => .ok ()
  | .denied d => .error d.toFault

/-- The decision that denies `a` for the reason found, and allows it if there is none. -/
def ofReason? (a : Access) : Option Reason → Decision
  | none => .allowed
  | some reason => .denied (a.denial reason)

end Decision
end TemplateSandbox
