/-
# What can go wrong

A `Fault` is the one error type of the library. Three of its cases are denials:
they stop a render and name the concrete type of the value and the member as
the template wrote it. The others are faults of a configuration or of the
machinery, and name neither.

| fault | code |
| --- | --- |
| `methodDenied`, `typeDenied` | `METHOD_NOT_ALLOWED` |
| `propertyDenied` | `PROPERTY_NOT_ALLOWED` |
| `badConfig` | `INVALID_CONFIG` |
| `badVersion` | `UNSUPPORTED_VERSION` |
| `unknownType` | `UNKNOWN_TYPE` |
| `internal` | `INTERNAL` |

Every fault keeps its cause; the wording is in the `message` functions alone.
-/

import TemplateSandbox.Name
import TemplateSandbox.Text.Quoted

namespace TemplateSandbox

/-- The wording for a name that is unfit for a policy. -/
def NameFault.message : NameFault → String
  | .empty => "member name must not be empty"
  | .blank name => "member name must not contain whitespace: " ++ Text.quoted name

/-- The ways a policy can be wrong. -/
inductive ConfigFault where
  /-- A member name is unfit. -/
  | name (fault : NameFault)
  /-- A type is listed with no method to block. -/
  | nothingBlocked (type : String)
  /-- A list that only the legacy mode knows is used in strict mode. -/
  | legacyOnly (field : String)
  /-- The text of a policy could not be read: the format, and what its reader found. -/
  | unreadable (format : String) (why : String)
  /-- A cause that the host states in its own words. -/
  | stated (text : String)
  deriving DecidableEq

/-- The wording of a wrong policy. -/
def ConfigFault.message : ConfigFault → String
  | .name fault => fault.message
  | .nothingBlocked type => "blocked_by_type." ++ type ++ " must list at least one method"
  | .legacyOnly field => field ++ " is only valid with mode: legacy"
  | .unreadable format why => "invalid " ++ format ++ ": " ++ why
  | .stated text => text

/-- The ways the machinery itself can fail. -/
inductive InternalFault where
  /-- A policy file could not be read. -/
  | unreadableFile (path : String) (why : String)
  /-- A cause that the host states in its own words. -/
  | stated (text : String)
  deriving DecidableEq

/-- The wording of a failure of the machinery. -/
def InternalFault.message : InternalFault → String
  | .unreadableFile path why => "read policy file " ++ path ++ " failed: " ++ why
  | .stated text => text

/-- Everything that can go wrong. -/
inductive Fault where
  /-- A method call was denied. -/
  | methodDenied (type : String) (member : String)
  /-- A method call was denied because no method of the type may be called. -/
  | typeDenied (type : String) (member : String)
  /-- A property read was denied. -/
  | propertyDenied (type : String) (member : String)
  /-- A policy is wrong. -/
  | badConfig (cause : ConfigFault)
  /-- A policy has a version that is not understood. -/
  | badVersion
  /-- A policy names a type that the host never registered. -/
  | unknownType (name : String)
  /-- The machinery failed. -/
  | internal (cause : InternalFault)
  deriving DecidableEq

namespace Fault

/-- The stable code that a host is shown. -/
def code : Fault → String
  | .methodDenied .. | .typeDenied .. => "METHOD_NOT_ALLOWED"
  | .propertyDenied .. => "PROPERTY_NOT_ALLOWED"
  | .badConfig _ => "INVALID_CONFIG"
  | .badVersion => "UNSUPPORTED_VERSION"
  | .unknownType _ => "UNKNOWN_TYPE"
  | .internal _ => "INTERNAL"

/-- The wording of a fault. -/
def message : Fault → String
  | .methodDenied type member =>
    "calling \"" ++ member ++ "\" method on a \"" ++ type ++ "\" object is blocked"
  | .typeDenied type member =>
    "calling any method (\"" ++ member ++ "\" requested) on a \"" ++ type ++ "\" object is blocked"
  | .propertyDenied type member =>
    "reading \"" ++ member ++ "\" property on a \"" ++ type ++ "\" object is blocked"
  | .badConfig cause => "invalid policy config: " ++ cause.message
  | .badVersion => "unsupported policy version"
  | .unknownType name => "unknown type in policy config: " ++ name
  | .internal cause => "internal: " ++ cause.message

/-- The type and the member of a denial. -/
def denied? : Fault → Option (String × String)
  | .methodDenied type member | .typeDenied type member | .propertyDenied type member =>
    some (type, member)
  | _ => none

/-- The name of the type whose value was refused, if the fault is a denial. -/
def type? (f : Fault) : Option String := f.denied?.map Prod.fst

/-- The member as the template wrote it, if the fault is a denial. -/
def member? (f : Fault) : Option String := f.denied?.map Prod.snd

/-- Whether the fault is a denial, which is fatal to the render. -/
def isDenial (f : Fault) : Bool :=
  f.code == "METHOD_NOT_ALLOWED" || f.code == "PROPERTY_NOT_ALLOWED"

/-- A fault is a denial exactly if it names a type and a member. -/
theorem isDenial_eq_isSome_denied? (f : Fault) : f.isDenial = f.denied?.isSome := by
  cases f <;> rfl

end Fault
end TemplateSandbox
