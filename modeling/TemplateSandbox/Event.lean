/-
# Events

What the library reports to the log of its host. Nothing is written anywhere:
an operation that reports returns its value together with the events, in order
(`Logged`), and the host decides what becomes of them.
-/

import TemplateSandbox.Access

namespace TemplateSandbox

/-- How much an event matters. -/
inductive Level where
  /-- Of use when looking for an error. -/
  | debug
  /-- Part of normal work. -/
  | info
  /-- Worth a look. -/
  | warn
  deriving DecidableEq

/-- The word for a level. -/
def Level.label : Level → String
  | .debug => "DEBUG"
  | .info => "INFO"
  | .warn => "WARN"

/-- Something that happened. -/
inductive Event where
  /-- A check under a policy of this mode denied an access. -/
  | accessDenied (mode : Mode) (denial : Denial)
  /-- A registered name was given to another type. -/
  | typeReplaced (name : String) (previous : TypeTag) (now : TypeTag)
  /-- A policy was loaded; it lists so many presets and trusted types. -/
  | policyLoaded (mode : Mode) (presets : Nat) (trustedTypes : Nat)
  /-- A strict policy was given rules that only the legacy mode knows. -/
  | legacyRulesIgnored
  /-- A policy that allows what it does not list went into use. -/
  | legacyActive
  /-- A sandbox is ready for use. -/
  | ready (mode : Mode)
  /-- A sandbox that uses a policy of the host is ready for use. -/
  | readyWithHostPolicy (mode : Mode)

namespace Event

/-- The level of an event. -/
def level : Event → Level
  | .accessDenied .. | .typeReplaced .. | .legacyRulesIgnored | .legacyActive => .warn
  | .policyLoaded .. => .debug
  | .ready _ | .readyWithHostPolicy _ => .info

/-- The wording of an event. -/
def message : Event → String
  | .accessDenied .. => "sandbox denied template member access"
  | .typeReplaced .. => "type registry entry replaced"
  | .policyLoaded .. => "policy file loaded"
  | .legacyRulesIgnored => "blocked types/properties are ignored by the strict policy"
  | .legacyActive => "legacy sandbox policy active: unlisted members are allowed"
  | .ready _ => "template sandbox ready"
  | .readyWithHostPolicy _ => "template sandbox ready (custom policy)"

/-- The value of a field of an event. -/
inductive Field where
  /-- A text. -/
  | text (s : String)
  /-- A count. -/
  | count (n : Nat)
  deriving DecidableEq

/-- The named fields of an event. -/
def fields : Event → List (String × Field)
  | .accessDenied mode d =>
    [("mode", .text mode.label), ("type_name", .text d.typeName), ("member", .text d.member),
     ("kind", .text d.kind.label), ("reason", .text d.reason.label)]
  | .typeReplaced name previous now =>
    [("name", .text name), ("previous", .text previous.name), ("now", .text now.name)]
  | .policyLoaded mode presets trustedTypes =>
    [("mode", .text mode.label), ("presets", .count presets),
     ("trusted_types", .count trustedTypes)]
  | .legacyRulesIgnored | .legacyActive => []
  | .ready mode | .readyWithHostPolicy mode => [("mode", .text mode.label)]

end Event

/-- A value and the events that arose on the way to it, in order. -/
structure Logged (α : Type) where
  /-- The value. -/
  value : α
  /-- The events. -/
  events : List Event

namespace Logged

/-- A value that was reached in silence. -/
def silent {α : Type} (a : α) : Logged α := ⟨a, []⟩

/-- Goes on from a value; the events of both steps follow one another. -/
def andThen {α β : Type} (x : Logged α) (f : α → Logged β) : Logged β :=
  ⟨(f x.value).value, x.events ++ (f x.value).events⟩

@[simp] theorem value_andThen {α β : Type} (x : Logged α) (f : α → Logged β) :
    (x.andThen f).value = (f x.value).value := rfl

@[simp] theorem events_andThen {α β : Type} (x : Logged α) (f : α → Logged β) :
    (x.andThen f).events = x.events ++ (f x.value).events := rfl

end Logged
end TemplateSandbox
