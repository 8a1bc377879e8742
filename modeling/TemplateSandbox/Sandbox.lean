/-
# Sandboxes

A `Sandbox` is what renders consult: one policy, chosen when the template
subsystem starts. `Sandbox.start` picks the engine of a mode and says so in the
log; `Sandbox.adopt` takes a policy of the host, which may itself be a sandbox.
-/

import TemplateSandbox.Policy

namespace TemplateSandbox

/-- What it takes to start a sandbox. -/
structure Settings where
  /-- Which engine decides. -/
  mode : Mode := .strict
  /-- What it decides by. -/
  config : Configuration := .empty

/-- A sandbox in use. -/
structure Sandbox where
  /-- The policy that decides. -/
  policy : Policy

namespace Sandbox

/-- What is said of a mode before its engine is made. -/
def warnings : Mode → List Event
  | .strict => []
  | .legacy => [.legacyActive]

/-- Starts a sandbox with the engine of its mode. -/
def start (s : Settings) : Logged Sandbox :=
  let engine := Policy.ofMode s.mode s.config
  ⟨⟨engine.value⟩, warnings s.mode ++ engine.events ++ [.ready s.mode]⟩

/-- Starts a sandbox with a policy of the host. -/
def adopt (policy : Policy) : Logged Sandbox := ⟨⟨policy⟩, [.readyWithHostPolicy policy.mode]⟩

/-- A sandbox used as a policy. -/
def toPolicy (s : Sandbox) : Policy := .within s.policy

/-- The mode of the policy in use. -/
def mode (s : Sandbox) : Mode := s.policy.mode

/-- What the sandbox decides on an access. -/
def decide (s : Sandbox) (a : Access) : Decision := s.policy.decide a

/-- Checks an access; a denial is reported. -/
def check (s : Sandbox) (a : Access) : Logged (Except Fault Unit) := s.policy.check a

/-- Checks the accesses of a render in order and stops at the first denial: how many went
ahead, and the denial. -/
def render (s : Sandbox) : List Access → Logged (Nat × Option Fault)
  | [] => .silent (0, none)
  | a :: rest =>
    (s.check a).andThen fun
      | .ok () => let done := s.render rest; ⟨(done.value.1 + 1, done.value.2), done.events⟩
      | .error fault => .silent (0, some fault)

end Sandbox
end TemplateSandbox
