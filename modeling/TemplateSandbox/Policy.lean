/-
# Policies

A `Policy` decides accesses. There are two engines over a configuration, and a
host may bring a strategy of its own; a policy inside a sandbox decides as the
policy it stands for (`Policy.within`).

The strict engine denies what it does not list. Two questions are asked of a
method, in this order:

| question | denied because |
| --- | --- |
| is it admitted by a trusted type, a declaration or the allow list? | `notAllowListed` |
| is it blocked on a type of the value? | `blockedForType` |
| is its name blocked? | `blockedName` |

The legacy engine allows what it does not list: `blockedForType`, then
`blockedType`, then `blockedName`. Properties are free under the strict engine;
the legacy engine has a list for them. Values of the template engine itself
skip every question about methods, and none about properties.

A policy is asked through its entries (`Gate`): its mode, and for either kind of
access one to decide and one to check. Deciding is silent. A strategy has a mode
and decides; its checks decide, report a denial under that mode, and give the
outcome (`Gate.providing`). A sandbox has no answers of its own: each of its
entries is the same entry of the policy inside it (`Gate.handingOn`), so that a
denial is reported once, however deep the policy stands (`Policy.check_eq`).
-/

import TemplateSandbox.Configuration
import TemplateSandbox.Event

namespace TemplateSandbox

namespace Configuration

/-- Whether the strict engine lets a method into the second round at all. -/
def admits (c : Configuration) (t : Target) (n : MemberName) : Bool :=
  c.trusts t || t.capability.opens n || c.allows n

/-- Why the strict engine denies a method, if it does. -/
def strictReason? (c : Configuration) (t : Target) (n : MemberName) : Option Reason :=
  if t.engineOwned then none
  else if !c.admits t n then some .notAllowListed
  else if c.blocksOn t n then some .blockedForType
  else if c.blocks n then some .blockedName
  else none

/-- Why the legacy engine denies a method, if it does. -/
def legacyReason? (c : Configuration) (t : Target) (n : MemberName) : Option Reason :=
  if t.engineOwned then none
  else if c.blocksOn t n then some .blockedForType
  else if c.blocksType t then some .blockedType
  else if c.blocks n then some .blockedName
  else none

/-- Why the legacy engine denies a property, if it does. -/
def legacyPropertyReason? (c : Configuration) (n : MemberName) : Option Reason :=
  if c.blocksProperty n then some .blockedProperty else none

end Configuration

/-- The events of a check that ends in a decision: one for a denial, none otherwise. -/
def Decision.report (d : Decision) (mode : Mode) : List Event :=
  match d with
  | .allowed => []
  | .denied denial => [.accessDenied mode denial]

/-- A decision as the outcome of a check, reported under a mode if it is a denial. -/
def Decision.settle (d : Decision) (mode : Mode) : Logged (Except Fault Unit) :=
  ⟨d.toExcept, d.report mode⟩

/-- What a policy can be asked. -/
structure Gate where
  /-- Its mode. -/
  mode : Mode
  /-- What it decides on the call of a method. -/
  decideMethod : Target → String → Decision
  /-- What it decides on the read of a property. -/
  decideProperty : Target → String → Decision
  /-- The check of the call of a method. -/
  checkMethod : Target → String → Logged (Except Fault Unit)
  /-- The check of the read of a property. -/
  checkProperty : Target → String → Logged (Except Fault Unit)

namespace Gate

/-- The entries of a strategy that only has a mode and decides. -/
def providing (mode : Mode) (decideMethod decideProperty : Target → String → Decision) : Gate where
  mode := mode
  decideMethod := decideMethod
  decideProperty := decideProperty
  checkMethod t m := (decideMethod t m).settle mode
  checkProperty t m := (decideProperty t m).settle mode

/-- The entries of a sandbox, each the same entry of the policy inside it. -/
def handingOn (inner : Gate) : Gate where
  mode := inner.mode
  decideMethod t m := inner.decideMethod t m
  decideProperty t m := inner.decideProperty t m
  checkMethod t m := inner.checkMethod t m
  checkProperty t m := inner.checkProperty t m

/-- An access goes to the entry of its kind that decides. -/
def decide (g : Gate) (a : Access) : Decision :=
  match a.kind with
  | .method => g.decideMethod a.target a.member
  | .property => g.decideProperty a.target a.member

/-- An access goes to the entry of its kind that checks. -/
def check (g : Gate) (a : Access) : Logged (Except Fault Unit) :=
  match a.kind with
  | .method => g.checkMethod a.target a.member
  | .property => g.checkProperty a.target a.member

/-- Of a strategy, a check is the decision and a report of it. -/
theorem check_providing (mode : Mode) (decideMethod decideProperty : Target → String → Decision)
    (a : Access) : (providing mode decideMethod decideProperty).check a =
      ((providing mode decideMethod decideProperty).decide a).settle mode := by
  obtain ⟨t, m, kind⟩ := a
  cases kind <;> rfl

end Gate

/-- A strategy that the host brings: its mode and its decisions. -/
structure HostStrategy where
  /-- The mode it reports. -/
  mode : Mode
  /-- What it decides. -/
  decide : Access → Decision

namespace HostStrategy

/-- Denies the listed members, spelled exactly so, and allows all others; methods and
properties have each their own reason. -/
def denying (mode : Mode) (members : List String) (ofMethod ofProperty : Reason) :
    HostStrategy where
  mode := mode
  decide a :=
    if members.contains a.member then
      .denied (a.denial (match a.kind with | .method => ofMethod | .property => ofProperty))
    else .allowed

end HostStrategy

/-- What decides the accesses of a render. -/
inductive Policy where
  /-- The strict engine over a configuration. -/
  | strict (config : Configuration)
  /-- The legacy engine over a configuration. -/
  | legacy (config : Configuration)
  /-- A strategy of the host. -/
  | host (strategy : HostStrategy)
  /-- A sandbox used as a policy: it stands for the policy inside it. -/
  | within (inner : Policy)

namespace Policy

/-- The entries of a policy. -/
def gate : Policy → Gate
  | .strict c =>
    .providing .strict (fun t m => .ofReason? (.method t m) (c.strictReason? t (.fold m)))
      fun _ _ => .allowed
  | .legacy c =>
    .providing .legacy (fun t m => .ofReason? (.method t m) (c.legacyReason? t (.fold m)))
      fun t m => .ofReason? (.property t m) (c.legacyPropertyReason? (.fold m))
  | .host strategy =>
    .providing strategy.mode (fun t m => strategy.decide (.method t m))
      fun t m => strategy.decide (.property t m)
  | .within inner => inner.gate.handingOn

/-- The mode of a policy. -/
def mode (p : Policy) : Mode := p.gate.mode

/-- What a policy decides on an access. -/
def decide (p : Policy) (a : Access) : Decision := p.gate.decide a

/-- Decides an access, reports a denial, and gives the decision as an outcome. -/
def check (p : Policy) (a : Access) : Logged (Except Fault Unit) := p.gate.check a

/-- **At any depth, the entries of a policy are those of a strategy that only decides.** -/
theorem gate_eq (p : Policy) :
    p.gate = .providing p.gate.mode p.gate.decideMethod p.gate.decideProperty := by
  induction p with
  | within inner ih => exact ih
  | _ => rfl

/-- **Checking is deciding and reporting, at any depth.** -/
theorem check_eq (p : Policy) (a : Access) : p.check a = (p.decide a).settle p.mode := by
  rw [check, decide, mode, gate_eq]
  exact Gate.check_providing ..

/-- The strict engine over a configuration; it warns of rules that it will not use. -/
def ofStrict (c : Configuration) : Logged Policy :=
  ⟨.strict c, if c.hasLegacyRules then [.legacyRulesIgnored] else []⟩

/-- The bare engine of a mode over a configuration. -/
def ofMode (mode : Mode) (c : Configuration) : Logged Policy :=
  match mode with
  | .strict => ofStrict c
  | .legacy => .silent (.legacy c)

end Policy
end TemplateSandbox
