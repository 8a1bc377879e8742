/-
# Sessions

A host keeps sandboxes under names of its own. A `Session` holds them in slots
and carries out one command at a time. Two slots *share* a policy when one was
copied from the other, or adopted the policy of the other; a policy made anew,
or a sandbox used as a policy, is shared with none that was there before.

A command that names an empty slot does nothing, and one that fails leaves its
slot as it was.
-/

import TemplateSandbox.Load

namespace TemplateSandbox

/-- A sandbox in a slot, and the number of the policy it has. -/
structure Slot where
  /-- The sandbox. -/
  sandbox : Sandbox
  /-- The number of its policy; slots with one number share it. -/
  policyNumber : Nat

/-- Sandboxes by name, and the number for the next new policy. -/
structure Session where
  /-- The slots in use. -/
  slots : List (String × Slot) := []
  /-- The number for the next new policy. -/
  nextNumber : Nat := 0

/-- What a host asks of a session; `slot` is the slot that it is about. -/
inductive Command where
  /-- Starts a sandbox over the configuration that some rules build. -/
  | start (slot : String) (mode : Mode) (rules : List Rule)
  /-- Starts a sandbox with a policy text. -/
  | load (slot : String) (format : Format) (text : String) (registry : Registry)
  /-- Starts a sandbox with a strategy of the host. -/
  | adoptHost (slot : String) (strategy : HostStrategy)
  /-- Copies the sandbox of another slot. -/
  | copy (slot : String) (source : String)
  /-- Starts a sandbox with the policy of another one. -/
  | adoptPolicy (slot : String) (source : String)
  /-- Starts a sandbox with another one as its policy. -/
  | adoptSandbox (slot : String) (source : String)
  /-- Asks whether two slots share their policy. -/
  | shares (slot : String) (other : String)
  /-- Asks for the mode. -/
  | mode (slot : String)
  /-- Decides and checks an access. -/
  | access (slot : String) (access : Access)
  /-- Checks the accesses of a render. -/
  | render (slot : String) (script : List Access)

/-- The answer to a command. -/
inductive Answer where
  /-- It was carried out. -/
  | done
  /-- It failed. -/
  | failed (fault : Fault)
  /-- It names an empty slot. -/
  | emptySlot
  /-- Yes or no. -/
  | truth (b : Bool)
  /-- A mode. -/
  | mode (m : Mode)
  /-- The decision on an access and the outcome of its check. -/
  | access (decision : Decision) (outcome : Except Fault Unit)
  /-- How many accesses of a render went ahead, and the denial that stopped it. -/
  | rendered (done : Nat) (denial : Option Fault)

namespace Session

/-- The slot of a name. -/
def find? (s : Session) (slot : String) : Option Slot := List.lookup slot s.slots

/-- Puts something into a slot. -/
def put (s : Session) (slot : String) (content : Slot) : Session :=
  { s with slots := (slot, content) :: s.slots.filter fun entry => entry.1 != slot }

/-- Puts a sandbox with a new policy into a slot. -/
def putNew (s : Session) (slot : String) (sandbox : Sandbox) : Session :=
  { s.put slot ⟨sandbox, s.nextNumber⟩ with nextNumber := s.nextNumber + 1 }

/-- Puts a sandbox with a new policy into a slot, if it could be made. -/
def settle (s : Session) (slot : String) (made : Logged (Except Fault Sandbox)) :
    Session × Logged Answer :=
  match made.value with
  | .ok sandbox => (s.putNew slot sandbox, ⟨.done, made.events⟩)
  | .error fault => (s, ⟨.failed fault, made.events⟩)

/-- Goes on with the content of a slot, if it has any. -/
def withSlot (s : Session) (slot : String) (f : Slot → Session × Logged Answer) :
    Session × Logged Answer :=
  match s.find? slot with
  | some content => f content
  | none => (s, .silent .emptySlot)

/-- Carries out a command. -/
def run (s : Session) : Command → Session × Logged Answer
  | .start slot mode rules =>
    match Rule.build rules with
    | .ok config =>
      let made := Sandbox.start { mode, config }
      s.settle slot ⟨.ok made.value, made.events⟩
    | .error fault => (s, .silent (.failed fault))
  | .load slot format text registry => s.settle slot (Sandbox.ofLoaded (format.load text registry))
  | .adoptHost slot strategy =>
    let made := Sandbox.adopt (.host strategy)
    s.settle slot ⟨.ok made.value, made.events⟩
  | .copy slot source => s.withSlot source fun content => (s.put slot content, .silent .done)
  | .adoptPolicy slot source =>
    s.withSlot source fun content =>
      let made := Sandbox.adopt content.sandbox.policy
      (s.put slot ⟨made.value, content.policyNumber⟩, ⟨.done, made.events⟩)
  | .adoptSandbox slot source =>
    s.withSlot source fun content =>
      let made := Sandbox.adopt content.sandbox.toPolicy
      (s.putNew slot made.value, ⟨.done, made.events⟩)
  | .shares slot other =>
    s.withSlot slot fun a => s.withSlot other fun b =>
      (s, .silent (.truth (a.policyNumber == b.policyNumber)))
  | .mode slot => s.withSlot slot fun content => (s, .silent (.mode content.sandbox.mode))
  | .access slot a =>
    s.withSlot slot fun content =>
      let checked := content.sandbox.check a
      (s, ⟨.access (content.sandbox.decide a) checked.value, checked.events⟩)
  | .render slot script =>
    s.withSlot slot fun content =>
      let r := content.sandbox.render script
      (s, ⟨.rendered r.value.1 r.value.2, r.events⟩)

end Session
end TemplateSandbox
