/-
# What a registry remembers of its calls

A registry starts empty and is made by calls, each of which gives a type to a
name. Of the calls with one name the last one counts (`lastGiven?`). Those before
it show in the log alone: a call that takes a name away from another type is
reported there, with the type that had the name last (`replacement?`).

| asked of a registry | told by |
| --- | --- |
| the type of a name | the last call with exactly this name |
| how many names there are | the different names in the calls |
| the log | each call, held against the calls before it |

A registry that follows its calls goes on to follow them when one more is made
(`Registry.Follows.register`), so it does after any run
(`Registry.follows_registerAll`). Whether a name was taken away is a question of
identity: two types that people are shown under one name are still two, and a type
that gets its own name again loses nothing.
-/

import TemplateSandbox.Registry
import Mathlib.Data.Finset.Card
import Mathlib.Data.Finset.Dedup

namespace TemplateSandbox

/-- Calls that give types to names, in the order in which they are made. -/
abbrev Registrations := List (String × TypeTag)

namespace Registrations

variable {calls : Registrations} {name : String} {type : TypeTag}

/-- The type that the last call with exactly this name gave it. -/
def lastGiven? (calls : Registrations) (name : String) : Option TypeTag :=
  calls.reverse.lookup name

/-- What is reported of a call after some others: that it takes its name away from another type. -/
def replacement? (before : Registrations) (call : String × TypeTag) : Option Event :=
  match lastGiven? before call.1 with
  | some previous =>
    if previous.id = call.2.id then none else some (.typeReplaced call.1 previous call.2)
  | none => none

/-- What is reported of some calls: each of them is held against the calls before it. -/
def replacements (calls : Registrations) : List Event :=
  calls.zipIdx.filterMap fun call => replacement? (calls.take call.2) call.1

/-- Of calls in two batches the later batch counts first. -/
theorem lastGiven?_append (calls more : Registrations) (name : String) :
    lastGiven? (calls ++ more) name = (lastGiven? more name).or (lastGiven? calls name) := by
  unfold lastGiven?
  rw [List.reverse_append, List.lookup_append]

/-- A call settles what its own name was given last, and leaves other names alone. -/
theorem lastGiven?_append_call (calls : Registrations) (name : String) (type : TypeTag)
    (other : String) :
    lastGiven? (calls ++ [(name, type)]) other =
      if other = name then some type else lastGiven? calls other := by
  have hone : lastGiven? [(name, type)] other = if other = name then some type else none := by
    unfold lastGiven?
    rw [List.reverse_singleton, List.lookup_cons]
    by_cases h : other = name
    · rw [if_pos h, beq_iff_eq.2 h]
    · rw [if_neg h, beq_eq_false_iff_ne.2 h]
      rfl
  rw [lastGiven?_append, hone]
  split <;> rfl

/-- A name was given a type last exactly if there is a call that did so, with no call for the name
after it. -/
theorem lastGiven?_eq_some_iff :
    lastGiven? calls name = some type ↔
      ∃ before after, calls = before ++ (name, type) :: after ∧ name ∉ after.map Prod.fst := by
  have hother : ∀ later : Registrations,
      (∀ call ∈ later, (name != call.1) = true) ↔ name ∉ later.map Prod.fst := by
    intro later
    rw [← List.forall_mem_map (P := fun other => (name != other) = true)]
    constructor
    · intro h hmem
      exact bne_iff_ne.1 (h name hmem) rfl
    · intro h other hmem
      exact bne_iff_ne.2 fun heq => h (heq ▸ hmem)
  unfold lastGiven?
  rw [List.lookup_eq_some_iff]
  constructor
  · rintro ⟨later, earlier, hcalls, hlater⟩
    refine ⟨earlier.reverse, later.reverse, ?_, ?_⟩
    · have hreverse := congrArg List.reverse hcalls
      simpa using hreverse
    · rw [List.map_reverse, List.mem_reverse]
      exact (hother later).1 hlater
  · rintro ⟨before, after, rfl, hafter⟩
    refine ⟨after.reverse, before.reverse, by simp, (hother _).2 ?_⟩
    rwa [List.map_reverse, List.mem_reverse]

/-- A name was given no type exactly if no call has it. -/
theorem lastGiven?_eq_none_iff : lastGiven? calls name = none ↔ name ∉ calls.map Prod.fst := by
  unfold lastGiven?
  rw [List.lookup_eq_none_iff]
  constructor
  · intro h hmem
    obtain ⟨call, hcall, rfl⟩ := List.mem_map.1 hmem
    exact bne_iff_ne.1 (h call (List.mem_reverse.2 hcall)) rfl
  · intro h call hcall
    exact bne_iff_ne.2 fun heq => h (List.mem_map.2 ⟨call, List.mem_reverse.1 hcall, heq.symm⟩)

/-- A call is reported exactly if its name was given a type of another identity last, and the report
names both types. -/
theorem replacement?_eq_some_iff {call : String × TypeTag} {event : Event} :
    replacement? calls call = some event ↔
      ∃ previous, lastGiven? calls call.1 = some previous ∧ previous.id ≠ call.2.id ∧
        event = .typeReplaced call.1 previous call.2 := by
  unfold replacement?
  cases lastGiven? calls call.1 with
  | none => simp
  | some previous =>
    by_cases hid : previous.id = call.2.id
    · simp [hid]
    · simp [hid, eq_comm]

/-- One call more adds what is reported of it to what was reported before. -/
theorem replacements_append_call (calls : Registrations) (call : String × TypeTag) :
    replacements (calls ++ [call]) = replacements calls ++ (replacement? calls call).toList := by
  have hbefore : ∀ place ∈ calls.zipIdx,
      replacement? ((calls ++ [call]).take place.2) place.1 =
        replacement? (calls.take place.2) place.1 := by
    intro place hplace
    have hlt : place.2 < calls.length := by
      have hbound := List.snd_lt_of_mem_zipIdx hplace
      omega
    rw [List.take_append_of_le_length (by omega)]
  unfold replacements
  rw [List.zipIdx_append, List.filterMap_append, List.filterMap_congr hbefore]
  simp only [List.zipIdx_singleton, Nat.zero_add, List.take_left', List.filterMap_cons]
  cases replacement? calls call <;> simp

end Registrations

namespace Registry

variable {r : Registry} {calls : Registrations}

/-! ### One call -/

/-- The names of some entries after one is put among them: a name keeps its place. -/
theorem map_fst_put (name : String) (type : TypeTag) (entries : List (String × TypeTag)) :
    (put name type entries).map Prod.fst =
      if name ∈ entries.map Prod.fst then entries.map Prod.fst
      else entries.map Prod.fst ++ [name] := by
  induction entries with
  | nil => rfl
  | cons entry rest ih =>
    unfold put
    by_cases hentry : entry.1 = name
    · simp [hentry]
    · have hbeq : (entry.1 == name) = false := beq_eq_false_iff_ne.2 hentry
      rw [hbeq, if_neg Bool.false_ne_true, List.map_cons, ih, List.map_cons]
      by_cases hrest : name ∈ rest.map Prod.fst
      · rw [if_pos hrest, if_pos (List.mem_cons_of_mem _ hrest)]
      · have hnot : name ∉ entry.1 :: rest.map Prod.fst := by
          rw [List.mem_cons, not_or]
          exact ⟨Ne.symm hentry, hrest⟩
        rw [if_neg hrest, if_neg hnot, List.cons_append]

/-- Names that are registered once stay so when one is put among them. -/
theorem nodup_put {entries : List (String × TypeTag)} (h : (entries.map Prod.fst).Nodup)
    (name : String) (type : TypeTag) : ((put name type entries).map Prod.fst).Nodup := by
  rw [map_fst_put]
  split
  · exact h
  · rename_i hnew
    exact List.nodup_append.2 ⟨h, List.nodup_singleton name, fun a ha b hb hab =>
      hnew (List.mem_singleton.1 hb ▸ hab ▸ ha)⟩

/-- A name is among the entries exactly if something is found under it. -/
theorem find?_eq_none_iff {name : String} :
    r.find? name = none ↔ name ∉ r.entries.map Prod.fst := by
  unfold find?
  rw [Option.map_eq_none_iff, List.find?_eq_none, List.mem_map]
  constructor
  · rintro h ⟨entry, hentry, hname⟩
    exact h entry hentry (beq_iff_eq.2 hname)
  · intro h entry hentry hname
    exact h ⟨entry, hentry, beq_iff_eq.1 hname⟩

/-- The registry knows of some calls what the last one for each name says, and nothing else. -/
structure Follows (r : Registry) (calls : Registrations) : Prop where
  /-- Under a name is what it was given last. -/
  find? : ∀ name, r.find? name = calls.lastGiven? name
  /-- No name is registered twice. -/
  once : (r.entries.map Prod.fst).Nodup

namespace Follows

/-- **One call more is followed too**, and it is reported if it takes a name away. -/
theorem register (h : r.Follows calls) (name : String) (type : TypeTag) :
    (r.register name type).value.Follows (calls ++ [(name, type)]) ∧
      (r.register name type).events = (calls.replacement? (name, type)).toList := by
  refine ⟨⟨fun other => ?_, nodup_put h.once name type⟩, ?_⟩
  · rw [Registrations.lastGiven?_append_call, ← h.find? other]
    exact find?_put name type r.entries other
  · unfold Registry.register Registrations.replacement?
    rw [h.find? name]
    cases calls.lastGiven? name with
    | none => rfl
    | some previous =>
      have hsame : (previous == type) = true ↔ previous.id = type.id := TypeTag.beq_iff
      by_cases hid : previous.id = type.id
      · simp only [hsame.2 hid, hid, if_true, Option.toList_none]
      · simp only [Bool.eq_false_iff.2 (mt hsame.1 hid), hid, if_false, Option.toList_some]
        rfl

/-- The names of a registry are those in the calls that it follows. -/
theorem mem_names_iff (h : r.Follows calls) {name : String} :
    name ∈ r.entries.map Prod.fst ↔ name ∈ calls.map Prod.fst := by
  have hnone : name ∉ r.entries.map Prod.fst ↔ name ∉ calls.map Prod.fst := by
    rw [← find?_eq_none_iff, h.find? name, Registrations.lastGiven?_eq_none_iff]
  exact not_iff_not.1 hnone

/-- There are as many entries as different names in the calls. -/
theorem size_eq (h : r.Follows calls) : r.size = (calls.map Prod.fst).toFinset.card := by
  have hnames : (r.entries.map Prod.fst).toFinset = (calls.map Prod.fst).toFinset := by
    ext name
    rw [List.mem_toFinset, List.mem_toFinset, h.mem_names_iff]
  rw [← hnames, List.toFinset_card_of_nodup h.once, List.length_map]
  rfl

/-- There are no entries exactly if there was no call. -/
theorem isEmpty_iff (h : r.Follows calls) : r.isEmpty = true ↔ calls = [] := by
  have hnames : r.entries.map Prod.fst = [] ↔ calls.map Prod.fst = [] := by
    rw [List.eq_nil_iff_forall_not_mem, List.eq_nil_iff_forall_not_mem]
    exact forall_congr' fun name => not_congr h.mem_names_iff
  rw [isEmpty, List.isEmpty_iff, ← List.map_eq_nil_iff (f := Prod.fst), hnames,
    List.map_eq_nil_iff]

/-- A name resolves to a type exactly if the last call for it gave it this type. -/
theorem resolve_eq_ok_iff (h : r.Follows calls) {name : String} {type : TypeTag} :
    r.resolve name = .ok type ↔
      ∃ before after, calls = before ++ (name, type) :: after ∧ name ∉ after.map Prod.fst := by
  rw [← Registrations.lastGiven?_eq_some_iff, ← h.find? name]
  unfold resolve
  cases r.find? name <;> simp

/-- A name does not resolve exactly if there was no call for it, and then it is unknown. -/
theorem resolve_eq_error_iff (h : r.Follows calls) {name : String} {fault : Fault} :
    r.resolve name = .error fault ↔ name ∉ calls.map Prod.fst ∧ fault = .unknownType name := by
  rw [← Registrations.lastGiven?_eq_none_iff, ← h.find? name]
  unfold resolve
  cases r.find? name <;> simp [eq_comm]

end Follows

/-! ### A run of calls -/

/-- The calls of a run are made one after the other. -/
theorem registerAll_append_call (calls : Registrations) (call : String × TypeTag) (r : Registry) :
    registerAll (calls ++ [call]) r =
      (registerAll calls r).andThen fun r => r.register call.1 call.2 := by
  unfold registerAll
  rw [List.foldl_append, List.foldl_cons, List.foldl_nil]

/-- **A registry that starts empty follows its calls**, and the log says of each call what it took
away. -/
theorem follows_registerAll (calls : Registrations) :
    (registerAll calls {}).value.Follows calls ∧
      (registerAll calls {}).events = calls.replacements := by
  -- The calls are taken from the end: the last one meets a registry that follows the others.
  induction calls using List.reverseRecOn with
  | nil => exact ⟨⟨fun _ => rfl, List.nodup_nil⟩, rfl⟩
  | append_singleton calls call ih =>
    obtain ⟨hfollows, hevents⟩ := ih
    obtain ⟨hnext, hreport⟩ := hfollows.register call.1 call.2
    rw [registerAll_append_call, Registrations.replacements_append_call, ← hevents]
    refine ⟨hnext, ?_⟩
    rw [Logged.events_andThen, hreport]

/-- **What a run of calls leaves behind.** Of the calls with a name the last one tells what the name
resolves to, and a name without a call is unknown. There are as many entries as different names, and
none exactly if there was no call. The log has a warning for each call that took its name away from
a type of another identity, in the order of the calls, and nothing else. -/
theorem registerAll_remembers (calls : Registrations) :
    let run := registerAll calls {}
    (∀ name type, run.value.resolve name = .ok type ↔
      ∃ before after, calls = before ++ (name, type) :: after ∧ name ∉ after.map Prod.fst) ∧
    (∀ name fault, run.value.resolve name = .error fault ↔
      name ∉ calls.map Prod.fst ∧ fault = .unknownType name) ∧
    run.value.size = (calls.map Prod.fst).toFinset.card ∧
    (run.value.isEmpty = true ↔ calls = []) ∧
    run.events = calls.replacements ∧
    ∀ event ∈ run.events, ∃ name previous now, previous.id ≠ now.id ∧
      event = .typeReplaced name previous now ∧ event.level = .warn ∧
      event.message = "type registry entry replaced" ∧
      event.fields = [("name", .text name), ("previous", .text previous.name),
        ("now", .text now.name)] := by
  intro run
  obtain ⟨hfollows, hevents⟩ := follows_registerAll calls
  refine ⟨fun _ _ => hfollows.resolve_eq_ok_iff, fun _ _ => hfollows.resolve_eq_error_iff,
    hfollows.size_eq, hfollows.isEmpty_iff, hevents, fun event hevent => ?_⟩
  obtain ⟨place, -, hplace⟩ := List.mem_filterMap.1 (hevents ▸ hevent)
  obtain ⟨previous, -, hid, rfl⟩ := Registrations.replacement?_eq_some_iff.1 hplace
  exact ⟨place.1.1, previous, place.1.2, hid, rfl, rfl, rfl, rfl⟩

/-- Two files of one name take turns; the one in place may register again unnoticed. -/
example : (registerAll [("File", ⟨1, "a::File"⟩), ("file", ⟨1, "a::File"⟩),
      ("File", ⟨2, "b::File"⟩), ("File", ⟨2, "b::File"⟩), ("File", ⟨1, "a::File"⟩)] {}).events.map
        Event.fields =
    [[("name", .text "File"), ("previous", .text "File"), ("now", .text "File")],
      [("name", .text "File"), ("previous", .text "File"), ("now", .text "File")]] := by
  decide +kernel

end Registry
end TemplateSandbox
