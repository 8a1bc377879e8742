/-
# Which documents are accepted

A document is acceptable under a registry when its version is known, its names
are fit, no type is listed with nothing to block, strict mode has no legacy list
and every type is registered (`Document.Acceptable`). `Document.violations` lists
all that is wrong with a document, in the order

| violation | about |
| --- | --- |
| `version` | the version |
| `name` | allowed methods, blocked methods, blocked properties, methods by type |
| `nothingBlocked` | types without a method |
| `legacyOnly` | `blocked_types`, `blocked_properties`, in strict mode |
| `unknownType` | trusted types, types with blocked methods, blocked types |

Types with methods come in the order of their names, as `TypeLists` keeps them.
What the host is told of a violation, its code and its wording, is written out here
once more and in full (`Violation.code`, `Violation.message`).

An outcome `Reports` a list of violations when it is the fault of the one at its
head, and a success when there is none. Steps taken in order report their violations
in order (`Reports.bind`), so accepting reports those of validating, then those of
resolving the types. Building adds none: it looks at the names again, folded and with
those of the presets, but what is fit stays so (`Document.allFit_clauses`).
-/

import TemplateSandbox.Proofs.Quoting
import TemplateSandbox.Proofs.DocumentFindings

namespace TemplateSandbox

/-! ### Violations -/

/-- One rule for documents that a document does not keep. -/
inductive Violation where
  /-- The version is not the one that is understood. -/
  | version
  /-- The name of a member is unfit; here it is as it was spelled. -/
  | name (n : String)
  /-- The type is listed with nothing to block. -/
  | nothingBlocked (type : String)
  /-- The list of this name is for legacy mode, and the mode is strict. -/
  | legacyOnly (field : String)
  /-- The type is not registered. -/
  | unknownType (n : String)
  deriving DecidableEq

namespace Violation

/-- The fault that a violation ends in. -/
def fault : Violation → Fault
  | .version => .badVersion
  | .name n => .badConfig (.name (if n = "" then .empty else .blank n))
  | .nothingBlocked type => .badConfig (.nothingBlocked type)
  | .legacyOnly field => .badConfig (.legacyOnly field)
  | .unknownType n => .unknownType n

/-- The code that the host is shown for a violation. -/
def code : Violation → String
  | .version => "UNSUPPORTED_VERSION"
  | .name _ | .nothingBlocked _ | .legacyOnly _ => "INVALID_CONFIG"
  | .unknownType _ => "UNKNOWN_TYPE"

/-- What the host is told of a violation, word for word. -/
def message : Violation → String
  | .version => "unsupported policy version"
  | .name n => "invalid policy config: " ++
    if n = "" then "member name must not be empty"
    else "member name must not contain whitespace: " ++ Text.quoted n
  | .nothingBlocked type => "invalid policy config: " ++
    ("blocked_by_type." ++ type ++ " must list at least one method")
  | .legacyOnly field => "invalid policy config: " ++ (field ++ " is only valid with mode: legacy")
  | .unknownType n => "unknown type in policy config: " ++ n

/-- The violation, unless all is well. -/
def whenNot (v : Violation) (well : Prop) [Decidable well] : List Violation :=
  if well then [] else [v]

theorem whenNot_eq_nil_iff {v : Violation} {well : Prop} [Decidable well] :
    v.whenNot well = [] ↔ well := by
  unfold whenNot
  split <;> simp_all

theorem head?_whenNot {v : Violation} {well : Prop} [Decidable well] :
    (v.whenNot well).head? = if well then none else some v := by
  unfold whenNot
  split <;> rfl

end Violation

/-- The fault tells of the violation, in its cause, its code and its wording. -/
structure Fault.Tells (fault : Fault) (v : Violation) : Prop where
  cause : fault = v.fault
  code : fault.code = v.code
  message : fault.message = v.message

/-- The fault that a violation ends in tells of it. -/
theorem Violation.tells_fault (v : Violation) : v.fault.Tells v := by
  refine ⟨rfl, by cases v <;> rfl, ?_⟩
  cases v with
  | name n =>
    show Fault.message (.badConfig (.name (if n = "" then _ else _))) =
      "invalid policy config: " ++ if n = "" then _ else _
    by_cases hempty : n = ""
    · rw [if_pos hempty, if_pos hempty]
      rfl
    · rw [if_neg hempty, if_neg hempty]
      rfl
  | _ => rfl

/-! ### Outcomes and violations -/

/-- The outcome is the fault of the first of the violations, or a success if there are none. -/
def Reports {α : Type} (x : Except Fault α) (violations : List Violation) : Prop :=
  match x with
  | .ok _ => violations = []
  | .error fault => violations.head?.map Violation.fault = some fault

namespace Reports

variable {α β : Type} {x : Except Fault α} {as bs : List Violation}

theorem exists_ok_iff (h : Reports x as) : (∃ a, x = .ok a) ↔ as = [] := by
  cases x with
  | ok a => exact iff_of_true ⟨a, rfl⟩ h
  | error fault =>
    refine iff_of_false ?_ ?_
    · rintro ⟨a, ha⟩
      cases ha
    · rintro rfl
      cases h

theorem error_iff (h : Reports x as) (fault : Fault) :
    x = .error fault ↔ as.head?.map Violation.fault = some fault := by
  cases x with
  | ok a =>
    obtain rfl : as = [] := h
    exact iff_of_false nofun nofun
  | error fault' =>
    rw [show as.head?.map _ = some fault' from h, Except.error.injEq, Option.some.injEq]

/-- Steps in order report in order: the second is asked only if the first went well. -/
theorem bind {f : α → Except Fault β} (hx : Reports x as) (hf : ∀ a, x = .ok a → Reports (f a) bs) :
    Reports (x >>= f) (as ++ bs) := by
  cases x with
  | ok a =>
    obtain rfl : as = [] := hx
    exact hf a rfl
  | error fault =>
    show (as ++ bs).head?.map _ = some fault
    obtain ⟨v, hv, rfl⟩ := Option.map_eq_some_iff.1 hx
    rw [List.head?_append, hv]
    rfl

end Reports

/-! ### What can be wrong with a document -/

/-- The name is registered. -/
def Registry.Knows (r : Registry) (name : String) : Prop := ∃ entry ∈ r.entries, entry.1 = name

instance (r : Registry) (name : String) : Decidable (r.Knows name) :=
  inferInstanceAs (Decidable (∃ entry ∈ r.entries, entry.1 = name))

/-- The names among some that are not registered. -/
def Registry.unknown (r : Registry) (names : List String) : List Violation :=
  names.flatMap fun n => Violation.unknownType n |>.whenNot (r.Knows n)

/-- The names among some that are unfit. -/
def misnamed (names : List String) : List Violation :=
  names.flatMap fun n => Violation.name n |>.whenNot (Fit n)

theorem misnamed_eq_nil_iff {names : List String} : misnamed names = [] ↔ ∀ n ∈ names, Fit n := by
  simp only [misnamed, List.flatMap_eq_nil_iff, Violation.whenNot_eq_nil_iff]

theorem Registry.unknown_eq_nil_iff {r : Registry} {names : List String} :
    r.unknown names = [] ↔ ∀ n ∈ names, r.Knows n := by
  simp only [unknown, List.flatMap_eq_nil_iff, Violation.whenNot_eq_nil_iff]

namespace Document

/-- A document that may be used under a registry. -/
structure Acceptable (d : Document) (r : Registry) : Prop where
  /-- The version is the one that is understood. -/
  version : d.version = 1
  /-- Allowed methods have fit names. -/
  allowed : ∀ n ∈ d.allowedMethods, Fit n
  /-- Blocked methods have fit names. -/
  blocked : ∀ n ∈ d.blockedMethods, Fit n
  /-- Blocked properties have fit names. -/
  properties : ∀ n ∈ d.blockedProperties, Fit n
  /-- Methods blocked on a type have fit names. -/
  byType : ∀ entry ∈ d.blockedByType.entries, ∀ n ∈ entry.2, Fit n
  /-- Each type with a list has something in it. -/
  nonempty : ∀ entry ∈ d.blockedByType.entries, entry.2 ≠ []
  /-- Strict mode blocks no type as a whole. -/
  strictTypes : d.mode = .strict → d.blockedTypes = []
  /-- Strict mode blocks no property. -/
  strictProperties : d.mode = .strict → d.blockedProperties = []
  /-- Trusted types are registered. -/
  trustedKnown : ∀ n ∈ d.trustedTypes, r.Knows n
  /-- Types with blocked methods are registered. -/
  byTypeKnown : ∀ entry ∈ d.blockedByType.entries, r.Knows entry.1
  /-- Blocked types are registered. -/
  blockedKnown : ∀ n ∈ d.blockedTypes, r.Knows n

/-- What is wrong with a document and shows without a registry. -/
def ownViolations (d : Document) : List Violation :=
  Violation.version.whenNot (d.version = 1) ++
    (misnamed d.allowedMethods ++ misnamed d.blockedMethods ++ misnamed d.blockedProperties ++
      d.blockedByType.entries.flatMap fun entry => misnamed entry.2) ++
    (d.blockedByType.entries.flatMap fun entry =>
      (Violation.nothingBlocked entry.1).whenNot (entry.2 ≠ [])) ++
    (Violation.legacyOnly "blocked_types").whenNot (d.mode = .strict → d.blockedTypes = []) ++
    (Violation.legacyOnly "blocked_properties").whenNot
      (d.mode = .strict → d.blockedProperties = [])

/-- What is wrong with the types that a document names, in the order of resolving them. -/
def typeViolations (d : Document) (r : Registry) : List Violation :=
  r.unknown d.trustedTypes ++ r.unknown (d.blockedByType.entries.map Prod.fst) ++
    r.unknown d.blockedTypes

/-- All that is wrong with a document under a registry, in the order of the checks. -/
def violations (d : Document) (r : Registry) : List Violation :=
  d.ownViolations ++ d.typeViolations r

/-- A document is acceptable exactly if it violates nothing. -/
theorem violations_eq_nil_iff {d : Document} {r : Registry} :
    d.violations r = [] ↔ d.Acceptable r := by
  simp only [violations, ownViolations, typeViolations, List.append_eq_nil_iff,
    List.flatMap_eq_nil_iff, List.forall_mem_map, misnamed_eq_nil_iff,
    Violation.whenNot_eq_nil_iff, Registry.unknown_eq_nil_iff]
  constructor
  · rintro ⟨⟨⟨⟨⟨hv, ⟨⟨ha, hb⟩, hp⟩, ht⟩, hne⟩, hst⟩, hsp⟩, ⟨htk, hbk⟩, hkk⟩
    exact ⟨hv, ha, hb, hp, ht, hne, hst, hsp, htk, hbk, hkk⟩
  · rintro ⟨hv, ha, hb, hp, ht, hne, hst, hsp, htk, hbk, hkk⟩
    exact ⟨⟨⟨⟨⟨hv, ⟨⟨ha, hb⟩, hp⟩, ht⟩, hne⟩, hst⟩, hsp⟩, ⟨htk, hbk⟩, hkk⟩

end Document

/-! ### Validating reports what shows without a registry -/

theorem NameFault.find?_eq_ite (n : String) :
    find? n = if Fit n then none else some (if n = "" then .empty else .blank n) := by
  by_cases hfit : Fit n
  · rw [if_pos hfit, find?_eq_none_iff_fit.2 hfit]
  · rw [if_neg hfit]
    by_cases hempty : n = ""
    · subst hempty
      rfl
    · have hchars : n.toList.isEmpty = false := by simpa using hempty
      have hblank : n.toList.any Text.isBlank = true := by
        simpa [Fit, hempty] using hfit
      simp [find?, hchars, hblank, hempty]

/-- Of some names the first one with a fault is reported. -/
theorem map_head?_misnamed (names : List String) :
    (misnamed names).head?.map Violation.fault =
      (names.findSome? NameFault.find?).map fun fault => .badConfig (.name fault) := by
  rw [misnamed, List.head?_flatMap, List.map_findSome?, List.map_findSome?]
  congr 1
  funext n
  rw [Function.comp_apply, Function.comp_apply, Violation.head?_whenNot, NameFault.find?_eq_ite]
  split <;> rfl

namespace Document

/-- Of the types with an empty list the first one is reported. -/
theorem head?_nothingBlocked (entries : List (String × List String)) :
    (entries.flatMap fun entry =>
        (Violation.nothingBlocked entry.1).whenNot (entry.2 ≠ [])).head? =
      (entries.find? fun entry => entry.2.isEmpty).map fun entry => .nothingBlocked entry.1 := by
  induction entries with
  | nil => rfl
  | cons entry rest ih =>
    rw [List.flatMap_cons, List.head?_append, ih, Violation.head?_whenNot, List.find?_cons]
    cases entry.2 <;> rfl

/-- The names of a document are looked at list by list. -/
theorem misnamed_memberNames (d : Document) :
    misnamed d.memberNames = misnamed d.allowedMethods ++ misnamed d.blockedMethods ++
      misnamed d.blockedProperties ++
      d.blockedByType.entries.flatMap fun entry => misnamed entry.2 := by
  simp only [memberNames, misnamed, List.flatMap_append, List.flatMap_assoc]

/-- The fault of a document is that of its first violation. -/
theorem fault?_eq_head? (d : Document) :
    d.fault? = d.ownViolations.head?.map Violation.fault := by
  rw [ownViolations, ← misnamed_memberNames]
  simp only [List.head?_append, Option.map_or, Violation.head?_whenNot, map_head?_misnamed,
    head?_nothingBlocked]
  unfold fault?
  by_cases hversion : d.version = 1
  · rw [if_neg (not_not.2 hversion), if_pos hversion]
    cases d.memberNames.findSome? NameFault.find? with
    | some fault => rfl
    | none =>
      cases d.blockedByType.entries.find? fun entry => entry.2.isEmpty with
      | some entry => rfl
      | none =>
        cases d.mode <;> cases d.blockedTypes <;> cases d.blockedProperties <;> rfl
  · rw [if_pos hversion, if_neg hversion]
    rfl

theorem reports_validate (d : Document) : Reports d.validate d.ownViolations := by
  unfold validate
  rw [fault?_eq_head?]
  cases h : d.ownViolations.head? with
  | none => exact List.head?_eq_none_iff.1 h
  | some v => exact congrArg (Option.map Violation.fault) h

end Document

/-! ### Compiling reports the types that are not registered -/

theorem reports_resolve (r : Registry) (n : String) :
    Reports (r.resolve n) ((Violation.unknownType n).whenNot (r.Knows n)) := by
  unfold Registry.resolve Registry.find?
  cases h : r.entries.find? fun entry => entry.1 == n with
  | some entry =>
    have hname : entry.1 = n := by simpa using List.find?_some h
    exact Violation.whenNot_eq_nil_iff.2 ⟨entry, List.mem_of_find?_eq_some h, hname⟩
  | none =>
    have hunknown : ¬r.Knows n := by
      rintro ⟨entry, hmem, hname⟩
      exact List.find?_eq_none.1 h entry hmem (beq_iff_eq.2 hname)
    show (Violation.whenNot _ _).head?.map _ = _
    rw [Violation.head?_whenNot, if_neg hunknown]
    rfl

/-- A registered name is found. -/
theorem exists_find?_of_knows {r : Registry} {name : String} (h : r.Knows name) :
    ∃ k, r.find? name = some k ∧ r.resolve name = .ok k := by
  obtain ⟨k, hk⟩ := (reports_resolve r name).exists_ok_iff.2 (Violation.whenNot_eq_nil_iff.2 h)
  refine ⟨k, ?_, hk⟩
  rw [Registry.resolve] at hk
  split at hk
  · rename_i hfind
    rw [hfind, Except.ok.inj hk]
  · cases hk

namespace Document

theorem reports_resolveInto {α : Type} (r : Registry) (name : α → String)
    (add : Draft → α → TypeTag → Draft) (xs : List α) (draft : Draft) :
    Reports (resolveInto r name add xs draft) (r.unknown (xs.map name)) := by
  induction xs generalizing draft with
  | nil => rfl
  | cons x rest ih =>
    rw [List.map_cons, Registry.unknown, List.flatMap_cons]
    exact (reports_resolve r (name x)).bind fun _ _ => ih _

theorem reports_collect (d : Document) (r : Registry) :
    Reports (d.collect r) (d.typeViolations r) := by
  rw [typeViolations, List.append_assoc, ← List.map_id d.trustedTypes,
    ← List.map_id d.blockedTypes, ← List.append_nil (r.unknown (List.map id d.blockedTypes))]
  refine (reports_resolveInto r id _ _ _).bind fun trusting _ => ?_
  refine (reports_resolveInto r Prod.fst _ _ _).bind fun blocking _ => ?_
  exact (reports_resolveInto r id _ _ _).bind fun barring _ => rfl

end Document

namespace Clause

/-- What is said of named types has fit names if all of it has that could be said. -/
theorem allFit_clausesOf {α : Type} {r : Registry} {name : α → String}
    {say : α → TypeTag → List Clause} {xs : List α} (h : ∀ x ∈ xs, ∀ k, AllFit (say x k)) :
    AllFit (r.clausesOf name say xs) := by
  refine allFit_flatMap.2 fun x hx => ?_
  cases r.resolve (name x) with
  | ok k => exact h x hx k
  | error fault => exact fun c hc => absurd hc List.not_mem_nil

end Clause

namespace Document

/-- In the clauses of a document whose own names are fit, all names are: those of the presets
are fit anyway. -/
theorem allFit_clauses {d : Document} {r : Registry} (h : ∀ n ∈ d.memberNames, Fit n) :
    Clause.AllFit (d.clauses r) := by
  simp only [memberNames, List.forall_mem_append, List.forall_mem_flatMap] at h
  obtain ⟨⟨⟨hallowed, hblocked⟩, hproperties⟩, hbyType⟩ := h
  simp only [clauses, Clause.allFit_append, Clause.allFit_flatMap]
  refine ⟨⟨⟨⟨⟨⟨?_, ?_⟩, ?_⟩, ?_⟩, ?_⟩, ?_⟩, ?_⟩
  · exact fun p _ => p.allFit_clauses d.mode
  · exact Clause.allFit_clausesOf fun _ _ _ => by simp [Clause.AllFit, Clause.name?]
  · exact Clause.allFit_clausesOf fun entry hentry _ =>
      Clause.allFit_map (fun _ => rfl) (hbyType entry hentry)
  · exact Clause.allFit_clausesOf fun _ _ _ => by simp [Clause.AllFit, Clause.name?]
  · exact Clause.allFit_map (fun _ => rfl) hallowed
  · exact Clause.allFit_map (fun _ => rfl) hblocked
  · exact Clause.allFit_map (fun _ => rfl) hproperties

/-- Compiling a document whose names are fit reports its types and nothing else. -/
theorem reports_compile {d : Document} {r : Registry} (h : ∀ n ∈ d.memberNames, Fit n) :
    Reports (d.compile r) (d.typeViolations r) := by
  rw [compile_eq, ← List.append_nil (d.typeViolations r)]
  refine (reports_collect d r).bind fun draft hdraft => ?_
  rw [(Draft.build_eq_ok_iff (holds_collect hdraft)).2 (allFit_clauses h)]
  rfl

/-- Accepting reports all that is wrong with a document. -/
theorem reports_accept (d : Document) (r : Registry) :
    Reports (d.accept r).value (d.violations r) := by
  rw [value_accept]
  refine (reports_validate d).bind fun _ hvalid => reports_compile ?_
  -- Compiling is asked only of a document that was found valid, so its names are fit.
  have hown : d.ownViolations = [] := (reports_validate d).exists_ok_iff.1 ⟨_, hvalid⟩
  rw [ownViolations, ← misnamed_memberNames] at hown
  simp only [List.append_eq_nil_iff] at hown
  exact misnamed_eq_nil_iff.1 hown.1.1.1.2

/-- **Exactly the acceptable documents are accepted**, and any other is refused with a fault that
tells of the first of its violations, in cause, code and wording. A name is shown there as it was
spelled: no two names are quoted alike, and one of plain characters is quoted as it stands. -/
theorem accept_ok_iff_and_error_iff (d : Document) (r : Registry) :
    ((∃ s, (d.accept r).value = .ok s) ↔ d.Acceptable r) ∧
    (∀ fault, (d.accept r).value = .error fault ↔
      ∃ v, (d.violations r).head? = some v ∧ fault.Tells v) ∧
    Function.Injective Text.quoted ∧
    ∀ n : String, (∀ c ∈ n.toList, Text.Plain c) → Text.quoted n = "\"" ++ n ++ "\"" := by
  refine ⟨(reports_accept d r).exists_ok_iff.trans violations_eq_nil_iff, fun fault => ?_,
    Text.quoted_injective, fun n => Text.quoted_of_plain⟩
  rw [(reports_accept d r).error_iff, Option.map_eq_some_iff]
  refine exists_congr fun v => and_congr_right fun _ => ⟨?_, fun h => h.cause.symm⟩
  rintro rfl
  exact v.tells_fault

/-- Of the three things wrong here, the name comes first. The host is told so, and shown the name as
it was spelled. -/
theorem accept_ok_iff_and_error_iff_toHtml :
    let d : Document := { version := 1, trustedTypes := ["Page"],
                          allowedMethods := ["render", "To Html"], blockedProperties := ["key"] }
    d.violations ⟨[]⟩ =
      [.name "To Html", .legacyOnly "blocked_properties", .unknownType "Page"] ∧
    ∃ fault, (d.accept ⟨[]⟩).value = .error fault ∧ fault.code = "INVALID_CONFIG" ∧
      fault.message =
        "invalid policy config: member name must not contain whitespace: \"To Html\"" := by
  intro d
  obtain ⟨-, herror, -, hplain⟩ := accept_ok_iff_and_error_iff d ⟨[]⟩
  have hviolations : d.violations ⟨[]⟩ =
      [.name "To Html", .legacyOnly "blocked_properties", .unknownType "Page"] := by decide +kernel
  have htells := (Violation.name "To Html").tells_fault
  have hrefused := (herror _).2 ⟨_, congrArg List.head? hviolations, htells⟩
  refine ⟨hviolations, _, hrefused, htells.code, htells.message.trans ?_⟩
  have hchars : ("To Html".toList.all fun c => decide (Text.Plain c)) = true := by decide +kernel
  have hquoted := hplain "To Html" fun c hc => of_decide_eq_true (List.all_eq_true.1 hchars c hc)
  show "invalid policy config: " ++ ("member name must not contain whitespace: " ++ _) = _
  rw [hquoted]
  decide +kernel

end Document
end TemplateSandbox
