/-
# Two kinds of faults

A fault stops a render or tells of a wrong policy, and the two have nothing in
common (a file that cannot be read is a third matter, `Fault.internal`):

| fault | comes from | names | code |
| --- | --- | --- | --- |
| `Fault.Denies` | a check by an engine | type and member | by the kind of the access |
| `Fault.OfConfiguration` | whatever makes a policy | nothing | one of three |

The first kind is read off the denial: engines name the concrete type, never a
type that the value merely counts as an instance of, and deny properties for one
reason alone (`Policy.reason_of_decide_property`). The second kind is kept by
every step on the way to a configuration (`FailsByConfig`): each function either
makes such a fault itself or hands on the one of a function that it calls.
-/

import TemplateSandbox.Load
import TemplateSandbox.Proofs.DocumentFindings
import TemplateSandbox.Proofs.Routes

namespace TemplateSandbox

/-! ### Denials -/

/-- The fault denies this access for this reason. -/
structure Fault.Denies (f : Fault) (a : Access) (reason : Reason) : Prop where
  isDenial : f.isDenial = true
  /-- It names the concrete type of the value. -/
  type? : f.type? = some a.target.type.name
  /-- It names the member as it was asked for. -/
  member? : f.member? = some a.member
  code : f.code = match a.kind with
    | .method => "METHOD_NOT_ALLOWED"
    | .property => "PROPERTY_NOT_ALLOWED"
  /-- It denies all methods of a type exactly if that is the reason. -/
  typeDenied : (∃ type member, f = .typeDenied type member) ↔ reason = .blockedType
  /-- It denies one method for every other reason to deny a method. -/
  methodDenied : (∃ type member, f = .methodDenied type member) ↔
    a.kind = .method ∧ reason ≠ .blockedType

/-- The denial of an access ends in a fault that denies it. Only methods are denied because of
their type. -/
theorem Access.denies_toFault {a : Access} {reason : Reason}
    (h : reason = .blockedType → a.kind = .method) :
    (a.denial reason).toFault.Denies a reason := by
  obtain ⟨t, m, kind⟩ := a
  cases kind with
  | property =>
    have hreason : reason ≠ .blockedType := fun hblocked => nomatch h hblocked
    exact ⟨rfl, rfl, rfl, rfl, by simp [denial, Denial.toFault, hreason],
      by simp [denial, Denial.toFault]⟩
  | method =>
    cases reason <;>
      exact ⟨rfl, rfl, rfl, rfl, by simp [denial, Denial.toFault], by simp [denial, Denial.toFault]⟩

namespace Policy

/-- Engines have one reason to deny a property. -/
theorem reason_of_decide_property {mode : Mode} {c : Configuration} {a : Access} {den : Denial}
    (h : (ofMode mode c).value.decide a = .denied den) (hkind : a.kind = .property) :
    den.reason = .blockedProperty := by
  obtain ⟨t, m, kind⟩ := a
  obtain rfl : kind = .property := hkind
  rw [decide_ofMode] at h
  cases mode with
  | strict => cases h
  | legacy =>
    simp only [Findings.verdict, Findings.legacyVerdict] at h
    split at h
    · exact Decision.denied.inj h ▸ rfl
    · cases h

/-- What an engine denies, it denies with a fault that says so. -/
theorem denies_of_decide {mode : Mode} {c : Configuration} {a : Access} {den : Denial}
    (h : (ofMode mode c).value.decide a = .denied den) : den.toFault.Denies a den.reason := by
  have hmethod : den.reason = .blockedType → a.kind = .method := by
    intro hreason
    cases hkind : a.kind with
    | method => rfl
    | property => exact nomatch hreason.symm.trans (reason_of_decide_property h hkind)
  have hdenies := Access.denies_toFault hmethod
  rwa [← eq_denial_of_decide h] at hdenies

end Policy

/-- Exactly the checks that the innermost policy denies fail, and they fail with its denial. -/
theorem Request.run_eq_error_iff {q : Request} {fault : Fault} :
    q.run.value = .outcome (.error fault) ↔
      q.checks = true ∧ ∃ den, q.decision = .denied den ∧ fault = den.toFault := by
  rw [run_eq]
  cases q.checks with
  | false => exact iff_of_false nofun nofun
  | true =>
    have hvalue : (replyWith (q.decision.settle q.policy.innermost.mode)).value =
        .outcome q.decision.toExcept := rfl
    rw [if_pos rfl, hvalue, Reply.outcome.injEq]
    constructor
    · exact fun h => ⟨rfl, Decision.exists_denial_of_toExcept h⟩
    · rintro ⟨-, den, hdecision, rfl⟩
      rw [hdecision]
      rfl

/-! ### Faults of the configuration -/

/-- The fault tells of a wrong policy. -/
structure Fault.OfConfiguration (f : Fault) : Prop where
  isDenial : f.isDenial = false
  type? : f.type? = none
  member? : f.member? = none
  code : f.code ∈ ["INVALID_CONFIG", "UNSUPPORTED_VERSION", "UNKNOWN_TYPE"]

namespace Fault.OfConfiguration

theorem badConfig (cause : ConfigFault) : (badConfig cause).OfConfiguration :=
  ⟨rfl, rfl, rfl, .head _⟩

theorem badVersion : badVersion.OfConfiguration := ⟨rfl, rfl, rfl, .tail _ (.head _)⟩

theorem unknownType (name : String) : (unknownType name).OfConfiguration :=
  ⟨rfl, rfl, rfl, .tail _ (.tail _ (.head _))⟩

end Fault.OfConfiguration

/-- Whatever goes wrong is a wrong policy. -/
def FailsByConfig {α : Type} (x : Except Fault α) : Prop :=
  ∀ fault, x = .error fault → fault.OfConfiguration

namespace FailsByConfig

variable {α β : Type}

theorem ok (a : α) : FailsByConfig (.ok a) := nofun

theorem error {fault : Fault} (h : fault.OfConfiguration) :
    FailsByConfig (.error fault : Except Fault α) := by
  rintro _ ⟨⟩
  exact h

theorem bind {x : Except Fault α} {f : α → Except Fault β} (hx : FailsByConfig x)
    (hf : ∀ a, FailsByConfig (f a)) : FailsByConfig (x >>= f) := by
  cases x with
  | error fault => exact error (hx fault rfl)
  | ok a => exact hf a

end FailsByConfig

/-- Building a draft looks at its names alone. -/
theorem Draft.failsByConfig_build (d : Draft) : FailsByConfig d.build := by
  rw [build]
  split
  · exact .error (.badConfig _)
  · exact .ok _

namespace Rule

mutual

/-- A rule fails only if the rules of a merge cannot be built. -/
theorem failsByConfig_apply (rule : Rule) (d : Draft) : FailsByConfig (rule.apply d) :=
  match rule with
  | .trust _ | .allow _ | .block _ | .blockOn .. | .blockType _ | .blockProperties _ |
    .preset .. => .ok _
  | .merge rules => by
    have hbuild : FailsByConfig (applyAll rules {} >>= Draft.build) :=
      (failsByConfig_applyAll rules {}).bind Draft.failsByConfig_build
    rw [apply_merge, build_eq]
    exact hbuild.bind fun _ => .ok _

/-- Rules fail with what the first of them that fails does. -/
theorem failsByConfig_applyAll (rules : List Rule) (d : Draft) :
    FailsByConfig (applyAll rules d) :=
  match rules with
  | [] => .ok d
  | rule :: rest => by
    rw [applyAll_cons]
    exact (failsByConfig_apply rule d).bind (failsByConfig_applyAll rest)

end

theorem failsByConfig_build (rules : List Rule) : FailsByConfig (build rules) := by
  rw [build_eq]
  exact (failsByConfig_applyAll rules {}).bind Draft.failsByConfig_build

end Rule

theorem Registry.failsByConfig_resolve (r : Registry) (name : String) :
    FailsByConfig (r.resolve name) := by
  rw [resolve]
  split
  · exact .ok _
  · exact .error (.unknownType name)

namespace Document

/-- What shows without a registry is the version, or one of the ways a policy can be wrong. -/
theorem ofConfiguration_of_fault? {d : Document} {fault : Fault} (h : d.fault? = some fault) :
    fault.OfConfiguration := by
  unfold fault? at h
  split at h
  · exact Option.some.inj h ▸ .badVersion
  · obtain ⟨cause, rfl⟩ : ∃ cause, fault = .badConfig cause := by
      split at h
      · exact ⟨_, (Option.some.inj h).symm⟩
      · split at h
        · exact ⟨_, (Option.some.inj h).symm⟩
        · split_ifs at h <;> exact ⟨_, (Option.some.inj h).symm⟩
    exact .badConfig cause

theorem failsByConfig_validate (d : Document) : FailsByConfig d.validate := by
  rw [validate]
  split
  · exact .error (ofConfiguration_of_fault? ‹_›)
  · exact .ok _

theorem failsByConfig_resolveInto {α : Type} (r : Registry) (name : α → String)
    (add : Draft → α → TypeTag → Draft) (xs : List α) (draft : Draft) :
    FailsByConfig (resolveInto r name add xs draft) := by
  induction xs generalizing draft with
  | nil => exact .ok _
  | cons x rest ih => exact (r.failsByConfig_resolve _).bind fun k => ih (add draft x k)

theorem failsByConfig_compile (d : Document) (r : Registry) : FailsByConfig (d.compile r) :=
  (failsByConfig_resolveInto r id _ _ _).bind fun trusting =>
    (failsByConfig_resolveInto r Prod.fst _ _ trusting).bind fun blocking =>
      (failsByConfig_resolveInto r id _ _ blocking).bind fun _ =>
        (Draft.failsByConfig_build _).bind fun _ => .ok _

theorem failsByConfig_accept (d : Document) (r : Registry) : FailsByConfig (d.accept r).value := by
  rw [value_accept]
  exact d.failsByConfig_validate.bind fun _ => d.failsByConfig_compile r

end Document

/-- A text that cannot be read is a fault of the configuration like any other. -/
theorem Format.failsByConfig_load (format : Format) (text : String) (r : Registry) :
    FailsByConfig (format.load text r).value := by
  rw [load]
  split
  · exact .error (.badConfig _)
  · exact Document.failsByConfig_accept _ r

/-- **Denials and wrong policies are kept apart.** A check under an engine, by whichever way and
through however many sandboxes, fails exactly if the engine does not allow the access. It fails with
a denial that names the concrete type of the value and the member as it was asked for, and the code
goes by the kind of the access. Whatever
fails on the way to a configuration or to settings, be it by calls, rules, a registry, a document or
a text, tells of a wrong policy instead: it names nothing and has a code of its own. -/
theorem denies_or_ofConfiguration :
    (∀ (mode : Mode) (c : Configuration) (q : Request), q.checks = true →
      q.policy.innermost = (Policy.ofMode mode c).value →
        ((∃ fault, q.run.value = .outcome (.error fault)) ↔
          (Policy.ofMode mode c).value.decide q.access ≠ .allowed) ∧
        ∀ fault, q.run.value = .outcome (.error fault) →
          ∃ den, (Policy.ofMode mode c).value.decide q.access = .denied den ∧
            fault.Denies q.access den.reason) ∧
    (∀ d : Draft, FailsByConfig d.build) ∧
    (∀ rules : List Rule, FailsByConfig (Rule.build rules)) ∧
    (∀ (r : Registry) (name : String), FailsByConfig (r.resolve name)) ∧
    (∀ d : Document, FailsByConfig d.validate) ∧
    (∀ (d : Document) (r : Registry),
      FailsByConfig (d.compile r) ∧ FailsByConfig (d.accept r).value) ∧
    ∀ (format : Format) (text : String) (r : Registry),
      FailsByConfig (format.load text r).value := by
  refine ⟨fun mode c q hchecks hinner => ⟨?_, fun fault h => ?_⟩, Draft.failsByConfig_build,
    Rule.failsByConfig_build, Registry.failsByConfig_resolve, Document.failsByConfig_validate,
    fun d r => ⟨d.failsByConfig_compile r, d.failsByConfig_accept r⟩, Format.failsByConfig_load⟩
  · simp only [Request.run_eq_error_iff, hchecks, Request.decision, hinner, true_and]
    cases (Policy.ofMode mode c).value.decide q.access <;> simp
  · obtain ⟨_, den, hdecision, rfl⟩ := Request.run_eq_error_iff.1 h
    rw [Request.decision, hinner] at hdecision
    exact ⟨den, hdecision, Policy.denies_of_decide hdecision⟩

/-- A method denied for a type that the value only counts as an instance of, two sandboxes deep; a
bad name inside a merge; and a policy text of a version that is not understood. -/
theorem denies_or_ofConfiguration_lineage :
    let c : Configuration := { blockedTypes := [⟨7, "app::Model"⟩] }
    let page : Target := { type := ⟨8, "app::Page"⟩, conformsTo := [⟨7, "app::Model"⟩] }
    let q : Request := .checkMethod (Policy.wrap^[2] (.legacy c)) page "Save"
    q.run.value = .outcome (.error (.typeDenied "Page" "Save")) ∧
      (Fault.typeDenied "Page" "Save").Denies q.access .blockedType ∧
      (∃ fault, Rule.build [.merge [.block ["a b"]]] = .error fault ∧ fault.OfConfiguration) ∧
      (Format.yaml.load "version: 2" ⟨[]⟩).value.isOk = false ∧
      FailsByConfig (Format.yaml.load "version: 2" ⟨[]⟩).value := by
  obtain ⟨hcheck, -, hrules, -, -, -, hload⟩ := denies_or_ofConfiguration
  -- Said without the variables of the statement: names are computed on closed terms alone.
  have hrun : (Request.checkMethod
      (Policy.wrap^[2] (.legacy { blockedTypes := [⟨7, "app::Model"⟩] }))
      { type := ⟨8, "app::Page"⟩, conformsTo := [⟨7, "app::Model"⟩] } "Save").run.value =
        .outcome (.error (.typeDenied "Page" "Save")) := rfl
  obtain ⟨den, -, hdenies⟩ :=
    (hcheck .legacy { blockedTypes := [⟨7, "app::Model"⟩] } _ (by rfl) (by rfl)).2 _ hrun
  have hreason : den.reason = .blockedType := hdenies.typeDenied.1 ⟨_, _, rfl⟩
  have hname : Rule.build [.merge [.block ["a b"]]] =
      .error (.badConfig (.name (.blank "a b"))) := rfl
  exact ⟨hrun, hreason ▸ hdenies, ⟨_, hname, hrules _ _ hname⟩, by decide +kernel, hload _ _ _⟩

end TemplateSandbox
