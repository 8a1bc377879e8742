/-
# Verdicts of both engines

The engines agree on what there is to find and differ in what they make of it
(`Findings.verdict`). What their verdicts have in common is said here once.

A verdict is a reason or none, put into words with the names of the access
(`Findings.verdict_eq_ofReason?`): two verdicts with one reason differ in names
alone. The reason hangs on the findings, on the kind of the access and on
whether the value is one of the template engine's own, and on no name
(`Findings.reason?_verdict_congr`). A denial quotes the member as it was asked
for, and so does the fault that stops the render (`Policy.quotes_ofMode`).
-/

import TemplateSandbox.Sandbox
import TemplateSandbox.Proofs.Findings

namespace TemplateSandbox

namespace Findings

/-- On what clauses speak alike, they lead to the same findings. -/
theorem ofClauses_eq_of_speak_iff {cs cs' : List Clause} {t u : Target} {m n : String}
    (hdeclares : t.capability.Declares m ↔ u.capability.Declares n)
    (hspeak : ∀ {reason? : Option Reason},
      Clause.Speak cs reason? t m ↔ Clause.Speak cs' reason? u n) :
    ofClauses cs t m = ofClauses cs' u n :=
  Findings.ext (decide_eq_decide.2 (or_congr hdeclares hspeak)) (decide_eq_decide.2 hspeak)
    (decide_eq_decide.2 hspeak) (decide_eq_decide.2 hspeak) (decide_eq_decide.2 hspeak)

section

variable {f : Findings} {t : Target} {m : String}

/-- What the strict engine allows of methods. -/
theorem strictVerdict_eq_allowed_iff : f.strictVerdict (.method t m) = .allowed ↔
    t.IsEngineOwned ∨ f.admitted ∧ ¬f.blockedForType ∧ ¬f.blockedName := by
  obtain ⟨admitted, forType, _, name, _⟩ := f
  by_cases howned : t.IsEngineOwned
  · simp [strictVerdict, Access.method, howned]
  · cases admitted <;> cases forType <;> cases name <;> simp [strictVerdict, Access.method, howned]

/-- What the strict engine denies for want of anything that admits it. -/
theorem strictVerdict_eq_notAllowListed_iff :
    f.strictVerdict (.method t m) = .denied ((Access.method t m).denial .notAllowListed) ↔
      ¬t.IsEngineOwned ∧ ¬f.admitted := by
  obtain ⟨admitted, forType, _, name, _⟩ := f
  by_cases howned : t.IsEngineOwned
  · simp [strictVerdict, Access.method, howned]
  · cases admitted <;> cases forType <;> cases name <;>
      simp [strictVerdict, Access.method, Access.denial, howned]

/-- What the legacy engine allows of methods. -/
theorem legacyVerdict_eq_allowed_iff : f.legacyVerdict (.method t m) = .allowed ↔
    t.IsEngineOwned ∨ ¬f.blockedForType ∧ ¬f.blockedType ∧ ¬f.blockedName := by
  obtain ⟨_, forType, type, name, _⟩ := f
  by_cases howned : t.IsEngineOwned
  · simp [legacyVerdict, Access.method, howned]
  · cases forType <;> cases type <;> cases name <;> simp [legacyVerdict, Access.method, howned]

/-- What the legacy engine allows of properties. -/
theorem legacyVerdict_property_eq_allowed_iff :
    f.legacyVerdict (.property t m) = .allowed ↔ ¬f.blockedProperty := by
  simp [legacyVerdict, Access.property]

end

/-- What the engine of a mode makes of the findings. -/
def verdict (f : Findings) : Mode → Access → Decision
  | .strict => f.strictVerdict
  | .legacy => f.legacyVerdict

/-- A verdict says nothing of an access but the reason to deny it, and its names. -/
theorem verdict_eq_ofReason? (f : Findings) (mode : Mode) (a : Access) :
    f.verdict mode a = .ofReason? a (f.verdict mode a).reason? := by
  obtain ⟨t, m, kind⟩ := a
  cases kind with
  | method =>
    cases mode <;> simp only [verdict, strictVerdict, legacyVerdict] <;> split_ifs <;> rfl
  | property =>
    cases mode with
    | strict => rfl
    | legacy =>
      simp only [verdict, legacyVerdict]
      split_ifs <;> rfl

/-- No name of the access has a part in the reason. -/
theorem reason?_verdict_congr (f : Findings) (mode : Mode) {a b : Access} (hkind : a.kind = b.kind)
    (howned : a.target.IsEngineOwned ↔ b.target.IsEngineOwned) :
    (f.verdict mode a).reason? = (f.verdict mode b).reason? := by
  obtain ⟨t, m, kind⟩ := a
  obtain ⟨u, n, kind'⟩ := b
  obtain rfl : kind = kind' := hkind
  have howned : t.IsEngineOwned ↔ u.IsEngineOwned := howned
  cases kind with
  | method =>
    cases mode <;> simp only [verdict, strictVerdict, legacyVerdict, howned] <;> split_ifs <;> rfl
  | property =>
    cases mode with
    | strict => rfl
    | legacy =>
      simp only [verdict, legacyVerdict]
      split_ifs <;> rfl

end Findings

namespace Policy

/-- The engine of a mode gives its verdict on what the configuration answers. -/
theorem decide_ofMode (mode : Mode) (c : Configuration) (a : Access) :
    (ofMode mode c).value.decide a =
      (Findings.ofConfiguration c a.target a.member).verdict mode a := by
  cases mode with
  | strict => exact decide_strict c a
  | legacy => exact decide_legacy c a

/-- The engine over a configuration gives its verdict on the clauses that it holds. -/
theorem decide_ofMode_of_holds {c : Configuration} {cs : List Clause}
    (h : ∀ e : Clause, c.Holds e ↔ e.SaidBy cs) (mode : Mode) (a : Access) :
    (ofMode mode c).value.decide a = (Findings.ofClauses cs a.target a.member).verdict mode a := by
  rw [decide_ofMode, Findings.ofConfiguration_eq h]

/-- The strict engine over what some rules build gives its verdict on the clauses of the rules. -/
theorem strict_of_build {rules : List Rule} {c : Configuration} (h : Rule.build rules = .ok c)
    (a : Access) : (strict c).decide a =
      (Findings.ofClauses (Rule.clausesAll rules) a.target a.member).strictVerdict a :=
  decide_ofMode_of_holds (Rule.holds_build h) .strict a

/-- The legacy engine over what some rules build gives its verdict on the clauses of the rules. -/
theorem legacy_of_build {rules : List Rule} {c : Configuration} (h : Rule.build rules = .ok c)
    (a : Access) : (legacy c).decide a =
      (Findings.ofClauses (Rule.clausesAll rules) a.target a.member).legacyVerdict a :=
  decide_ofMode_of_holds (Rule.holds_build h) .legacy a

/-- A decision of an engine says nothing of an access but the reason to deny it, and its names. -/
theorem decide_eq_ofReason? (mode : Mode) (c : Configuration) (a : Access) :
    (ofMode mode c).value.decide a = .ofReason? a ((ofMode mode c).value.decide a).reason? := by
  rw [decide_ofMode]
  exact Findings.verdict_eq_ofReason? _ mode a

/-- On values of one concrete type, decisions for one reason are one. -/
theorem decide_eq_of_reason?_eq {mode : Mode} {c c' : Configuration} {t u : Target} {m : String}
    {kind : Kind} (h : ((ofMode mode c).value.decide ⟨t, m, kind⟩).reason? =
      ((ofMode mode c').value.decide ⟨u, m, kind⟩).reason?) (htype : t.type = u.type) :
    (ofMode mode c).value.decide ⟨t, m, kind⟩ = (ofMode mode c').value.decide ⟨u, m, kind⟩ := by
  have hdenial : ∀ reason, Access.denial ⟨t, m, kind⟩ reason = Access.denial ⟨u, m, kind⟩ reason :=
    fun reason => by rw [Access.denial, Access.denial, htype]
  rw [decide_eq_ofReason?, decide_eq_ofReason? mode c', h]
  cases ((ofMode mode c').value.decide ⟨u, m, kind⟩).reason? with
  | none => rfl
  | some reason => exact congrArg Decision.denied (hdenial reason)

/-- On values of one concrete type, decisions on one set of findings are one. -/
theorem decide_eq_of_findings_eq {c : Configuration} {t u : Target} {m : String}
    (h : Findings.ofConfiguration c t m = Findings.ofConfiguration c u m)
    (htype : t.type = u.type) (mode : Mode) (kind : Kind) :
    (ofMode mode c).value.decide ⟨t, m, kind⟩ = (ofMode mode c).value.decide ⟨u, m, kind⟩ := by
  refine decide_eq_of_reason?_eq ?_ htype
  rw [decide_ofMode, decide_ofMode]
  show ((Findings.ofConfiguration c t m).verdict mode _).reason? = _
  rw [h]
  refine Findings.reason?_verdict_congr _ mode rfl ?_
  show t.IsEngineOwned ↔ u.IsEngineOwned
  rw [Target.IsEngineOwned, Target.IsEngineOwned, htype]

/-- A denial by an engine has the names of the access. -/
theorem eq_denial_of_decide {mode : Mode} {c : Configuration} {a : Access} {den : Denial}
    (h : (ofMode mode c).value.decide a = .denied den) : den = a.denial den.reason := by
  have hreason := decide_eq_ofReason? mode c a
  rw [h] at hreason
  exact Decision.denied.inj hreason

end Policy

/-! ### Denials quote the member -/

/-- The text of a fault has the member in it, between quotation marks and in full. -/
def Fault.Quotes (fault : Fault) (m : String) : Prop :=
  fault.member? = some m ∧ ∃ before after, fault.message = before ++ "\"" ++ m ++ "\"" ++ after

/-- The wording of a denial, cut at the quotation marks around the member. -/
theorem append_quoted {opening closing : String} (before after : String)
    (hopening : opening = before ++ "\"") (hclosing : closing = "\"" ++ after)
    (m type rest : String) :
    opening ++ m ++ closing ++ type ++ rest =
      before ++ "\"" ++ m ++ "\"" ++ (after ++ type ++ rest) := by
  rw [hopening, hclosing]
  simp only [String.append_assoc]

/-- The fault of a denial quotes the member of the denial. -/
theorem Denial.quotes_toFault (den : Denial) : den.toFault.Quotes den.member := by
  obtain ⟨type, m, kind, reason⟩ := den
  have hread : (Fault.propertyDenied type m).Quotes m :=
    ⟨rfl, _, _, append_quoted "reading " " property on a \"" (by decide) (by decide) ..⟩
  have hcall : (Fault.methodDenied type m).Quotes m :=
    ⟨rfl, _, _, append_quoted "calling " " method on a \"" (by decide) (by decide) ..⟩
  have hany : (Fault.typeDenied type m).Quotes m :=
    ⟨rfl, _, _,
      append_quoted "calling any method (" " requested) on a \"" (by decide) (by decide) ..⟩
  cases kind with
  | property => exact hread
  | method =>
    cases reason with
    | blockedType => exact hany
    | _ => exact hcall

/-- An outcome that is a fault comes of a denial. -/
theorem Decision.exists_denial_of_toExcept {d : Decision} {fault : Fault}
    (h : d.toExcept = .error fault) : ∃ den, d = .denied den ∧ fault = den.toFault := by
  cases d with
  | allowed => cases h
  | denied den => exact ⟨den, rfl, (Except.error.inj h).symm⟩

/-- Should the policy deny the access, it quotes the member as it was asked for, in the denial and
in the fault that stops the render. -/
def Policy.Quotes (p : Policy) (a : Access) : Prop :=
  (∀ den, p.decide a = .denied den → den.member = a.member) ∧
    ∀ fault, (p.check a).value = .error fault → fault.Quotes a.member

/-- **An engine quotes the member as it was asked for.** -/
theorem Policy.quotes_ofMode (mode : Mode) (c : Configuration) (a : Access) :
    (ofMode mode c).value.Quotes a := by
  have hdenial : ∀ den, (ofMode mode c).value.decide a = .denied den → den.member = a.member := by
    intro den h
    rw [eq_denial_of_decide h]
    rfl
  refine ⟨hdenial, fun fault h => ?_⟩
  rw [check_eq] at h
  obtain ⟨den, hdecide, rfl⟩ := Decision.exists_denial_of_toExcept h
  exact hdenial den hdecide ▸ den.quotes_toFault

end TemplateSandbox
