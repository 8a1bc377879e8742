/-
# One more rule

`Rule.Inserted rule rules rules'` says that `rules'` is `rules` with one more
rule, at any place of the list or of a list that is merged, however deep. What
the longer list says is what the shorter one says and what the rule says
(`Rule.Inserted.speak_iff`), so every finding stays, and a finding can only be
new if the rule has a clause for it:

| rule | can add | strict decisions | legacy decisions |
| --- | --- | --- | --- |
| `trust`, `allow` | `admitted` | `notAllowListed` may go | stay |
| `block`, `blockOn` | `blockedName`, `blockedForType` | fewer allowed | fewer allowed |
| `blockType`, `blockProperties` | `blockedType`, `blockedProperty` | stay | fewer allowed |
| `preset`, `merge` | several | | fewer allowed |

The strict engine asks first what admits an access, so what admits more leaves
every veto as it was (`Findings.strictVerdict_of_admitted`) and what vetoes more
leaves every access that nothing admits (`Findings.strictVerdict_of_vetoed`).
-/

import TemplateSandbox.Proofs.Verdict

namespace TemplateSandbox

namespace Rule

/-- The second list is the first with one more rule, at any place of it or inside a merge. -/
inductive Inserted (rule : Rule) : List Rule → List Rule → Prop
  /-- In front. -/
  | here (rules : List Rule) : Inserted rule rules (rule :: rules)
  /-- Somewhere behind the first rule. -/
  | later (first : Rule) {rest rest' : List Rule} :
    Inserted rule rest rest' → Inserted rule (first :: rest) (first :: rest')
  /-- Among the rules of a merge that comes first. -/
  | inside (rest : List Rule) {inner inner' : List Rule} :
    Inserted rule inner inner' → Inserted rule (.merge inner :: rest) (.merge inner' :: rest)

namespace Inserted

variable {rule : Rule} {rules rules' : List Rule}

/-- Any place of a list will do. -/
theorem between (rule : Rule) (before after : List Rule) :
    Inserted rule (before ++ after) (before ++ rule :: after) := by
  induction before with
  | nil => exact .here after
  | cons first rest ih => exact .later first ih

/-- The clauses of the longer list are those of the rule and those of the shorter list. -/
theorem mem_clausesAll_iff (h : Inserted rule rules rules') {e : Clause} :
    e ∈ clausesAll rules' ↔ e ∈ rule.clauses ∨ e ∈ clausesAll rules := by
  induction h with
  | here rules => rw [clausesAll, List.mem_append]
  | later first _ ih =>
    rw [clausesAll, clausesAll, List.mem_append, List.mem_append, ih, or_left_comm]
  | inside rest _ ih =>
    -- The clauses of a merge stand before those of the rest, and the new rule's among them.
    rw [clausesAll, clausesAll, clauses, clauses, List.mem_append, List.mem_append, ih, or_assoc]

/-- The longer list says what the rule says and what the shorter list says. -/
theorem speak_iff (h : Inserted rule rules rules') {reason? : Option Reason} {t : Target}
    {m : String} : Clause.Speak (clausesAll rules') reason? t m ↔
      Clause.Speak rule.clauses reason? t m ∨ Clause.Speak (clausesAll rules) reason? t m := by
  simp only [Clause.Speak, h.mem_clausesAll_iff, or_and_right, exists_or]

/-- Of what the rule is silent on, both lists say the same. -/
theorem speak_iff_of_silent (h : Inserted rule rules rules') {reason? : Option Reason} {t : Target}
    {m : String} (hsilent : ∀ e ∈ rule.clauses, e.reason? = reason? → ¬e.Covers t m) :
    Clause.Speak (clausesAll rules') reason? t m ↔
      Clause.Speak (clausesAll rules) reason? t m := by
  rw [h.speak_iff, or_iff_right]
  rintro ⟨e, he, hreason, hcovers⟩
  exact hsilent e he hreason hcovers

end Inserted

/-! ### What a rule can say -/

/-- The rule admits methods, by type or by name. -/
def Admits : Rule → Prop
  | .trust _ | .allow _ => True
  | _ => False

/-- The rule vetoes methods by name, on every value or on those of a type. -/
def Vetoes : Rule → Prop
  | .block _ | .blockOn _ _ => True
  | _ => False

/-- The rule is one that only the legacy engine knows. -/
def LegacyOnly : Rule → Prop
  | .blockType _ | .blockProperties _ => True
  | _ => False

/-- A rule that admits gives no veto. -/
theorem Admits.reason?_ne : ∀ {rule : Rule}, rule.Admits → ∀ {reason : Reason},
    ∀ e ∈ rule.clauses, e.reason? ≠ some reason
  | .trust _, _, _, e, he => by
    obtain rfl := List.mem_singleton.1 he
    exact nofun
  | .allow _, _, _, e, he => by
    obtain ⟨n, _, rfl⟩ := List.mem_map.1 he
    exact nofun

/-- A rule that vetoes methods admits nothing. -/
theorem Vetoes.reason?_ne : ∀ {rule : Rule}, rule.Vetoes → ∀ e ∈ rule.clauses, e.reason? ≠ none
  | .block _, _, e, he => by
    obtain ⟨n, _, rfl⟩ := List.mem_map.1 he
    exact nofun
  | .blockOn _ _, _, e, he => by
    obtain ⟨n, _, rfl⟩ := List.mem_map.1 he
    exact nofun

/-- A rule that only the legacy engine knows says nothing that the strict engine asks for. -/
theorem LegacyOnly.reason?_ne : ∀ {rule : Rule}, rule.LegacyOnly → ∀ {reason? : Option Reason},
    reason? ≠ some .blockedType → reason? ≠ some .blockedProperty →
      ∀ e ∈ rule.clauses, e.reason? ≠ reason?
  | .blockType _, _, _, htype, _, e, he => by
    obtain rfl := List.mem_singleton.1 he
    exact htype.symm
  | .blockProperties _, _, _, _, hproperty, e, he => by
    obtain ⟨n, _, rfl⟩ := List.mem_map.1 he
    exact hproperty.symm

end Rule

/-! ### What more findings do to a verdict -/

namespace Findings

/-- Everything that is found in `f` is found in `g`. -/
structure Within (f g : Findings) : Prop where
  /-- What is admitted stays so. -/
  admitted : f.admitted = true → g.admitted = true
  /-- What is vetoed on a type stays so. -/
  blockedForType : f.blockedForType = true → g.blockedForType = true
  /-- A type that is vetoed stays so. -/
  blockedType : f.blockedType = true → g.blockedType = true
  /-- A name that is vetoed stays so. -/
  blockedName : f.blockedName = true → g.blockedName = true
  /-- A property that is vetoed stays so. -/
  blockedProperty : f.blockedProperty = true → g.blockedProperty = true

variable {f g : Findings} (a : Access)

/-- Where more is admitted and the same is vetoed, a strict verdict changes only if it was that
nothing admits the method. -/
theorem strictVerdict_of_admitted (hadmitted : f.admitted = true → g.admitted = true)
    (hfor : g.blockedForType = f.blockedForType) (hname : g.blockedName = f.blockedName) :
    f.strictVerdict a = .denied (a.denial .notAllowListed) ∨
      g.strictVerdict a = f.strictVerdict a := by
  obtain ⟨t, m, kind⟩ := a
  cases kind with
  | property => exact .inr rfl
  | method =>
    by_cases howned : t.IsEngineOwned
    · refine .inr ?_
      simp only [strictVerdict, if_pos howned]
    -- Vetoes are asked for last, so both verdicts can only part on what admits the method.
    · cases hf : f.admitted with
      | false => exact .inl (strictVerdict_eq_notAllowListed_iff.2 ⟨howned, ne_true_of_eq_false hf⟩)
      | true =>
        refine .inr ?_
        simp only [strictVerdict, hfor, hname, hf, hadmitted hf]

/-- Where more is vetoed and the same is admitted, a strict verdict that allows was one before,
and one that nothing admits the method is kept. -/
theorem strictVerdict_of_vetoed (h : f.Within g) (hadmitted : g.admitted = f.admitted) :
    (g.strictVerdict a = .allowed → f.strictVerdict a = .allowed) ∧
      (f.strictVerdict a = .denied (a.denial .notAllowListed) →
        g.strictVerdict a = f.strictVerdict a) := by
  obtain ⟨t, m, kind⟩ := a
  cases kind with
  | property => exact ⟨fun _ => rfl, fun _ => rfl⟩
  | method =>
    constructor
    · intro hg
      refine strictVerdict_eq_allowed_iff.2 ((strictVerdict_eq_allowed_iff.1 hg).imp_right ?_)
      rintro ⟨hgadmitted, hfor, hname⟩
      exact ⟨hadmitted ▸ hgadmitted, mt h.blockedForType hfor, mt h.blockedName hname⟩
    · intro hf
      have hwant := strictVerdict_eq_notAllowListed_iff.1 hf
      exact (strictVerdict_eq_notAllowListed_iff.2 (hadmitted ▸ hwant)).trans hf.symm

/-- Where more is found, a legacy verdict that allows was one before. -/
theorem legacyVerdict_of_within (h : f.Within g) (hg : g.legacyVerdict a = .allowed) :
    f.legacyVerdict a = .allowed := by
  obtain ⟨t, m, kind⟩ := a
  cases kind with
  | method =>
    refine legacyVerdict_eq_allowed_iff.2 ((legacyVerdict_eq_allowed_iff.1 hg).imp_right ?_)
    rintro ⟨hfor, htype, hname⟩
    exact ⟨mt h.blockedForType hfor, mt h.blockedType htype, mt h.blockedName hname⟩
  | property =>
    have hproperty := legacyVerdict_property_eq_allowed_iff.1 hg
    exact legacyVerdict_property_eq_allowed_iff.2 (mt h.blockedProperty hproperty)

end Findings

/-! ### What one more rule does to a decision -/

namespace Rule.Inserted

variable {rule : Rule} {rules rules' : List Rule} (h : Inserted rule rules rules')
  {t : Target} {m : String}
include h

/-- With one more rule, all is found that was found before. -/
theorem within : (Findings.ofClauses (clausesAll rules) t m).Within
    (Findings.ofClauses (clausesAll rules') t m) := by
  have hspeak : ∀ {reason? : Option Reason}, Clause.Speak (clausesAll rules) reason? t m →
      Clause.Speak (clausesAll rules') reason? t m := fun hs => h.speak_iff.2 (.inr hs)
  constructor <;> simp only [Findings.ofClauses, decide_eq_true_eq]
  · exact Or.imp_right hspeak
  all_goals exact hspeak

/-- A rule that admits nothing adds nothing to what is admitted. -/
theorem admitted_eq (hsilent : ∀ e ∈ rule.clauses, e.reason? ≠ none) :
    (Findings.ofClauses (clausesAll rules') t m).admitted =
      (Findings.ofClauses (clausesAll rules) t m).admitted :=
  decide_eq_decide.2 (or_congr_right (h.speak_iff_of_silent fun e he hreason =>
    absurd hreason (hsilent e he)))

/-- A rule that gives no veto of a kind adds nothing to the finding of that kind. -/
theorem speak_eq {reason : Reason} (hsilent : ∀ e ∈ rule.clauses, e.reason? ≠ some reason) :
    decide (Clause.Speak (clausesAll rules') (some reason) t m) =
      decide (Clause.Speak (clausesAll rules) (some reason) t m) :=
  decide_eq_decide.2 (h.speak_iff_of_silent fun e he hreason => absurd hreason (hsilent e he))

/-- A rule that is about another value or another member changes no finding. -/
theorem ofClauses_eq (hsilent : ∀ e ∈ rule.clauses, ¬e.Covers t m) :
    Findings.ofClauses (clausesAll rules') t m = Findings.ofClauses (clausesAll rules) t m :=
  Findings.ofClauses_eq_of_speak_iff Iff.rfl (h.speak_iff_of_silent fun e he _ => hsilent e he)

end Rule.Inserted

namespace Policy

variable {rule : Rule} {rules rules' : List Rule} {c c' : Configuration}
  (hinserted : Rule.Inserted rule rules rules') (h : Rule.build rules = .ok c)
  (h' : Rule.build rules' = .ok c') (a : Access)
include hinserted h h'

/-- A rule that admits only lifts denials of the strict engine for want of a rule that admits. -/
theorem strict_of_admits (hrule : rule.Admits) :
    (strict c).decide a = .denied (a.denial .notAllowListed) ∨
      (strict c').decide a = (strict c).decide a := by
  rw [strict_of_build h, strict_of_build h']
  exact Findings.strictVerdict_of_admitted a hinserted.within.admitted
    (hinserted.speak_eq hrule.reason?_ne) (hinserted.speak_eq hrule.reason?_ne)

/-- A rule that admits does nothing to the legacy engine. -/
theorem legacy_of_admits (hrule : rule.Admits) : (legacy c').decide a = (legacy c).decide a := by
  rw [legacy_of_build h, legacy_of_build h']
  exact Findings.legacyVerdict_congr a (hinserted.speak_eq hrule.reason?_ne)
    (hinserted.speak_eq hrule.reason?_ne) (hinserted.speak_eq hrule.reason?_ne)
    (hinserted.speak_eq hrule.reason?_ne)

/-- A rule that vetoes methods only takes from what the strict engine allows, and leaves what
nothing admits. -/
theorem strict_of_vetoes (hrule : rule.Vetoes) :
    ((strict c').decide a = .allowed → (strict c).decide a = .allowed) ∧
      ((strict c).decide a = .denied (a.denial .notAllowListed) →
        (strict c').decide a = (strict c).decide a) := by
  rw [strict_of_build h, strict_of_build h']
  exact Findings.strictVerdict_of_vetoed a hinserted.within
    (hinserted.admitted_eq hrule.reason?_ne)

/-- A rule that only the legacy engine knows does nothing to the strict engine. -/
theorem strict_of_legacyOnly (hrule : rule.LegacyOnly) :
    (strict c').decide a = (strict c).decide a := by
  rw [strict_of_build h, strict_of_build h']
  exact Findings.strictVerdict_congr a (hinserted.admitted_eq (hrule.reason?_ne nofun nofun))
    (hinserted.speak_eq (hrule.reason?_ne nofun nofun))
    (hinserted.speak_eq (hrule.reason?_ne nofun nofun))

/-- What the legacy engine allows with one more rule, it allows without it. -/
theorem legacy_of_inserted (hallowed : (legacy c').decide a = .allowed) :
    (legacy c).decide a = .allowed := by
  rw [legacy_of_build h'] at hallowed
  rw [legacy_of_build h]
  exact Findings.legacyVerdict_of_within a hinserted.within hallowed

/-- A rule that is about another value or another member changes no decision. -/
theorem decide_of_silent (hsilent : ∀ e ∈ rule.clauses, ¬e.Covers a.target a.member)
    (mode : Mode) : (ofMode mode c').value.decide a = (ofMode mode c).value.decide a := by
  rw [decide_ofMode_of_holds (Rule.holds_build h), decide_ofMode_of_holds (Rule.holds_build h'),
    hinserted.ofClauses_eq hsilent]

end Policy

/-- **One more rule can only do what its kind says.** Under the strict engine a rule that admits
allows more and keeps every veto; a rule that vetoes methods allows less and keeps every access
that nothing admits; a rule that only the legacy engine knows changes nothing. Under the legacy
engine a rule that admits changes nothing, and no rule whatever allows more. -/
theorem decide_of_inserted {rule : Rule} {rules rules' : List Rule} {c c' : Configuration}
    (hinserted : Rule.Inserted rule rules rules') (h : Rule.build rules = .ok c)
    (h' : Rule.build rules' = .ok c') :
    (rule.Admits → ∀ a,
      ((Policy.strict c).decide a = .allowed → (Policy.strict c').decide a = .allowed) ∧
      (∀ den, (Policy.strict c).decide a = .denied den →
        den.reason = .blockedForType ∨ den.reason = .blockedName →
          (Policy.strict c').decide a = .denied den) ∧
      (Policy.legacy c').decide a = (Policy.legacy c).decide a) ∧
    (rule.Vetoes → ∀ a,
      ((Policy.strict c).decide a ≠ .allowed → (Policy.strict c').decide a ≠ .allowed) ∧
      ∀ den, (Policy.strict c).decide a = .denied den → den.reason = .notAllowListed →
        (Policy.strict c').decide a = .denied den) ∧
    (rule.LegacyOnly → ∀ a, (Policy.strict c').decide a = (Policy.strict c).decide a) ∧
    ∀ a, (Policy.legacy c).decide a ≠ .allowed → (Policy.legacy c').decide a ≠ .allowed := by
  refine ⟨fun hrule a => ⟨?_, ?_, ?_⟩, fun hrule a => ⟨?_, ?_⟩, fun hrule a => ?_, fun a => ?_⟩
  · intro hallowed
    rcases Policy.strict_of_admits hinserted h h' a hrule with hdenied | hsame
    · rw [hdenied] at hallowed
      cases hallowed
    · exact hsame.trans hallowed
  · intro den hden hreason
    rcases Policy.strict_of_admits hinserted h h' a hrule with hdenied | hsame
    · obtain rfl := Decision.denied.inj (hden.symm.trans hdenied)
      rcases hreason with hreason | hreason <;> cases hreason
    · exact hsame.trans hden
  · exact Policy.legacy_of_admits hinserted h h' a hrule
  · exact mt (Policy.strict_of_vetoes hinserted h h' a hrule).1
  · intro den hden hreason
    have hdenial : den = a.denial den.reason := @Policy.eq_denial_of_decide .strict c a den hden
    rw [hreason] at hdenial
    exact ((Policy.strict_of_vetoes hinserted h h' a hrule).2 (hdenial ▸ hden)).trans hden
  · exact Policy.strict_of_legacyOnly hinserted h h' a hrule
  · exact mt (Policy.legacy_of_inserted hinserted h h' a)

/-- A type is trusted inside a merge, a method is vetoed on it in front of all rules, and the type
is vetoed behind them. -/
theorem decide_of_inserted_page :
    let page : TypeTag := ⟨7, "app::Page"⟩
    let t : Target := { type := page }
    let rules : List Rule := [.merge [.allow ["render", "save"]], .block ["save"]]
    ∃ c c₁ c₂ c₃, Rule.build rules = .ok c ∧
      Rule.build [.merge [.trust page, .allow ["render", "save"]], .block ["save"]] = .ok c₁ ∧
      Rule.build (.blockOn page ["render"] :: rules) = .ok c₂ ∧
      Rule.build (rules ++ [.blockType page]) = .ok c₃ ∧
      (Policy.strict c₁).decide (.method t "SAVE") =
        .denied ⟨"Page", "SAVE", .method, .blockedName⟩ ∧
      (Policy.strict c₂).decide (.method t "show") =
        .denied ⟨"Page", "show", .method, .notAllowListed⟩ ∧
      (Policy.strict c₃).decide (.method t "Render") = .allowed ∧
      (Policy.legacy c₃).decide (.method t "save") ≠ .allowed := by
  intro page t rules
  obtain ⟨c, hc⟩ := Rule.exists_build_iff.2
    (by decide +kernel : Clause.AllFit (Rule.clausesAll rules))
  obtain ⟨c₁, hc₁⟩ := Rule.exists_build_iff.2 (by decide +kernel : Clause.AllFit
    (Rule.clausesAll [.merge [.trust page, .allow ["render", "save"]], .block ["save"]]))
  obtain ⟨c₂, hc₂⟩ := Rule.exists_build_iff.2
    (by decide +kernel : Clause.AllFit (Rule.clausesAll (.blockOn page ["render"] :: rules)))
  obtain ⟨c₃, hc₃⟩ := Rule.exists_build_iff.2
    (by decide +kernel : Clause.AllFit (Rule.clausesAll (rules ++ [.blockType page])))
  have hsave : (Policy.strict c).decide (.method t "SAVE") =
      .denied ⟨"Page", "SAVE", .method, .blockedName⟩ :=
    (Policy.strict_of_build hc _).trans (by decide +kernel)
  have hshow : (Policy.strict c).decide (.method t "show") =
      .denied ⟨"Page", "show", .method, .notAllowListed⟩ :=
    (Policy.strict_of_build hc _).trans (by decide +kernel)
  have hrender : (Policy.strict c).decide (.method t "Render") = .allowed :=
    (Policy.strict_of_build hc _).trans (by decide +kernel)
  have hlegacy : (Policy.legacy c).decide (.method t "save") ≠ .allowed := by
    rw [Policy.legacy_of_build hc]
    decide +kernel
  have htrust := (decide_of_inserted (.inside _ (.here _)) hc hc₁).1 trivial (.method t "SAVE")
  have hveto := (decide_of_inserted (.here _) hc hc₂).2.1 trivial (.method t "show")
  have hbar := (decide_of_inserted (.between _ rules []) hc hc₃).2.2
  exact ⟨c, c₁, c₂, c₃, hc, hc₁, hc₂, hc₃, htrust.2.1 _ hsave (.inr rfl), hveto.2 _ hshow rfl,
    (hbar.1 trivial _).trans hrender, hbar.2 _ hlegacy⟩

end TemplateSandbox
