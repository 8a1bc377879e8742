/-
# Spelling has no part in a decision

A name may be written with small or capital ASCII letters wherever it occurs: as
the member that is asked for, in a rule at any depth of merging, in what a type
declares open. The decision is the same, its reason is the same, and a denial
quotes the spelling it was asked for (`decide_of_spelling`).

Nothing else is left out of the comparison. Two texts that differ in a character
beyond ASCII are two names (`DifferBeyondAscii.not_sameName`), also where a
table of Unicode knows them as the two cases of one letter. A rule or a
declaration that lists the one text does nothing to the other.
-/

import TemplateSandbox.Proofs.Insertion
import TemplateSandbox.Proofs.Sameness

namespace TemplateSandbox

/-! ### Characters beyond ASCII -/

/-- At some place one text has a character beyond ASCII that the other does not have there. -/
def DifferBeyondAscii (a b : String) : Prop :=
  ∃ (i : Nat) (c : Char), 128 ≤ c.toNat ∧ ¬(a.toList[i]? = some c ↔ b.toList[i]? = some c)

/-- A character beyond ASCII is a letter of its own. -/
theorem SameLetter.eq_of_beyondAscii {c d : Char} (h : SameLetter c d) (hc : 128 ≤ c.toNat) :
    d = c := by
  rcases h with rfl | ⟨_, hz, _⟩ | ⟨_, hz, hcode⟩
  · rfl
  · have hz : c.toNat ≤ 90 := hz
    omega
  · have hz : d.toNat ≤ 90 := hz
    omega

/-- Two spellings of one name have the same characters beyond ASCII, at the same places. -/
theorem SameName.getElem?_eq_some {a b : String} (h : SameName a b) {i : Nat} {c : Char}
    (hc : 128 ≤ c.toNat) (ha : a.toList[i]? = some c) : b.toList[i]? = some c := by
  unfold SameName at h
  generalize a.toList = as at h ha
  generalize b.toList = bs at h ⊢
  -- The relation goes letter by letter, so the induction may follow the place.
  induction h generalizing i with
  | nil => simp at ha
  | cons hletter _ ih =>
    cases i with
    | zero =>
      obtain rfl := Option.some.inj ha
      exact congrArg some (hletter.eq_of_beyondAscii hc)
    | succ i => exact ih ha

/-- **Texts that differ beyond ASCII are two names**, whatever other tables of cases may say. -/
theorem DifferBeyondAscii.not_sameName {a b : String} (h : DifferBeyondAscii a b) :
    ¬SameName a b := by
  obtain ⟨i, c, hc, hdiffer⟩ := h
  exact fun hsame =>
    hdiffer ⟨hsame.getElem?_eq_some hc, hsame.symm.getElem?_eq_some hc⟩

/-! ### Rules and declarations that list another name -/

/-- The rule lists the name `a`, in this spelling, and no other. -/
def Rule.ListsOnly (a : String) : Rule → Prop
  | .allow names | .block names | .blockOn _ names | .blockProperties names => ∀ n ∈ names, n = a
  | _ => False

/-- A rule that lists only another name is silent on a member. -/
theorem Rule.ListsOnly.not_covers {a b : String} (hab : ¬SameName a b) :
    ∀ {rule : Rule}, rule.ListsOnly a → ∀ (t : Target), ∀ e ∈ rule.clauses, ¬e.Covers t b
  | .allow _, h, _, e, he | .block _, h, _, e, he | .blockProperties _, h, _, e, he => by
    obtain ⟨n, hn, rfl⟩ := List.mem_map.1 he
    exact h n hn ▸ hab
  | .blockOn _ _, h, _, e, he => by
    obtain ⟨n, hn, rfl⟩ := List.mem_map.1 he
    exact fun hcovers => hab (h n hn ▸ hcovers.2)

/-- To list another name as well opens a member no more than before. -/
theorem Capability.declares_iff_of_other {a b : String} (hab : ¬SameName a b)
    {names names' : List String} (h : ∀ n, n ∈ names' ↔ n = a ∨ n ∈ names) :
    (members names').Declares b ↔ (members names).Declares b := by
  constructor
  · rintro ⟨n, hn, hname⟩
    rcases (h n).1 hn with rfl | hold
    · exact absurd hname hab
    · exact ⟨n, hold, hname⟩
  · rintro ⟨n, hn, hname⟩
    exact ⟨n, (h n).2 (.inr hn), hname⟩

namespace Policy

variable (mode : Mode) (c : Configuration) (t : Target) (m : String) (kind : Kind)

/-- Of a declaration, a decision depends on whether it opens the member that is asked for. -/
theorem decide_capability_congr {k l : Capability} (h : k.Declares m ↔ l.Declares m) :
    (ofMode mode c).value.decide ⟨{ t with capability := k }, m, kind⟩ =
      (ofMode mode c).value.decide ⟨{ t with capability := l }, m, kind⟩ := by
  have hopens : k.opens (.fold m) = l.opens (.fold m) := by
    rw [Bool.eq_iff_iff, Capability.opens_fold_iff, Capability.opens_fold_iff, h]
  have hadmits : c.admits { t with capability := k } (.fold m) =
      c.admits { t with capability := l } (.fold m) := by
    simp only [Configuration.admits, hopens]
    rfl
  have hfindings : Findings.ofConfiguration c { t with capability := k } m =
      Findings.ofConfiguration c { t with capability := l } m :=
    Findings.ext hadmits rfl rfl rfl rfl
  exact decide_eq_of_findings_eq hfindings rfl mode kind

variable {c}

/-- Where rules and declarations differ in spelling, the decision is one, to the letter. -/
theorem decide_respelled {c' : Configuration} {rules rules' : List Rule}
    (hrules : Rule.SameAll rules rules') (h : Rule.build rules = .ok c)
    (h' : Rule.build rules' = .ok c') {capability : Capability}
    (hcapability : t.capability.Alike capability) :
    (ofMode mode c').value.decide ⟨{ t with capability }, m, kind⟩ =
      (ofMode mode c).value.decide ⟨t, m, kind⟩ := by
  have halike : t.Alike { t with capability } := ⟨rfl, fun _ => Iff.rfl, hcapability⟩
  have hreason := reason?_decide_congr hrules h h' halike (.refl m) mode kind
  exact (decide_eq_of_reason?_eq hreason rfl).symm

end Policy

/-- **Spelling has no part in a decision, and nothing but spelling is overlooked.** Two spellings
of a member lead to one outcome for one reason, each quoted as it was asked for. Names in rules and
declarations may be spelled otherwise, with the same decisions and the same chance to be built. Two
texts that differ beyond ASCII are never taken for one another: what a rule or a declaration says
of the one leaves every decision on the other as it was. -/
theorem decide_of_spelling :
    (∀ (rules : List Rule) (c : Configuration), Rule.build rules = .ok c →
      ∀ a b, SameName a b → ∀ (mode : Mode) (t : Target) (kind : Kind),
        ((Policy.ofMode mode c).value.decide ⟨t, a, kind⟩).reason? =
          ((Policy.ofMode mode c).value.decide ⟨t, b, kind⟩).reason? ∧
        (Policy.ofMode mode c).value.Quotes ⟨t, a, kind⟩ ∧
        (Policy.ofMode mode c).value.Quotes ⟨t, b, kind⟩) ∧
    (∀ rules rules' : List Rule, Rule.SameAll rules rules' →
      ((∃ c, Rule.build rules = .ok c) ↔ ∃ c, Rule.build rules' = .ok c) ∧
      ∀ c c', Rule.build rules = .ok c → Rule.build rules' = .ok c' →
        ∀ (t : Target) (capability : Capability), t.capability.Alike capability →
          ∀ (mode : Mode) (m : String) (kind : Kind),
            (Policy.ofMode mode c').value.decide ⟨{ t with capability }, m, kind⟩ =
              (Policy.ofMode mode c).value.decide ⟨t, m, kind⟩) ∧
    ∀ a b, DifferBeyondAscii a b →
      MemberName.fold a ≠ MemberName.fold b ∧
      (∀ (rule : Rule) (rules rules' : List Rule) (c c' : Configuration), rule.ListsOnly a →
        Rule.Inserted rule rules rules' → Rule.build rules = .ok c → Rule.build rules' = .ok c' →
          ∀ (mode : Mode) (t : Target) (kind : Kind),
            (Policy.ofMode mode c').value.decide ⟨t, b, kind⟩ =
              (Policy.ofMode mode c).value.decide ⟨t, b, kind⟩) ∧
      ∀ (c : Configuration) (names names' : List String), (∀ n, n ∈ names' ↔ n = a ∨ n ∈ names) →
        ∀ (mode : Mode) (t : Target) (kind : Kind),
          (Policy.ofMode mode c).value.decide ⟨{ t with capability := .members names' }, b, kind⟩ =
            (Policy.ofMode mode c).value.decide
              ⟨{ t with capability := .members names }, b, kind⟩ := by
  refine ⟨?_, ?_, ?_⟩
  · intro rules c h a b hab mode t kind
    have hrules : Rule.SameAll rules rules := .refl rules
    exact ⟨Policy.reason?_decide_congr hrules h h (.refl t) hab mode kind,
      Policy.quotes_ofMode mode c _, Policy.quotes_ofMode mode c _⟩
  · intro rules rules' hrules
    exact ⟨Rule.exists_build_congr hrules, fun c c' h h' t capability hcapability mode m kind =>
      Policy.decide_respelled mode t m kind hrules h h' hcapability⟩
  · intro a b hdiffer
    have hab : ¬SameName a b := hdiffer.not_sameName
    refine ⟨mt MemberName.fold_eq_fold_iff.1 hab, ?_, ?_⟩
    · intro rule rules rules' c c' hrule hinserted h h' mode t kind
      exact Policy.decide_of_silent hinserted h h' ⟨t, b, kind⟩ (hrule.not_covers hab t) mode
    · intro c names names' hnames mode t kind
      exact Policy.decide_capability_congr mode c t b kind
        (Capability.declares_iff_of_other hab hnames)

/-- A page asked for `SAVE`, the same rules in capitals, and the Kelvin sign, which is no `k`. -/
theorem decide_of_spelling_page :
    let t : Target := { type := ⟨7, "app::Page"⟩, capability := .members ["show"] }
    let rules : List Rule := [.merge [.allow ["toHtml", "save", "k"]], .block ["save"]]
    let rules' : List Rule := [.merge [.allow ["TOHTML", "Save", "K"]], .block ["SAVE"]]
    ∃ c c' c'', Rule.build rules = .ok c ∧ Rule.build rules' = .ok c' ∧
      Rule.build (.block ["\u212a"] :: rules) = .ok c'' ∧
      ((Policy.ofMode .strict c).value.decide (.method t "SAVE")).reason? = some .blockedName ∧
      (Policy.ofMode .strict c').value.decide
        (.method { t with capability := .members ["SHOW"] } "Show") = .allowed ∧
      (Policy.ofMode .strict c'').value.decide (.method t "k") = .allowed ∧
      (Policy.ofMode .strict c).value.decide
        (.method { t with capability := .members ["\u212a", "show"] } "k") = .allowed := by
  intro t rules rules'
  have hallow : List.Forall₂ SameName ["toHtml", "save", "k"] ["TOHTML", "Save", "K"] := by
    decide +kernel
  have hblock : List.Forall₂ SameName ["save"] ["SAVE"] := by decide +kernel
  have hrules : Rule.SameAll rules rules' := ⟨⟨hallow, trivial⟩, hblock, trivial⟩
  obtain ⟨c, hc⟩ := Rule.exists_build_iff.2
    (by decide +kernel : Clause.AllFit (Rule.clausesAll rules))
  obtain ⟨c'', hc''⟩ := Rule.exists_build_iff.2
    (by decide +kernel : Clause.AllFit (Rule.clausesAll (.block ["\u212a"] :: rules)))
  obtain ⟨c', hc'⟩ := (decide_of_spelling.2.1 rules rules' hrules).1.1 ⟨c, hc⟩
  have hsave : (Policy.strict c).decide (.method t "save") =
      .denied ⟨"Page", "save", .method, .blockedName⟩ :=
    (Policy.strict_of_build hc _).trans (by decide +kernel)
  have hshow : (Policy.strict c).decide (.method t "Show") = .allowed :=
    (Policy.strict_of_build hc _).trans (by decide +kernel)
  have hk : (Policy.strict c).decide (.method t "k") = .allowed :=
    (Policy.strict_of_build hc _).trans (by decide +kernel)
  have hkelvin : DifferBeyondAscii "\u212a" "k" := ⟨0, '\u212a', by decide, by decide +kernel⟩
  have halike : t.capability.Alike (.members ["SHOW"]) :=
    Capability.alike_iff_grant_eq.2 (by decide +kernel)
  have hspelled :=
    decide_of_spelling.1 rules c hc "save" "SAVE" (by decide +kernel) .strict t .method
  have hrespelled := (decide_of_spelling.2.1 rules rules' hrules).2 c c' hc hc' t _ halike .strict
    "Show" .method
  obtain ⟨-, hrule, hdeclared⟩ := decide_of_spelling.2.2 "\u212a" "k" hkelvin
  have hblocked := hrule (.block ["\u212a"]) rules _ c c'' (fun _ => List.mem_singleton.1) (.here _)
    hc hc'' .strict t .method
  have hopened := hdeclared c ["show"] ["\u212a", "show"] (fun _ => List.mem_cons) .strict t .method
  exact ⟨c, c', c'', hc, hc', hc'', hspelled.1.symm.trans (congrArg Decision.reason? hsave),
    hrespelled.trans hshow, hblocked.trans hk, hopened.trans hk⟩

end TemplateSandbox
