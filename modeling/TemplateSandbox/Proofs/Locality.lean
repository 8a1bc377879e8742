/-
# How far a rule reaches

A clause is about the calls of methods or about the reads of properties, and about
the values and the members that it covers; such an access it *reaches*
(`Clause.Reaches`). A rule reaches what one of its clauses does:

| rule | reaches |
| --- | --- |
| `allow`, `block` | calls of the methods it names |
| `blockProperties` | reads of the properties it names |
| `trust`, `blockType` | calls of methods on instances of its type |
| `blockOn` | calls of the methods it names on instances of its type |
| `preset`, `merge` | what one of the clauses in it reaches |

Of an access that one more rule does not reach, all that an engine asks has the
same answer as before, and so has the access itself
(`Policy.decidedAlike_of_not_reaches`).
-/

import TemplateSandbox.Proofs.Insertion

namespace TemplateSandbox

namespace Clause

/-- What a clause is about: reads of properties for one kind of veto, and else calls of methods. -/
def kind : Clause → Kind
  | .blockProperty _ => .property
  | _ => .method

/-- The clause is about this access. -/
def Reaches (e : Clause) (a : Access) : Prop := a.kind = e.kind ∧ e.Covers a.target a.member

theorem kind_eq_property_iff {e : Clause} :
    e.kind = .property ↔ e.reason? = some .blockedProperty := by
  cases e <;> simp [kind, reason?]

theorem kind_eq_method_iff {e : Clause} :
    e.kind = .method ↔ e.reason? ≠ some .blockedProperty := by
  cases e <;> simp [kind, reason?]

end Clause

/-- One of the clauses of the rule is about this access. -/
def Rule.Reaches (rule : Rule) (a : Access) : Prop := ∃ e ∈ rule.clauses, e.Reaches a

/-- Of clauses with one name each, one reaches an access through one of the names. -/
theorem Clause.exists_mem_map_reaches {f : String → Clause} {names : List String} {a : Access}
    (h : ∃ e ∈ names.map f, e.Reaches a) : ∃ n ∈ names, (f n).Reaches a := by
  obtain ⟨e, he, hreaches⟩ := h
  obtain ⟨n, hn, rfl⟩ := List.mem_map.1 he
  exact ⟨n, hn, hreaches⟩

namespace Rule.Reaches

variable {rule : Rule} {names : List String} {k : TypeTag} {a : Access}

/-- A rule for the names of methods reaches calls of these methods. -/
theorem of_names (h : rule.Reaches a) (hrule : rule = .allow names ∨ rule = .block names) :
    a.kind = .method ∧ ∃ n ∈ names, SameName n a.member := by
  rcases hrule with rfl | rfl
  all_goals
    obtain ⟨n, hn, hkind, hname⟩ := Clause.exists_mem_map_reaches h
    exact ⟨hkind, n, hn, hname⟩

/-- A rule for properties reaches reads of these properties. -/
theorem of_properties (h : (Rule.blockProperties names).Reaches a) :
    a.kind = .property ∧ ∃ n ∈ names, SameName n a.member := by
  obtain ⟨n, hn, hkind, hname⟩ := Clause.exists_mem_map_reaches h
  exact ⟨hkind, n, hn, hname⟩

/-- A rule for a type reaches calls of methods on its instances. -/
theorem of_type (h : rule.Reaches a) (hrule : rule = .trust k ∨ rule = .blockType k) :
    a.kind = .method ∧ a.target.IsA k := by
  obtain ⟨e, he, hreaches⟩ := h
  rcases hrule with rfl | rfl
  all_goals
    obtain rfl := List.mem_singleton.1 he
    exact hreaches

/-- A rule for the methods of a type reaches calls of these methods on its instances. -/
theorem of_blockOn (h : (Rule.blockOn k names).Reaches a) :
    a.kind = .method ∧ a.target.IsA k ∧ ∃ n ∈ names, SameName n a.member := by
  obtain ⟨n, hn, hkind, htype, hname⟩ := Clause.exists_mem_map_reaches h
  exact ⟨hkind, htype, n, hn, hname⟩

end Rule.Reaches

namespace Findings

variable {f g : Findings} {t : Target} {m : String}

/-- Of what is found of properties, no verdict on a method makes anything. -/
theorem verdict_method_congr (mode : Mode) (hadmitted : f.admitted = g.admitted)
    (hfor : f.blockedForType = g.blockedForType) (htype : f.blockedType = g.blockedType)
    (hname : f.blockedName = g.blockedName) :
    f.verdict mode (.method t m) = g.verdict mode (.method t m) := by
  cases mode with
  | strict => exact strictVerdict_congr (.method t m) hadmitted hfor hname
  | legacy =>
    simp only [verdict, legacyVerdict, Access.method]
    rw [hfor, htype, hname]

/-- Of what is found of methods, no verdict on a property makes anything. -/
theorem verdict_property_congr (mode : Mode) (hproperty : f.blockedProperty = g.blockedProperty) :
    f.verdict mode (.property t m) = g.verdict mode (.property t m) := by
  cases mode with
  | strict => rfl
  | legacy =>
    simp only [verdict, legacyVerdict, Access.property]
    rw [hproperty]

end Findings

/-- Either engine decides the access over the one configuration as over the other. -/
def Configuration.DecidedAlike (c c' : Configuration) (a : Access) : Prop :=
  ∀ mode, (Policy.ofMode mode c').value.decide a = (Policy.ofMode mode c).value.decide a

section

variable {rule : Rule} {rules rules' : List Rule} {c c' : Configuration} {a : Access}

/-- **One more rule changes no decision on an access that it does not reach.** -/
theorem Policy.decidedAlike_of_not_reaches (hinserted : Rule.Inserted rule rules rules')
    (h : Rule.build rules = .ok c) (h' : Rule.build rules' = .ok c') (hfar : ¬rule.Reaches a) :
    c.DecidedAlike c' a := by
  intro mode
  rw [decide_ofMode_of_holds (Rule.holds_build h), decide_ofMode_of_holds (Rule.holds_build h')]
  obtain ⟨t, m, kind⟩ := a
  have hspeak : ∀ {reason? : Option Reason},
      (∀ e : Clause, e.reason? = reason? → kind = e.kind) →
        (Clause.Speak (Rule.clausesAll rules') reason? t m ↔
          Clause.Speak (Rule.clausesAll rules) reason? t m) := fun hkind =>
    hinserted.speak_iff_of_silent fun e he hreason hcovers =>
      hfar ⟨e, he, hkind e hreason, hcovers⟩
  cases kind with
  | method =>
    have hmethod : ∀ {reason? : Option Reason}, reason? ≠ some .blockedProperty →
        (Clause.Speak (Rule.clausesAll rules') reason? t m ↔
          Clause.Speak (Rule.clausesAll rules) reason? t m) := fun hne =>
      hspeak fun e he => (Clause.kind_eq_method_iff.2 (he ▸ hne)).symm
    exact Findings.verdict_method_congr mode
      (decide_eq_decide.2 (or_congr_right (hmethod nofun)))
      (decide_eq_decide.2 (hmethod nofun)) (decide_eq_decide.2 (hmethod nofun))
      (decide_eq_decide.2 (hmethod nofun))
  | property =>
    exact Findings.verdict_property_congr mode
      (decide_eq_decide.2 (hspeak fun e he => (Clause.kind_eq_property_iff.2 he).symm))

end

/-- **Every rule stays in its place.** One more rule, wherever it is put in, changes no decision of
either engine beyond what it is about: a rule for the names of methods leaves every property, and
every method with another name; a rule for properties leaves every method, and every property with
another name; a rule for a type leaves every property, and all other values; and a rule for the
methods of a type leaves every property, all other values, and every member with another name. -/
theorem decide_of_inserted_elsewhere {rule : Rule} {rules rules' : List Rule}
    {c c' : Configuration} (hinserted : Rule.Inserted rule rules rules')
    (h : Rule.build rules = .ok c) (h' : Rule.build rules' = .ok c') (t : Target) (m : String) :
    (∀ names, rule = .allow names ∨ rule = .block names →
      c.DecidedAlike c' (.property t m) ∧
      ((∀ n ∈ names, ¬SameName n m) → c.DecidedAlike c' (.method t m))) ∧
    (∀ names, rule = .blockProperties names →
      c.DecidedAlike c' (.method t m) ∧
      ((∀ n ∈ names, ¬SameName n m) → c.DecidedAlike c' (.property t m))) ∧
    (∀ k, rule = .trust k ∨ rule = .blockType k →
      c.DecidedAlike c' (.property t m) ∧
      (¬t.IsA k → ∀ kind, c.DecidedAlike c' ⟨t, m, kind⟩)) ∧
    ∀ k names, rule = .blockOn k names →
      c.DecidedAlike c' (.property t m) ∧
      (¬t.IsA k → ∀ kind, c.DecidedAlike c' ⟨t, m, kind⟩) ∧
      ((∀ n ∈ names, ¬SameName n m) → ∀ kind, c.DecidedAlike c' ⟨t, m, kind⟩) := by
  -- An access of another kind, with another name or on another value is not reached.
  have hfar : ∀ {a : Access}, ¬rule.Reaches a → c.DecidedAlike c' a :=
    Policy.decidedAlike_of_not_reaches hinserted h h'
  have hname : ∀ {names : List String}, (∀ n ∈ names, ¬SameName n m) →
      ¬∃ n ∈ names, SameName n m := fun hother ⟨n, hn, hsame⟩ => hother n hn hsame
  refine ⟨fun names hrule => ⟨hfar fun hr => ?_, fun hother => hfar fun hr => ?_⟩, ?_,
    fun k hrule => ⟨hfar fun hr => ?_, fun hother kind => hfar fun hr => ?_⟩, ?_⟩
  · exact nomatch (hr.of_names hrule).1
  · exact hname hother (hr.of_names hrule).2
  · rintro names rfl
    exact ⟨hfar fun hr => (nomatch hr.of_properties.1),
      fun hother => hfar fun hr => hname hother hr.of_properties.2⟩
  · exact nomatch (hr.of_type hrule).1
  · exact hother (hr.of_type hrule).2
  · rintro k names rfl
    exact ⟨hfar fun hr => (nomatch hr.of_blockOn.1),
      fun hother kind => hfar fun hr => hother hr.of_blockOn.2.1,
      fun hother kind => hfar fun hr => hname hother hr.of_blockOn.2.2⟩

/-- More methods blocked on a type that has some blocked already, one more name, one more property
and one more type: what was blocked stays so, and what was open stays open. -/
theorem decide_of_inserted_elsewhere_lineage :
    let model : TypeTag := ⟨7, "app::Model"⟩
    let file : TypeTag := ⟨8, "app::File"⟩
    let t : Target := { type := file, conformsTo := [model] }
    let rules : List Rule := [.merge [.blockOn model ["save"], .blockOn file ["drop"]],
      .allow ["show", "save"], .blockProperties ["key"]]
    ∃ c c₁ c₂ c₃ c₄, Rule.build rules = .ok c ∧
      Rule.build [.merge [.blockOn model ["hide"], .blockOn model ["save"],
        .blockOn file ["drop"]], .allow ["show", "save"], .blockProperties ["key"]] = .ok c₁ ∧
      Rule.build (.block ["count"] :: rules) = .ok c₂ ∧
      Rule.build (rules ++ [.blockProperties ["secret"]]) = .ok c₃ ∧
      Rule.build (rules ++ [.blockType ⟨9, "app::Model"⟩]) = .ok c₄ ∧
      (Policy.strict c₁).decide (.method t "SAVE") =
        .denied ⟨"File", "SAVE", .method, .blockedForType⟩ ∧
      (Policy.legacy c₂).decide (.method t "Show") = .allowed ∧
      (Policy.legacy c₂).decide (.property t "count") = .allowed ∧
      (Policy.legacy c₃).decide (.property t "Key") =
        .denied ⟨"File", "Key", .property, .blockedProperty⟩ ∧
      (Policy.legacy c₄).decide (.method t "Show") = .allowed := by
  intro model file t rules
  obtain ⟨c, hc⟩ := Rule.exists_build_iff.2
    (by decide +kernel : Clause.AllFit (Rule.clausesAll rules))
  obtain ⟨c₁, hc₁⟩ := Rule.exists_build_iff.2 (by decide +kernel : Clause.AllFit
    (Rule.clausesAll [.merge [.blockOn model ["hide"], .blockOn model ["save"],
      .blockOn file ["drop"]], .allow ["show", "save"], .blockProperties ["key"]]))
  obtain ⟨c₂, hc₂⟩ := Rule.exists_build_iff.2
    (by decide +kernel : Clause.AllFit (Rule.clausesAll (.block ["count"] :: rules)))
  obtain ⟨c₃, hc₃⟩ := Rule.exists_build_iff.2 (by decide +kernel : Clause.AllFit
    (Rule.clausesAll (rules ++ [.blockProperties ["secret"]])))
  obtain ⟨c₄, hc₄⟩ := Rule.exists_build_iff.2 (by decide +kernel : Clause.AllFit
    (Rule.clausesAll (rules ++ [.blockType ⟨9, "app::Model"⟩])))
  have hsave : (Policy.strict c).decide (.method t "SAVE") =
      .denied ⟨"File", "SAVE", .method, .blockedForType⟩ :=
    (Policy.strict_of_build hc _).trans (by decide +kernel)
  have hshow : (Policy.legacy c).decide (.method t "Show") = .allowed :=
    (Policy.legacy_of_build hc _).trans (by decide +kernel)
  have hcount : (Policy.legacy c).decide (.property t "count") = .allowed :=
    (Policy.legacy_of_build hc _).trans (by decide +kernel)
  have hkey : (Policy.legacy c).decide (.property t "Key") =
      .denied ⟨"File", "Key", .property, .blockedProperty⟩ :=
    (Policy.legacy_of_build hc _).trans (by decide +kernel)
  obtain ⟨-, -, -, hhide⟩ := decide_of_inserted_elsewhere (.inside _ (.here _)) hc hc₁ t "SAVE"
  obtain ⟨hblock, -⟩ := decide_of_inserted_elsewhere (.here _) hc hc₂ t "Show"
  obtain ⟨hcounted, -⟩ := decide_of_inserted_elsewhere (.here _) hc hc₂ t "count"
  obtain ⟨-, hsecret, -⟩ := decide_of_inserted_elsewhere (.between _ rules []) hc hc₃ t "Key"
  obtain ⟨-, -, hbar, -⟩ := decide_of_inserted_elsewhere (.between _ rules []) hc hc₄ t "Show"
  exact ⟨c, c₁, c₂, c₃, c₄, hc, hc₁, hc₂, hc₃, hc₄,
    ((hhide _ _ rfl).2.2 (by decide +kernel) _ .strict).trans hsave,
    ((hblock _ (.inr rfl)).2 (by decide +kernel) .legacy).trans hshow,
    ((hcounted _ (.inr rfl)).1 .legacy).trans hcount,
    ((hsecret _ rfl).2 (by decide +kernel) .legacy).trans hkey,
    ((hbar _ (.inr rfl)).2 (by decide +kernel) _ .legacy).trans hshow⟩

end TemplateSandbox
