/-
# Rules and values that differ in nothing a decision may see

Two lists of rules say the same (`Rule.SameAll`) when they have the same shape
and agree, place by place, on the identity of every type and on every name but
for its spelling; the paths of the types are left open. Two values are alike
(`Target.Alike`) when they have one concrete type, declare the same types in
whatever order and however often, and declare the same members open.

Rules that say the same have clauses that say the same (`Rule.same_clausesAll`),
and such clauses lead to the same findings on values that are alike
(`Findings.ofClauses_congr`). So both engines allow the same and deny for the
same reason (`Policy.reason?_decide_congr`).

A type that no rule lists has no part in a decision, wherever it is declared
(`Configuration.ofConfiguration_eq_of_unlisted`). The types of the template
engine are no exception: a value is the engine's own by its concrete type only.
-/

import TemplateSandbox.Proofs.Verdict
import Mathlib.Data.List.Sort

namespace TemplateSandbox

/-! ### Rules that say the same -/

namespace Rule

mutual

/-- Two rules say the same: they agree on types by identity, and on names but for the spelling. -/
def Same : Rule → Rule → Prop
  | .trust k, .trust l => k.id = l.id
  | .allow ms, .allow ns => List.Forall₂ SameName ms ns
  | .block ms, .block ns => List.Forall₂ SameName ms ns
  | .blockOn k ms, .blockOn l ns => k.id = l.id ∧ List.Forall₂ SameName ms ns
  | .blockType k, .blockType l => k.id = l.id
  | .blockProperties ms, .blockProperties ns => List.Forall₂ SameName ms ns
  | .preset p mode, .preset q mode' => p = q ∧ mode = mode'
  | .merge rules, .merge rules' => SameAll rules rules'
  | _, _ => False

/-- Two lists of rules say the same, place by place. -/
def SameAll : List Rule → List Rule → Prop
  | [], [] => True
  | rule :: rest, rule' :: rest' => Same rule rule' ∧ SameAll rest rest'
  | _, _ => False

end

mutual

theorem Same.refl : ∀ rule : Rule, Same rule rule
  | .trust _ | .blockType _ => rfl
  | .allow _ | .block _ | .blockProperties _ => List.forall₂_same.2 fun n _ => SameName.refl n
  | .blockOn _ _ => ⟨rfl, List.forall₂_same.2 fun n _ => SameName.refl n⟩
  | .preset _ _ => ⟨rfl, rfl⟩
  | .merge rules => SameAll.refl rules

theorem SameAll.refl : ∀ rules : List Rule, SameAll rules rules
  | [] => trivial
  | rule :: rest => ⟨Same.refl rule, SameAll.refl rest⟩

end

/-- Names that are spelled alike make clauses that say the same. -/
theorem forall₂_same_map {f g : String → Clause} (hfg : ∀ {m n}, SameName m n → (f m).Same (g n))
    {ms ns : List String} (h : List.Forall₂ SameName ms ns) :
    List.Forall₂ Clause.Same (ms.map f) (ns.map g) :=
  List.forall₂_map_left_iff.2 (List.forall₂_map_right_iff.2 (h.imp fun _ _ => hfg))

mutual

/-- Rules that say the same have clauses that say the same. -/
theorem same_clauses : ∀ {rule rule' : Rule}, Same rule rule' →
    List.Forall₂ Clause.Same rule.clauses rule'.clauses
  | .trust _, .trust _, h | .blockType _, .blockType _, h => .cons h .nil
  | .allow _, .allow _, h | .block _, .block _, h | .blockProperties _, .blockProperties _, h =>
    forall₂_same_map id h
  | .blockOn k _, .blockOn l _, h =>
    @forall₂_same_map (.blockOn k) (.blockOn l) (fun hn => ⟨h.1, hn⟩) _ _ h.2
  | .preset _ _, .preset _ _, ⟨rfl, rfl⟩ => List.forall₂_same.2 fun e _ => .refl e
  | .merge _, .merge _, h => same_clausesAll h

/-- Lists of rules that say the same have clauses that say the same. -/
theorem same_clausesAll : ∀ {rules rules' : List Rule}, SameAll rules rules' →
    List.Forall₂ Clause.Same (clausesAll rules) (clausesAll rules')
  | [], [], _ => .nil
  | _ :: _, _ :: _, h => List.rel_append (same_clauses h.1) (same_clausesAll h.2)

end

end Rule

/-- What can be said of the elements of one list can be said, place by place, of the other. -/
theorem exists_mem_congr {α β : Type} {R : α → β → Prop} {p : α → Prop} {q : β → Prop}
    (hpq : ∀ a b, R a b → (p a ↔ q b)) {as : List α} {bs : List β} (h : List.Forall₂ R as bs) :
    (∃ a ∈ as, p a) ↔ ∃ b ∈ bs, q b := by
  induction h with
  | nil => simp
  | cons hab _ ih => simp [hpq _ _ hab, ih]

/-- Of two lists of rules that say the same, both can be built or neither can. -/
theorem Rule.exists_build_congr {rules rules' : List Rule} (h : SameAll rules rules') :
    (∃ c, build rules = .ok c) ↔ ∃ c, build rules' = .ok c := by
  rw [exists_build_iff, exists_build_iff,
    (Clause.SameSet.of_forall₂ (same_clausesAll h)).allFit_iff]

/-! ### Values that are alike -/

/-- Two declarations open the same members, whatever the spelling, order and repetition. -/
def Capability.Alike : Capability → Capability → Prop
  | .none, .none => True
  | .members ms, .members ns =>
    (∀ m ∈ ms, ∃ n ∈ ns, SameName m n) ∧ ∀ n ∈ ns, ∃ m ∈ ms, SameName m n
  | .any, .any => True
  | _, _ => False

/-- A name is in the set of some spellings exactly if one of them spells it. -/
theorem MemberName.mem_setOf_iff {raws : List String} {n : MemberName} :
    n ∈ setOf raws ↔ ∃ s ∈ raws, fold s = n := by
  rw [setOf, mem_sortByKey_iff fun _ _ => MemberName.ext, List.mem_map]

/-- Two lists of spellings have one set of names exactly if each name in one is spelled in the
other. -/
theorem MemberName.setOf_eq_setOf_iff {ms ns : List String} :
    setOf ms = setOf ns ↔
      (∀ m ∈ ms, ∃ n ∈ ns, SameName m n) ∧ ∀ n ∈ ns, ∃ m ∈ ms, SameName m n := by
  constructor
  · intro h
    refine ⟨fun m hm => ?_, fun n hn => ?_⟩
    · obtain ⟨n, hn, hfold⟩ := mem_setOf_iff.1 (h ▸ mem_setOf_iff.2 ⟨m, hm, rfl⟩)
      exact ⟨n, hn, fold_eq_fold_iff.1 hfold.symm⟩
    · obtain ⟨m, hm, hfold⟩ := mem_setOf_iff.1 (h ▸ mem_setOf_iff.2 ⟨n, hn, rfl⟩)
      exact ⟨m, hm, fold_eq_fold_iff.1 hfold⟩
  · rintro ⟨hms, hns⟩
    -- Both sets rise strictly, so they are one list as soon as they have the same members.
    refine (ascending_sortByKey text _).eq_of_mem_iff (ascending_sortByKey text _) fun name => ?_
    show name ∈ setOf ms ↔ name ∈ setOf ns
    rw [mem_setOf_iff, mem_setOf_iff]
    constructor
    · rintro ⟨m, hm, rfl⟩
      obtain ⟨n, hn, hname⟩ := hms m hm
      exact ⟨n, hn, (fold_eq_fold_iff.2 hname).symm⟩
    · rintro ⟨n, hn, rfl⟩
      obtain ⟨m, hm, hname⟩ := hns n hn
      exact ⟨m, hm, fold_eq_fold_iff.2 hname⟩

namespace Capability

/-- **Two declarations are alike exactly if they grant the same**: one set of names, or nothing,
or everything. -/
theorem alike_iff_grant_eq {k l : Capability} : k.Alike l ↔ k.grant = l.grant := by
  cases k with
  | none => cases l <;> simp [Alike, grant]
  | members ms =>
    cases l with
    | members ns =>
      show _ ↔ Grant.only _ = Grant.only _
      rw [Grant.only.injEq, MemberName.setOf_eq_setOf_iff]
      rfl
    | _ => simp [Alike, grant]
  | any => cases l <;> simp [Alike, grant]

theorem Alike.refl (k : Capability) : k.Alike k := alike_iff_grant_eq.2 rfl

/-- Declarations that are alike open a member in every spelling of it, or in none. -/
theorem Alike.declares_iff {k l : Capability} (h : k.Alike l) {m n : String} (hm : SameName m n) :
    k.Declares m ↔ l.Declares n :=
  match k, l, h with
  | .none, .none, _ | .any, .any, _ => Iff.rfl
  | .members ms, .members ns, h => by
    constructor
    · rintro ⟨a, ha, ham⟩
      obtain ⟨b, hb, hab⟩ := h.1 a ha
      exact ⟨b, hb, hab.symm.trans (ham.trans hm)⟩
    · rintro ⟨b, hb, hbn⟩
      obtain ⟨a, ha, hab⟩ := h.2 b hb
      exact ⟨a, ha, hab.trans (hbn.trans hm.symm)⟩

end Capability

/-- Two values show a policy the same: one concrete type, the same further types in whatever order
and however often, and declarations that are alike. -/
structure Target.Alike (t u : Target) : Prop where
  /-- The concrete types are one. -/
  type : t.type.id = u.type.id
  /-- The declared types are the same. -/
  conformsTo : ∀ id, (∃ k ∈ t.conformsTo, k.id = id) ↔ ∃ k ∈ u.conformsTo, k.id = id
  /-- The same members are declared open. -/
  capability : t.capability.Alike u.capability

theorem Target.Alike.refl (t : Target) : t.Alike t := ⟨rfl, fun _ => Iff.rfl, .refl _⟩

namespace Target.Alike

variable {t u : Target} (h : t.Alike u)
include h

theorem isA_iff {k l : TypeTag} (hkl : k.id = l.id) : t.IsA k ↔ u.IsA l := by
  rw [IsA, IsA, h.type, hkl, h.conformsTo]

theorem isEngineOwned_iff : t.IsEngineOwned ↔ u.IsEngineOwned := by
  rw [IsEngineOwned, IsEngineOwned, h.type]

/-- Clauses that say the same cover values that are alike, or cover neither. -/
theorem covers_iff {m n : String} (hm : SameName m n) :
    ∀ {r e : Clause}, r.Same e → (r.Covers t m ↔ e.Covers u n)
  | .trust _, .trust _, hre | .blockType _, .blockType _, hre => h.isA_iff hre
  | .allow _, .allow _, hre | .block _, .block _, hre | .blockProperty _, .blockProperty _, hre =>
    ⟨fun hc => SameName.trans hre.symm (hc.trans hm),
      fun hc => SameName.trans hre (hc.trans hm.symm)⟩
  | .blockOn _ _, .blockOn _ _, hre => and_congr (h.isA_iff hre.1)
    ⟨fun hc => hre.2.symm.trans (hc.trans hm), fun hc => hre.2.trans (hc.trans hm.symm)⟩

end Target.Alike

/-! ### Nothing else has a part in a decision -/

/-- **Clauses that say the same lead to the same findings** on values that are alike and on
spellings of one member. -/
theorem Findings.ofClauses_congr {cs cs' : List Clause} (hcs : List.Forall₂ Clause.Same cs cs')
    {t u : Target} (ht : t.Alike u) {m n : String} (hm : SameName m n) :
    ofClauses cs t m = ofClauses cs' u n := by
  have hspeak : ∀ {reason? : Option Reason},
      Clause.Speak cs reason? t m ↔ Clause.Speak cs' reason? u n := by
    -- If a clause speaks on one side, the clause in its place speaks on the other.
    refine exists_mem_congr (fun r e hre => ?_) hcs
    rw [hre.reason?_eq, ht.covers_iff hm hre]
  exact ofClauses_eq_of_speak_iff (ht.capability.declares_iff hm) hspeak

/-- Where rules say the same, values are alike and members are spellings of one name, an engine
gives one outcome, for one reason. -/
theorem Policy.reason?_decide_congr {rules rules' : List Rule} {c c' : Configuration}
    (hrules : Rule.SameAll rules rules') (h : Rule.build rules = .ok c)
    (h' : Rule.build rules' = .ok c') {t u : Target} (ht : t.Alike u) {m n : String}
    (hm : SameName m n) (mode : Mode) (kind : Kind) :
    ((ofMode mode c).value.decide ⟨t, m, kind⟩).reason? =
      ((ofMode mode c').value.decide ⟨u, n, kind⟩).reason? := by
  rw [decide_ofMode_of_holds (Rule.holds_build h), decide_ofMode_of_holds (Rule.holds_build h')]
  show ((Findings.ofClauses (Rule.clausesAll rules) t m).verdict mode _).reason? = _
  rw [Findings.ofClauses_congr (Rule.same_clausesAll hrules) ht hm]
  exact Findings.reason?_verdict_congr _ mode rfl ht.isEngineOwned_iff

/-! ### Types that no rule lists -/

namespace Configuration

variable {c : Configuration} {t : Target} {types : List TypeTag}

/-- A rule is about the type. -/
def Lists (c : Configuration) (k : TypeTag) : Prop :=
  (∃ l ∈ c.trusted, l.id = k.id) ∨ (∃ n, c.blockedFor.lists k n = true) ∨
    ∃ l ∈ c.blockedTypes, l.id = k.id

/-- No question that the configuration asks of a type is true of a type that it does not list. -/
theorem contains_eq_false_of_unlisted {k : TypeTag} (h : ¬c.Lists k) (n : MemberName) :
    c.trusted.contains k = false ∧ c.blockedFor.lists k n = false ∧
      c.blockedTypes.contains k = false := by
  simp only [← Bool.not_eq_true, List.contains_iff_exists_mem_beq]
  refine ⟨?_, ?_, ?_⟩
  · rintro ⟨l, hl, hkl⟩
    exact h (.inl ⟨l, hl, (TypeTag.beq_iff.1 hkl).symm⟩)
  · exact fun hlisted => h (.inr (.inl ⟨n, hlisted⟩))
  · rintro ⟨l, hl, hkl⟩
    exact h (.inr (.inr ⟨l, hl, (TypeTag.beq_iff.1 hkl).symm⟩))

/-- Declaring types of which a question is not true does not change the answer. -/
theorem any_lineage_eq {p : TypeTag → Bool} (hkeep : t.conformsTo ⊆ types)
    (hnew : ∀ k ∈ types, k ∈ t.conformsTo ∨ p k = false) :
    { t with conformsTo := types }.lineage.any p = t.lineage.any p := by
  have hany : types.any p = t.conformsTo.any p := by
    rw [Bool.eq_iff_iff, List.any_eq_true, List.any_eq_true]
    constructor
    · rintro ⟨k, hk, hpk⟩
      rcases hnew k hk with hold | hfalse
      · exact ⟨k, hold, hpk⟩
      · rw [hfalse] at hpk
        cases hpk
    · rintro ⟨k, hk, hpk⟩
      exact ⟨k, hkeep hk, hpk⟩
  simp only [Target.lineage, List.any_cons, hany]

/-- **A type that no rule lists adds nothing to the findings**, declared by whatever value. -/
theorem ofConfiguration_eq_of_unlisted (hkeep : t.conformsTo ⊆ types)
    (hnew : ∀ k ∈ types, k ∈ t.conformsTo ∨ ¬c.Lists k) (m : String) :
    Findings.ofConfiguration c { t with conformsTo := types } m =
      Findings.ofConfiguration c t m := by
  have hfalse : ∀ k ∈ types, k ∈ t.conformsTo ∨ c.trusted.contains k = false ∧
      c.blockedFor.lists k (.fold m) = false ∧ c.blockedTypes.contains k = false :=
    fun k hk => (hnew k hk).imp_right fun h => contains_eq_false_of_unlisted h _
  have htrusts : c.trusts { t with conformsTo := types } = c.trusts t :=
    any_lineage_eq hkeep fun k hk => (hfalse k hk).imp_right And.left
  have hfor : c.blocksOn { t with conformsTo := types } (.fold m) = c.blocksOn t (.fold m) :=
    any_lineage_eq hkeep fun k hk => (hfalse k hk).imp_right fun h => h.2.1
  have htype : c.blocksType { t with conformsTo := types } = c.blocksType t :=
    any_lineage_eq hkeep fun k hk => (hfalse k hk).imp_right fun h => h.2.2
  simp only [Findings.ofConfiguration, admits, htrusts, hfor, htype]

end Configuration

/-- **Decisions hang on identities and declared facts alone, and the engine's own types cannot be
borrowed.** Rules that agree on the identity of every type, whatever the types are called, decide
alike of values that show the same: the same is allowed, and the same denied for the same reason.
And a value gains and loses nothing by declaring types that no rule lists, be they the template
engine's own. -/
theorem decide_of_identities :
    (∀ (rules rules' : List Rule) (c : Configuration) (t u : Target),
      Rule.SameAll rules rules' → t.Alike u → Rule.build rules = .ok c →
        ∃ c', Rule.build rules' = .ok c' ∧ ∀ (mode : Mode) (m : String) (kind : Kind),
          ((Policy.ofMode mode c).value.decide ⟨t, m, kind⟩).reason? =
            ((Policy.ofMode mode c').value.decide ⟨u, m, kind⟩).reason?) ∧
    ∀ (c : Configuration) (t : Target) (types : List TypeTag), t.conformsTo ⊆ types →
      (∀ k ∈ types, k ∈ t.conformsTo ∨ ¬c.Lists k) →
        ∀ (mode : Mode) (m : String) (kind : Kind),
          (Policy.ofMode mode c).value.decide ⟨{ t with conformsTo := types }, m, kind⟩ =
            (Policy.ofMode mode c).value.decide ⟨t, m, kind⟩ := by
  constructor
  · intro rules rules' c t u hrules ht h
    obtain ⟨c', h'⟩ := (Rule.exists_build_congr hrules).1 ⟨c, h⟩
    exact ⟨c', h', fun mode m kind =>
      Policy.reason?_decide_congr hrules h h' ht (.refl m) mode kind⟩
  · intro c t types hkeep hnew mode m kind
    have hfindings := Configuration.ofConfiguration_eq_of_unlisted hkeep hnew m
    exact Policy.decide_eq_of_findings_eq hfindings rfl mode kind

/-- One policy with its types called by another name, all by the same, and a value that declares
itself to be markup. -/
theorem decide_of_identities_renamed :
    let c : Configuration :=
      { trusted := [⟨7, "app::Model"⟩]
        blockedFor := NamesByType.empty.add ⟨8, "app::File"⟩ [.fold "save"] }
    let t : Target := ⟨⟨9, "app::Page"⟩, [⟨7, "app::Model"⟩, ⟨8, "app::File"⟩], .members ["show"]⟩
    let u : Target := ⟨⟨9, "T"⟩, [⟨8, "T"⟩, ⟨7, "T"⟩, ⟨8, "T"⟩], .members ["SHOW", "show"]⟩
    (∃ c', Rule.build [.trust ⟨7, "T"⟩, .merge [.blockOn ⟨8, "T"⟩ ["save"]]] = .ok c' ∧
      ((Policy.ofMode .strict c').value.decide (.method u "Save")).reason? =
        some .blockedForType) ∧
    (Policy.ofMode .strict c).value.decide
        (.method { t with conformsTo := .markup :: t.conformsTo } "Save") =
      .denied ⟨"Page", "Save", .method, .blockedForType⟩ := by
  intro c t u
  have hc : Rule.build [.trust ⟨7, "app::Model"⟩, .merge [.blockOn ⟨8, "app::File"⟩ ["save"]]] =
      .ok c := rfl
  have hdecide : (Policy.ofMode .strict c).value.decide (.method t "Save") =
      .denied ⟨"Page", "Save", .method, .blockedForType⟩ := by decide +kernel
  have hrules : Rule.SameAll
      [.trust ⟨7, "app::Model"⟩, .merge [.blockOn ⟨8, "app::File"⟩ ["save"]]]
      [.trust ⟨7, "T"⟩, .merge [.blockOn ⟨8, "T"⟩ ["save"]]] :=
    ⟨rfl, ⟨⟨rfl, .cons (.refl "save") .nil⟩, trivial⟩, trivial⟩
  have halike : t.Alike u := by
    refine ⟨rfl, fun id => ?_, Capability.alike_iff_grant_eq.2 (by decide +kernel)⟩
    simp only [t, u, List.exists_mem_cons_iff, List.not_mem_nil, false_and, exists_false, or_false]
    tauto
  have hunlisted : ¬c.Lists .markup := by
    rintro (htrusted | ⟨n, hfor⟩ | htype)
    · simp [c, TypeTag.markup] at htrusted
    · exact Bool.false_ne_true hfor
    · simp [c] at htype
  obtain ⟨c', hc', hreason⟩ := decide_of_identities.1 _ _ c t u hrules halike hc
  refine ⟨⟨c', hc', ?_⟩, ?_⟩
  · exact (hreason .strict "Save" .method).symm.trans (congrArg Decision.reason? hdecide)
  · refine (decide_of_identities.2 c t _ (List.subset_cons_self ..) (fun k hk => ?_) .strict
      "Save" .method).trans hdecide
    rcases List.mem_cons.1 hk with rfl | hold
    · exact .inr hunlisted
    · exact .inl hold

end TemplateSandbox
