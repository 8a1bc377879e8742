/-
# Rules as a set

Of the rules that are given, only the set of their clauses counts. Lists whose
clauses are one set (`Clause.SameSet`) can both be built or neither, and what they
build cannot be told apart (`Rule.Equivalent`): it gives the same answer to every
question (`Configuration.AnswersAs`) and has the same elements to show, in
whatever order.

| merging | comes to the same as |
| --- | --- |
| two lists | the same two the other way round |
| a list and then what two others merge into | two and then the third |
| a list twice | the list once |
| a list without rules | nothing |
| a list | giving its rules one by one |

A configuration answers by what it holds (`Configuration.answersAs_of_holds`), and
it holds what the clauses say; so all of the table is one fact about clauses
(`Rule.Equivalent.of_sameSet`). Blocking no names on a type gives the type an entry
without names, which no question sees (`Rule.equivalent_blockOn_nil`).
-/

import TemplateSandbox.Proofs.Representation
import Mathlib.Data.List.Perm.Basic
import Mathlib.Data.List.Nodup

namespace TemplateSandbox

/-! ### Lists that have the same elements -/

section Lists

variable {α β : Type} [BEq α] {xs ys : List α}

/-- Two lists without repetition that contain the same show the same, each element once. -/
theorem Distinct.perm_map {f : α → β} (hf : ∀ {a b : α}, (a == b) = true ↔ f a = f b)
    (hxs : Distinct xs) (hys : Distinct ys) (h : ∀ a, xs.contains a = ys.contains a) :
    (xs.map f).Perm (ys.map f) := by
  have hnodup : ∀ {zs : List α}, Distinct zs → (zs.map f).Nodup := fun hzs =>
    List.pairwise_map.2 (hzs.imp fun hne heq => Bool.eq_false_iff.1 hne (hf.2 heq))
  have hmem : ∀ {as bs : List α}, (∀ a, as.contains a = bs.contains a) →
      ∀ b, b ∈ as.map f → b ∈ bs.map f := by
    intro as bs h b hb
    obtain ⟨a, ha, rfl⟩ := List.mem_map.1 hb
    have hcontains : bs.contains a = true :=
      h a ▸ List.contains_iff_exists_mem_beq.2 ⟨a, ha, hf.2 rfl⟩
    obtain ⟨a', ha', heq⟩ := List.contains_iff_exists_mem_beq.1 hcontains
    exact List.mem_map.2 ⟨a', ha', (hf.1 heq).symm⟩
  refine (List.perm_ext_iff_of_nodup (hnodup hxs) (hnodup hys)).2 fun b => ?_
  exact ⟨hmem h b, hmem (fun a => (h a).symm) b⟩

/-- A list has an element exactly if it contains one. -/
theorem isEmpty_eq_false_iff_contains [ReflBEq α] :
    xs.isEmpty = false ↔ ∃ a, xs.contains a = true := by
  cases xs with
  | nil => simp
  | cons a rest => simpa using ⟨a, .inl (ReflBEq.rfl)⟩

end Lists

/-! ### Configurations that cannot be told apart -/

namespace Configuration

/-- Two configurations answer every question alike and have the same to show: types by identity,
each once, and names. -/
structure AnswersAs (c c' : Configuration) : Prop where
  trusts : ∀ t, c.trusts t = c'.trusts t
  blocksOn : ∀ t n, c.blocksOn t n = c'.blocksOn t n
  blocksType : ∀ t, c.blocksType t = c'.blocksType t
  allows : ∀ n, c.allows n = c'.allows n
  blocks : ∀ n, c.blocks n = c'.blocks n
  blocksProperty : ∀ n, c.blocksProperty n = c'.blocksProperty n
  hasLegacyRules : c.hasLegacyRules = c'.hasLegacyRules
  /-- The same types are shown as trusted. -/
  trusted : (c.trusted.map TypeTag.id).Perm (c'.trusted.map TypeTag.id)
  /-- The same names are shown as admitted. -/
  allowed : c.allowed.Perm c'.allowed
  /-- The same names are shown as vetoed. -/
  blocked : c.blocked.Perm c'.blocked
  /-- The same types are shown as vetoed. -/
  blockedTypes : (c.blockedTypes.map TypeTag.id).Perm (c'.blockedTypes.map TypeTag.id)

/-- There are rules for the legacy mode alone exactly if a clause of such a kind is held. -/
theorem hasLegacyRules_iff {c : Configuration} :
    c.hasLegacyRules = true ↔
      (∃ k, c.Holds (.blockType k)) ∨ ∃ n, c.Holds (.blockProperty n) := by
  have hproperty : (∃ n, c.blockedProperties.contains n = true) ↔ ∃ n, c.Holds (.blockProperty n) :=
    ⟨fun ⟨n, hn⟩ => ⟨n.text, by rwa [Holds, MemberName.fold_text]⟩, fun ⟨n, hn⟩ => ⟨_, hn⟩⟩
  rw [hasLegacyRules, Bool.or_eq_true, Bool.not_eq_true', Bool.not_eq_true',
    isEmpty_eq_false_iff_contains, isEmpty_eq_false_iff_contains, hproperty]
  rfl

/-- **A configuration answers by the clauses that it holds.** -/
theorem answersAs_of_holds {c c' : Configuration} (hc : c.AllDistinct) (hc' : c'.AllDistinct)
    (h : ∀ e : Clause, c.Holds e ↔ c'.Holds e) : c.AnswersAs c' := by
  have hname : ∀ {f : String → Clause} {xs ys : List MemberName},
      (∀ s, c.Holds (f s) ↔ xs.contains (.fold s) = true) →
      (∀ s, c'.Holds (f s) ↔ ys.contains (.fold s) = true) →
        ∀ n, xs.contains n = ys.contains n := by
    intro f xs ys hxs hys n
    rw [← n.fold_text]
    exact Bool.eq_iff_iff.2 ((hxs _).symm.trans ((h _).trans (hys _)))
  have htrusted : ∀ k, c.trusted.contains k = c'.trusted.contains k :=
    fun k => Bool.eq_iff_iff.2 (h (.trust k))
  have hallowed : ∀ n, c.allowed.contains n = c'.allowed.contains n :=
    hname (f := .allow) (fun _ => Iff.rfl) fun _ => Iff.rfl
  have hblocked : ∀ n, c.blocked.contains n = c'.blocked.contains n :=
    hname (f := .block) (fun _ => Iff.rfl) fun _ => Iff.rfl
  have hproperties : ∀ n, c.blockedProperties.contains n = c'.blockedProperties.contains n :=
    hname (f := .blockProperty) (fun _ => Iff.rfl) fun _ => Iff.rfl
  have hfor : ∀ k n, c.blockedFor.lists k n = c'.blockedFor.lists k n := by
    intro k n
    rw [← n.fold_text]
    exact Bool.eq_iff_iff.2 (h (.blockOn k n.text))
  have htypes : ∀ k, c.blockedTypes.contains k = c'.blockedTypes.contains k :=
    fun k => Bool.eq_iff_iff.2 (h (.blockType k))
  have hid : ∀ {k l : TypeTag}, (k == l) = true ↔ k.id = l.id := TypeTag.beq_iff
  have htext : ∀ {m n : MemberName}, (m == n) = true ↔ id m = id n := beq_iff_eq
  exact
    { trusts := fun t => congrArg t.lineage.any (funext htrusted)
      blocksOn := fun t n => congrArg t.lineage.any (funext fun k => hfor k n)
      blocksType := fun t => congrArg t.lineage.any (funext htypes)
      allows := hallowed
      blocks := hblocked
      blocksProperty := hproperties
      hasLegacyRules := by
        rw [Bool.eq_iff_iff, hasLegacyRules_iff, hasLegacyRules_iff]
        simp only [h]
      trusted := hc.trusted.perm_map hid hc'.trusted htrusted
      allowed := by simpa using hc.allowed.perm_map htext hc'.allowed hallowed
      blocked := by simpa using hc.blocked.perm_map htext hc'.blocked hblocked
      blockedTypes := hc.blockedTypes.perm_map hid hc'.blockedTypes htypes }

end Configuration

/-! ### Rules that come to the same -/

namespace Rule

/-- Two lists of rules come to the same: both can be built or neither, a merge that fails counting
as a failure, and what they build cannot be told apart. -/
structure Equivalent (rules rules' : List Rule) : Prop where
  exists_build : (∃ c, build rules = .ok c) ↔ ∃ c, build rules' = .ok c
  answersAs : ∀ c c', build rules = .ok c → build rules' = .ok c' → c.AnswersAs c'

namespace Equivalent

variable {rules rules' : List Rule}

/-- **Of the rules that are given, only the set of their clauses counts.** -/
theorem of_sameSet (h : Clause.SameSet (clausesAll rules) (clausesAll rules')) :
    Equivalent rules rules' where
  exists_build := by rw [exists_build_iff, exists_build_iff, h.allFit_iff]
  answersAs c c' hc hc' := by
    refine Configuration.answersAs_of_holds (reachable_of_build hc).wellFormed.distinct
      (reachable_of_build hc').wellFormed.distinct fun e => ?_
    rw [holds_build hc, holds_build hc', h.saidBy_iff]

/-- Lists with the same clauses in them come to the same. -/
theorem of_mem_iff (h : ∀ e, e ∈ clausesAll rules ↔ e ∈ clausesAll rules') :
    Equivalent rules rules' :=
  of_sameSet (.of_mem_iff h)

end Equivalent

@[simp] theorem clausesAll_append (rules rules' : List Rule) :
    clausesAll (rules ++ rules') = clausesAll rules ++ clausesAll rules' := by
  simp only [clausesAll_eq_flatMap, List.flatMap_append]

/-- **Blocking no names on a type does nothing**, among whatever rules, though the type has an entry
from then on. -/
theorem equivalent_blockOn_nil (before after : List Rule) (k : TypeTag) :
    Equivalent (before ++ [.blockOn k []] ++ after) (before ++ after) := by
  refine .of_mem_iff fun e => ?_
  simp only [clausesAll_append, clausesAll, clauses, List.map_nil, List.append_nil]

end Rule

/-- **The rules of a draft are a set.** Lists of rules whose clauses are one set come to the same,
in whatever order, repetition or nesting of merges they are given. So two merges may change places,
may be bracketed in either way and count once if they are the same; to merge nothing does nothing,
and to merge a list is to give its rules one by one. All this holds among any other rules. -/
theorem build_of_sameSet :
    (∀ rules rules' : List Rule,
      Clause.SameSet (Rule.clausesAll rules) (Rule.clausesAll rules') →
        Rule.Equivalent rules rules') ∧
    ∀ before after as bs cs : List Rule,
      Rule.Equivalent (before ++ [.merge as, .merge bs] ++ after)
        (before ++ [.merge bs, .merge as] ++ after) ∧
      Rule.Equivalent (before ++ [.merge [.merge as, .merge bs], .merge cs] ++ after)
        (before ++ [.merge as, .merge [.merge bs, .merge cs]] ++ after) ∧
      Rule.Equivalent (before ++ [.merge as, .merge as] ++ after)
        (before ++ [.merge as] ++ after) ∧
      Rule.Equivalent (before ++ [.merge []] ++ after) (before ++ after) ∧
      Rule.Equivalent (before ++ [.merge as] ++ after) (before ++ as ++ after) := by
  refine ⟨fun _ _ => .of_sameSet, fun before after as bs cs => ⟨?_, ?_, ?_, ?_, ?_⟩⟩ <;>
    refine .of_mem_iff fun e => ?_ <;>
    simp only [Rule.clausesAll_append, Rule.clausesAll, Rule.clauses, List.mem_append,
      List.not_mem_nil, or_false]
  -- Nothing and a list given one by one are through; the rest is the algebra of `∨`.
  · rw [or_comm (a := e ∈ Rule.clausesAll as)]
  · rw [or_assoc (a := e ∈ Rule.clausesAll as)]
  · rw [or_self]

/-- Rules in another order and other letters, with one given twice, one without a name and a type
called otherwise; and two lists that cannot be built, for one bad name at different depths. -/
theorem build_of_sameSet_nested :
    let rules : List Rule := [.blockOn ⟨7, "app::Model"⟩ ["save"], .blockOn ⟨8, "app::Page"⟩ [],
      .merge [.allow ["show", "SHOW"], .merge [.blockOn ⟨7, "T"⟩ ["drop"]]]]
    let rules' : List Rule := [.merge [.blockOn ⟨7, "Model"⟩ ["DROP", "save"]], .allow ["Show"]]
    (∃ c c', Rule.build rules = .ok c ∧ Rule.build rules' = .ok c' ∧ c.AnswersAs c') ∧
      ((∃ c, Rule.build [.merge [.merge [.block ["a b"]]]] = .ok c) ↔
        ∃ c, Rule.build [.block ["A b"], .merge []] = .ok c) := by
  intro rules rules'
  have hshow : SameName "show" "Show" := by decide +kernel
  have hloud : SameName "SHOW" "Show" := by decide +kernel
  have hdrop : SameName "drop" "DROP" := by decide +kernel
  have hblank : SameName "a b" "A b" := by decide +kernel
  have hsame : Clause.SameSet (Rule.clausesAll rules) (Rule.clausesAll rules') := by
    simp [rules, rules', Clause.SameSet, Rule.clausesAll, Rule.clauses, Clause.SaidBy,
      Clause.Same, SameName.refl, hshow, hdrop, hshow.symm, hloud.symm, hdrop.symm]
  have hblanks : Clause.SameSet (Rule.clausesAll [.merge [.merge [.block ["a b"]]]])
      (Rule.clausesAll [.block ["A b"], .merge []]) := by
    simp [Clause.SameSet, Rule.clausesAll, Rule.clauses, Clause.SaidBy, Clause.Same, hblank,
      hblank.symm]
  obtain ⟨hbuild, hanswers⟩ := build_of_sameSet.1 rules rules' hsame
  obtain ⟨c, hc⟩ := Rule.exists_build_iff.2
    (by decide +kernel : Clause.AllFit (Rule.clausesAll rules))
  obtain ⟨c', hc'⟩ := hbuild.1 ⟨c, hc⟩
  exact ⟨⟨c, c', hc, hc', hanswers c c' hc hc'⟩, (build_of_sameSet.1 _ _ hblanks).exists_build⟩

end TemplateSandbox
