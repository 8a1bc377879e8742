/-
# Which name stops a build

Building refuses a draft with an unfit name in it and blames one such name. The
names are those that the rules gave (`Rule.given`), each to a set of its own:

| rule | gives its names to |
| --- | --- |
| `allow` | `allowed` |
| `block` | `blocked` |
| `blockProperties` | `properties` |
| `blockOn` | `byType` |
| `preset` | `allowed` and `blocked`, in legacy mode `properties` too |
| `merge` | none: the names in it have passed a build already |

The sets are looked at in the order of `Collection.order`. A set itself has no
order, so a draft may come with the elements of each set in any order
(`Configuration.Reordered`): whether it is built and what it holds then is always
the same, and the name that is blamed is always one of the first set that was
given an unfit name (`Rule.BlamesFirst`).

Names are looked at after folding, which the fault shows. It decides nothing, as
a folded name is fit exactly if the name is (`fit_foldText_iff`).
-/

import TemplateSandbox.Proofs.Acceptance
import TemplateSandbox.Proofs.Representation

namespace TemplateSandbox

/-! ### Every draft comes from rules -/

/-- Rules in two lists are applied one list after the other. -/
theorem Rule.applyAll_append (rules more : List Rule) (d : Draft) :
    applyAll (rules ++ more) d = applyAll rules d >>= applyAll more := by
  induction rules generalizing d with
  | nil => rfl
  | cons rule rest ih =>
    rw [List.cons_append, applyAll_cons, applyAll_cons]
    cases rule.apply d with
    | error fault => rfl
    | ok next => exact ih next

/-- **Calls lead to a draft exactly if a list of rules does**: a merge takes what other rules
have built. -/
theorem Draft.reachable_iff {d : Draft} :
    d.Reachable ↔ ∃ rules, Rule.applyAll rules {} = .ok d := by
  constructor
  · intro h
    have hcall : ∀ {d d' : Draft} (rule : Rule), (∃ rules, Rule.applyAll rules {} = .ok d) →
        rule.apply d = .ok d' → ∃ rules, Rule.applyAll rules {} = .ok d' := by
      rintro d d' rule ⟨rules, hrules⟩ hrule
      refine ⟨rules ++ [rule], ?_⟩
      rw [Rule.applyAll_append, hrules]
      show Rule.applyAll [rule] d = .ok d'
      rw [Rule.applyAll_cons, hrule]
      rfl
    induction h with
    | start => exact ⟨[], rfl⟩
    | trust k _ ih => exact hcall (.trust k) ih rfl
    | allow names _ ih => exact hcall (.allow names) ih rfl
    | block names _ ih => exact hcall (.block names) ih rfl
    | blockOn k names _ ih => exact hcall (.blockOn k names) ih rfl
    | blockType k _ ih => exact hcall (.blockType k) ih rfl
    | blockProperties names _ ih => exact hcall (.blockProperties names) ih rfl
    | @merge d inner c _ _ hbuild ih ihinner =>
      obtain ⟨rules, hrules⟩ := ihinner
      have hc : Rule.build rules = .ok c := by
        rw [Rule.build_eq, hrules]
        exact hbuild
      refine hcall (.merge rules) ih ?_
      rw [Rule.apply_merge, hc]
      rfl
  · rintro ⟨rules, h⟩
    exact Rule.reachable_applyAll rules h .start

/-! ### The elements of a set in any order -/

/-- The second configuration is the first with the elements of each set in some other order; its
map may have its entries, and each entry its names, in any order. -/
structure Configuration.Reordered (c c' : Configuration) : Prop where
  trusted : c.trusted.Perm c'.trusted
  allowed : c.allowed.Perm c'.allowed
  blocked : c.blocked.Perm c'.blocked
  blockedFor : ∀ k n, c.blockedFor.lists k n = c'.blockedFor.lists k n
  blockedTypes : c.blockedTypes.Perm c'.blockedTypes
  blockedProperties : c.blockedProperties.Perm c'.blockedProperties

namespace Configuration.Reordered

variable {c c' : Configuration}

theorem refl (c : Configuration) : c.Reordered c := ⟨.rfl, .rfl, .rfl, fun _ _ => rfl, .rfl, .rfl⟩

/-- The order has no part in what is held. -/
theorem holds_iff (h : c.Reordered c') : ∀ e : Clause, c.Holds e ↔ c'.Holds e
  | .trust _ => by rw [Holds, Holds, h.trusted.contains_eq]
  | .allow _ => by rw [Holds, Holds, h.allowed.contains_eq]
  | .block _ => by rw [Holds, Holds, h.blocked.contains_eq]
  | .blockOn _ _ => by rw [Holds, Holds, h.blockedFor]
  | .blockType _ => by rw [Holds, Holds, h.blockedTypes.contains_eq]
  | .blockProperty _ => by rw [Holds, Holds, h.blockedProperties.contains_eq]

end Configuration.Reordered

/-! ### The names that rules give -/

/-- Clauses that say the same bring one name to one set, each in its own spelling. -/
theorem Clause.Same.collected {s : String} {col : Collection} : ∀ {r e : Clause}, r.Same e →
    e.collected = some (col, s) → ∃ s', r.collected = some (col, s') ∧ SameName s' s
  | .allow _, .allow _, h, rfl | .block _, .block _, h, rfl
  | .blockProperty _, .blockProperty _, h, rfl => ⟨_, rfl, h⟩
  | .blockOn _ _, .blockOn _ _, h, rfl => ⟨_, rfl, h.2⟩

/-- In clauses all names are fit exactly if those are that they bring to the sets. -/
theorem Clause.allFit_iff_collected {cs : List Clause} :
    AllFit cs ↔ ∀ name ∈ cs.filterMap collected, Fit name.2 := by
  constructor
  · rintro hfit ⟨col, s⟩ hname
    obtain ⟨e, he, hcollected⟩ := List.mem_filterMap.1 hname
    exact hfit e he s (by rw [← e.map_snd_collected, hcollected]; rfl)
  · intro hfit e he s hs
    rw [← e.map_snd_collected] at hs
    obtain ⟨name, hname, rfl⟩ := Option.map_eq_some_iff.1 hs
    exact hfit name (List.mem_filterMap.2 ⟨e, he, hname⟩)

/-- The clauses that a configuration holds give the names in its sets. -/
theorem Collection.mem_names_iff_of_holds {c : Configuration} {cs : List Clause}
    (h : ∀ e : Clause, c.Holds e ↔ e.SaidBy cs) {col : Collection} {n : MemberName} :
    n ∈ col.names c ↔ ∃ s, (col, s) ∈ cs.filterMap Clause.collected ∧ MemberName.fold s = n := by
  rw [mem_names_iff]
  constructor
  · rintro ⟨e, he, s, hs, rfl⟩
    obtain ⟨r, hr, hre⟩ := (h e).1 he
    obtain ⟨s', hs', hname⟩ := hre.collected hs
    exact ⟨s', List.mem_filterMap.2 ⟨r, hr, hs'⟩, MemberName.fold_eq_fold_iff.2 hname⟩
  · rintro ⟨s, hs, rfl⟩
    obtain ⟨e, he, hcollected⟩ := List.mem_filterMap.1 hs
    exact ⟨e, (h e).2 ⟨e, he, .refl e⟩, s, hcollected, rfl⟩

namespace Rule

/-- The names that a rule gives, as they are spelled, and the set that each goes to. What is merged
was built before, so a merge gives none. -/
def given : Rule → List (Collection × String)
  | .merge _ => []
  | rule => rule.clauses.filterMap Clause.collected

/-- Where rules were applied, each of them was. -/
theorem exists_apply_of_mem {rules : List Rule} {d d' : Draft} (h : applyAll rules d = .ok d')
    {rule : Rule} (hrule : rule ∈ rules) : ∃ before after, rule.apply before = .ok after := by
  induction rules generalizing d with
  | nil => exact absurd hrule List.not_mem_nil
  | cons first rest ih =>
    rw [applyAll_cons] at h
    obtain ⟨next, hnext, hrest⟩ := ok_of_bind h
    rcases List.mem_cons.1 hrule with rfl | hmem
    · exact ⟨d, next, hnext⟩
    · exact ih hrest hmem

/-- An unfit name in a clause of a rule that was applied is one that the rule gives. -/
theorem mem_given_iff_of_unfit {rule : Rule} {d d' : Draft} (h : rule.apply d = .ok d')
    {col : Collection} {s : String} (hs : ¬Fit s) :
    (col, s) ∈ rule.given ↔ (col, s) ∈ rule.clauses.filterMap Clause.collected := by
  cases rule with
  | merge rules =>
    obtain ⟨c, hc, _⟩ := build_of_apply_merge h
    have hfit : Clause.AllFit (clausesAll rules) := exists_build_iff.1 ⟨c, hc⟩
    refine iff_of_false List.not_mem_nil fun hmem => hs ?_
    rw [clauses] at hmem
    exact Clause.allFit_iff_collected.1 hfit (col, s) hmem
  | _ => exact Iff.rfl

/-- The unfit names in the clauses of rules that were applied are those that the rules give. -/
theorem mem_flatMap_given_iff_of_unfit {rules : List Rule} {d d' : Draft}
    (h : applyAll rules d = .ok d') {col : Collection} {s : String} (hs : ¬Fit s) :
    (col, s) ∈ rules.flatMap given ↔
      (col, s) ∈ (clausesAll rules).filterMap Clause.collected := by
  rw [clausesAll_eq_flatMap, List.filterMap_flatMap, List.mem_flatMap, List.mem_flatMap]
  refine exists_congr fun rule => and_congr_right fun hrule => ?_
  obtain ⟨before, after, happly⟩ := exists_apply_of_mem h hrule
  exact mem_given_iff_of_unfit happly hs

/-- The names in the clauses of rules that were applied are fit exactly if those given are. -/
theorem allFit_clausesAll_iff {rules : List Rule} {d d' : Draft} (h : applyAll rules d = .ok d') :
    Clause.AllFit (clausesAll rules) ↔ ∀ name ∈ rules.flatMap given, Fit name.2 := by
  rw [Clause.allFit_iff_collected]
  constructor
  · intro hfit name hname
    by_contra hs
    exact hs (hfit name ((mem_flatMap_given_iff_of_unfit h hs).1 hname))
  · intro hfit name hname
    by_contra hs
    exact hs (hfit name ((mem_flatMap_given_iff_of_unfit h hs).2 hname))

end Rule

/-! ### What building blames -/

/-- The fault is that of an unfit name, and shows it folded. -/
structure Fault.Blames (fault : Fault) (s : String) : Prop where
  cause : fault = .badConfig (.name (if s = "" then .empty else .blank (foldText s)))
  code : fault.code = "INVALID_CONFIG"
  message : fault.message = "invalid policy config: " ++
    if s = "" then "member name must not be empty"
    else "member name must not contain whitespace: " ++ Text.quoted (foldText s)

theorem Fault.blames_of_cause {fault : Fault} {s : String}
    (h : fault = .badConfig (.name (if s = "" then .empty else .blank (foldText s)))) :
    fault.Blames s := by
  subst h
  refine ⟨rfl, rfl, ?_⟩
  by_cases hempty : s = ""
  · rw [if_pos hempty, if_pos hempty]
    rfl
  · rw [if_neg hempty, if_neg hempty]
    rfl

/-- The fault is that of an unfit name which the rules give to the first of the sets, in order, that
they give an unfit name to. -/
def Rule.BlamesFirst (rules : List Rule) (fault : Fault) : Prop :=
  ∃ before col after s, Collection.order = before ++ col :: after ∧
    (∀ name ∈ rules.flatMap given, name.1 ∈ before → Fit name.2) ∧
    (col, s) ∈ rules.flatMap given ∧ ¬Fit s ∧ fault.Blames s

/-- Of all groups together the first answer is that of the first group that has one. -/
theorem findSome?_flatMap {α β γ : Type} (f : α → List β) (p : β → Option γ) (xs : List α) :
    (xs.flatMap f).findSome? p = xs.findSome? fun x => (f x).findSome? p := by
  simp only [← List.head?_filterMap, List.filterMap_flatMap, List.head?_flatMap]

/-- Building that fails blames a name of the first set with an unfit one. -/
theorem Draft.exists_unfit_of_build {d : Draft} {fault : Fault} (h : d.build = .error fault) :
    ∃ before col after n, Collection.order = before ++ col :: after ∧
      (∀ col' ∈ before, ∀ m ∈ col'.names d.soFar, Fit m.text) ∧
      n ∈ col.names d.soFar ∧ ¬Fit n.text ∧
      fault = .badConfig (.name (if n.text = "" then .empty else .blank n.text)) := by
  unfold build at h
  split at h
  · rename_i found hfound
    obtain rfl := Except.error.inj h
    rw [Configuration.memberNames_eq_flatMap, findSome?_flatMap, List.findSome?_eq_some_iff]
      at hfound
    obtain ⟨before, col, after, horder, hcol, hbefore⟩ := hfound
    obtain ⟨n, hn, hfind⟩ := List.exists_of_findSome?_eq_some hcol
    refine ⟨before, col, after, n, horder, fun col' hcol' m hm => ?_, hn, fun hfit => ?_, ?_⟩
    · have hnone := List.findSome?_eq_none_iff.1 (hbefore col' hcol') m hm
      exact NameFault.find?_eq_none_iff_fit.1 hnone
    · rw [NameFault.find?_eq_none_iff_fit.2 hfit] at hfind
      cases hfind
    · rw [NameFault.find?_eq_ite] at hfind
      split at hfind
      · cases hfind
      · rw [Option.some.inj hfind]
  · cases h

/-- A draft that starts with some rules holds their clauses and no others, whatever the order in its
sets. -/
theorem Rule.holds_of_reordered {rules : List Rule} {d : Draft} (h : applyAll rules {} = .ok d)
    {c : Configuration} (hc : d.soFar.Reordered c) (e : Clause) :
    c.Holds e ↔ e.SaidBy (clausesAll rules) :=
  (hc.holds_iff e).symm.trans (holds_of_applyAll h e)

/-- The name that is blamed was given by the rules, and to the first set that it can be. -/
theorem Rule.blamesFirst_of_build {rules : List Rule} {d : Draft} (h : applyAll rules {} = .ok d)
    {c : Configuration} (hc : d.soFar.Reordered c) {fault : Fault}
    (hfault : Draft.build ⟨c⟩ = .error fault) : BlamesFirst rules fault := by
  have hholds : ∀ e : Clause, c.Holds e ↔ e.SaidBy (clausesAll rules) := holds_of_reordered h hc
  obtain ⟨before, col, after, n, horder, hbefore, hn, hunfit, hcause⟩ :=
    Draft.exists_unfit_of_build hfault
  obtain ⟨s, hs, rfl⟩ := (Collection.mem_names_iff_of_holds hholds).1 hn
  have hsunfit : ¬Fit s := fun hfit => hunfit (fit_foldText_iff.2 hfit)
  refine ⟨before, col, after, s, horder, fun ⟨col', s'⟩ hname hcol' => ?_,
    (mem_flatMap_given_iff_of_unfit h hsunfit).2 hs, hsunfit, ?_⟩
  · by_contra hs'
    have hmem : MemberName.fold s' ∈ col'.names c :=
      (Collection.mem_names_iff_of_holds hholds).2
        ⟨s', (mem_flatMap_given_iff_of_unfit h hs').1 hname, rfl⟩
    exact hs' (fit_foldText_iff.1 (hbefore col' hcol' _ hmem))
  · simp only [MemberName.text_fold, foldText_eq_empty_iff] at hcause
    exact Fault.blames_of_cause hcause

/-- **Building takes exactly the fit names and blames one that is not.** Folding makes no name fit
or unfit. Whatever calls lead to a draft, and whatever the order in its sets, it is built exactly
if the names that were given are fit; then it holds what the rules say and no more. Otherwise the
fault is about a name that was given to the first set with an unfit one. -/
theorem build_by_given_names :
    (∀ s : String, Fit (foldText s) ↔ Fit s) ∧
    (∀ d : Draft, d.Reachable ↔ ∃ rules, Rule.applyAll rules {} = .ok d) ∧
    ∀ (rules : List Rule) (d : Draft) (c : Configuration),
      Rule.applyAll rules {} = .ok d → d.soFar.Reordered c →
        ((∃ built, Draft.build ⟨c⟩ = .ok built) ↔
          ∀ name ∈ rules.flatMap Rule.given, Fit name.2) ∧
        (∀ built, Draft.build ⟨c⟩ = .ok built →
          built = c ∧ ∀ e : Clause, built.Holds e ↔ e.SaidBy (Rule.clausesAll rules)) ∧
        ∀ fault, Draft.build ⟨c⟩ = .error fault → Rule.BlamesFirst rules fault := by
  refine ⟨fun s => fit_foldText_iff, fun d => Draft.reachable_iff, fun rules d c h hc => ?_⟩
  have hholds : ∀ e : Clause, c.Holds e ↔ e.SaidBy (Rule.clausesAll rules) :=
    Rule.holds_of_reordered h hc
  refine ⟨?_, fun built hbuilt => ?_, fun fault => Rule.blamesFirst_of_build h hc⟩
  · rw [← Rule.allFit_clausesAll_iff h, ← Draft.build_eq_ok_iff (d := ⟨c⟩) hholds]
    constructor
    · rintro ⟨built, hbuilt⟩
      rwa [Draft.eq_soFar_of_build hbuilt] at hbuilt
    · exact fun hbuilt => ⟨c, hbuilt⟩
  · obtain rfl := Draft.eq_soFar_of_build hbuilt
    exact ⟨rfl, hholds⟩

/-- Names are unfit in three sets, and the vetoed ones come before that of a property and that on a
type. With the vetoed names in another order another of them is blamed. Without the rules that give
unfit names, what is left is built. -/
theorem build_by_given_names_twoOrders :
    let fit : List Rule := [.merge [.allow ["Show"]], .trust ⟨7, "app::Page"⟩, .block ["save"]]
    let unfit : List Rule :=
      [.blockOn ⟨7, "app::Page"⟩ ["a b"], .blockProperties [" "], .block ["To Html", ""]]
    let c : Configuration :=
      { trusted := [⟨7, "app::Page"⟩], allowed := [.fold "Show"], blocked := [.fold "save"] }
    let d : Draft :=
      ⟨{ c with
          blocked := [.fold "", .fold "To Html", .fold "save"]
          blockedFor := NamesByType.empty.add ⟨7, "app::Page"⟩ [.fold "a b"]
          blockedProperties := [.fold " "] }⟩
    let d' : Draft :=
      ⟨{ d.soFar with blocked := [.fold "save", .fold "To Html", .fold ""] }⟩
    (∃ built, Rule.applyAll fit {} = .ok ⟨c⟩ ∧ Draft.build ⟨c⟩ = .ok built ∧
      ∀ e : Clause, built.Holds e ↔ e.SaidBy (Rule.clausesAll fit)) ∧
    Rule.applyAll (fit ++ unfit) {} = .ok d ∧ d.soFar.Reordered d'.soFar ∧
    d.build = .error (.badConfig (.name .empty)) ∧
    Rule.BlamesFirst (fit ++ unfit) (.badConfig (.name .empty)) ∧
    d'.build = .error (.badConfig (.name (.blank "to html"))) ∧
    Rule.BlamesFirst (fit ++ unfit) (.badConfig (.name (.blank "to html"))) := by
  intro fit unfit c d d'
  have hfit : Rule.applyAll fit {} = .ok ⟨c⟩ := rfl
  have hunfit : Rule.applyAll (fit ++ unfit) {} = .ok d := rfl
  have hreordered : d.soFar.Reordered d'.soFar :=
    { Configuration.Reordered.refl d.soFar with blocked := by decide +kernel }
  have hd : d.build = .error (.badConfig (.name .empty)) := rfl
  have hd' : d'.build = .error (.badConfig (.name (.blank "to html"))) := rfl
  obtain ⟨hbuilds, hholds, _⟩ := build_by_given_names.2.2 fit ⟨c⟩ c hfit (.refl c)
  obtain ⟨built, hbuilt⟩ := hbuilds.2 (by decide +kernel)
  obtain ⟨_, _, hblames⟩ := build_by_given_names.2.2 _ d d.soFar hunfit (.refl _)
  obtain ⟨_, _, hblames'⟩ := build_by_given_names.2.2 _ d d'.soFar hunfit hreordered
  exact ⟨⟨built, hfit, hbuilt, (hholds built hbuilt).2⟩, hunfit, hreordered, hd, hblames _ hd, hd',
    hblames' _ hd'⟩

end TemplateSandbox
