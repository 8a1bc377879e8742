/-
# Rules for a type and the values they hold for

Whether a rule for a type holds for a value can be asked from two sides. The value
is asked for the type of each rule (`Target.isInstance`), or the configuration is
asked for each type of the value, its own and the declared ones (`Target.lineage`).
The answer is one (`Target.any_lineage_contains_iff`):

| question | is answered yes if the value is an instance of |
| --- | --- |
| `trusts` | a type that a rule trusts |
| `blocksType` | a type that a rule blocks |
| `blocksOn` | a type for which a rule lists the name |

A rule counts wherever it is given, also inside merges (`Rule.OccursIn`). A type of
the lineage for which only other names are listed, or none, does not end the search
(`Configuration.blocksOn_append_iff`). What the declared types declare in turn is
not looked at: an instance of a type has it in its own lineage.
-/

import TemplateSandbox.Proofs.Findings

namespace TemplateSandbox

/-! ### Rules wherever they are given -/

namespace Rule

/-- The rule is one of the rules, or one of those that a merge among them takes in. -/
inductive OccursIn (rule : Rule) : List Rule → Prop
  /-- It comes first. -/
  | here (rest : List Rule) : OccursIn rule (rule :: rest)
  /-- It comes later. -/
  | later (first : Rule) {rest : List Rule} : OccursIn rule rest → OccursIn rule (first :: rest)
  /-- It is given to a merge that comes first. -/
  | inside (rest : List Rule) {inner : List Rule} :
    OccursIn rule inner → OccursIn rule (.merge inner :: rest)

/-- Rules have the clauses of every rule that occurs in them. -/
theorem OccursIn.clauses_subset {rule : Rule} {rules : List Rule} (h : OccursIn rule rules) :
    rule.clauses ⊆ clausesAll rules := by
  intro e he
  induction h with
  | here rest =>
    rw [clausesAll]
    exact List.mem_append_left _ he
  | later first _ ih =>
    rw [clausesAll]
    exact List.mem_append_right _ ih
  | inside rest _ ih =>
    rw [clausesAll, clauses]
    exact List.mem_append_left _ ih

end Rule

/-- The clause is about a type. -/
def Clause.IsTyped : Clause → Prop
  | .trust _ | .blockOn _ _ | .blockType _ => True
  | .allow _ | .block _ | .blockProperty _ => False

theorem Clause.Same.isTyped : ∀ {r e : Clause}, r.Same e → e.IsTyped → r.IsTyped
  | .trust _, .trust _, _, h | .blockOn _ _, .blockOn _ _, _, h
  | .blockType _, .blockType _, _, h => h

/-- A preset lists names and no types. -/
theorem Preset.not_isTyped {p : Preset} {mode : Mode} {e : Clause} (he : e ∈ p.clauses mode) :
    ¬e.IsTyped := by
  have hnames : ∀ {f : String → Clause} {names : List String}, (∀ n, ¬(f n).IsTyped) →
      e ∈ names.map f → ¬e.IsTyped := by
    intro f names hf hmem
    obtain ⟨n, _, rfl⟩ := List.mem_map.1 hmem
    exact hf n
  have hcases : (e ∈ p.allowed.map .allow ∨ e ∈ p.blocked.map .block) ∨
      e ∈ p.blockedProperties.map .blockProperty := by
    cases mode with
    | strict => exact .inl (by simpa [Preset.clauses] using he)
    | legacy => simpa [Preset.clauses, or_assoc] using he
  rcases hcases with (hallow | hblock) | hproperty
  · exact hnames (fun _ => id) hallow
  · exact hnames (fun _ => id) hblock
  · exact hnames (fun _ => id) hproperty

namespace Rule

/-- The rule is for a type, and the clause is what it says of the type. -/
inductive Gives : Rule → Clause → Prop
  | trust (k : TypeTag) : Gives (.trust k) (.trust k)
  | blockType (k : TypeTag) : Gives (.blockType k) (.blockType k)
  | blockOn (k : TypeTag) {names : List String} {s : String} (hs : s ∈ names) :
    Gives (.blockOn k names) (.blockOn k s)

theorem Gives.mem_clauses {rule : Rule} {e : Clause} : rule.Gives e → e ∈ rule.clauses
  | .trust _ | .blockType _ => List.mem_singleton.2 rfl
  | .blockOn _ hs => List.mem_map_of_mem hs

mutual

/-- What a rule says of a type, it says by a rule for the type: it is one, or it takes one in. -/
theorem exists_gives_of_mem_clauses : ∀ (rule : Rule) (rest : List Rule) {e : Clause},
    e.IsTyped → e ∈ rule.clauses → ∃ single, OccursIn single (rule :: rest) ∧ single.Gives e
  | .trust k, rest, _, _, he => by
    obtain rfl := List.mem_singleton.1 he
    exact ⟨_, .here rest, .trust k⟩
  | .blockType k, rest, _, _, he => by
    obtain rfl := List.mem_singleton.1 he
    exact ⟨_, .here rest, .blockType k⟩
  | .blockOn k names, rest, _, _, he => by
    obtain ⟨s, hs, rfl⟩ := List.mem_map.1 he
    exact ⟨_, .here rest, .blockOn k hs⟩
  | .allow _, _, _, htyped, he | .block _, _, _, htyped, he
  | .blockProperties _, _, _, htyped, he => by
    obtain ⟨_, _, rfl⟩ := List.mem_map.1 he
    exact htyped.elim
  | .preset _ _, _, _, htyped, he => absurd htyped (Preset.not_isTyped he)
  | .merge inner, rest, _, htyped, he => by
    rw [clauses] at he
    obtain ⟨single, hsingle, hgives⟩ := exists_gives_of_mem_clausesAll inner htyped he
    exact ⟨single, hsingle.inside rest, hgives⟩

/-- What rules say of a type, they say by a rule for the type, at whatever depth. -/
theorem exists_gives_of_mem_clausesAll : ∀ (rules : List Rule) {e : Clause},
    e.IsTyped → e ∈ clausesAll rules → ∃ single, OccursIn single rules ∧ single.Gives e
  | [], _, _, he => absurd he List.not_mem_nil
  | rule :: rest, _, htyped, he => by
    rw [clausesAll, List.mem_append] at he
    rcases he with he | he
    · exact exists_gives_of_mem_clauses rule rest htyped he
    · obtain ⟨single, hsingle, hgives⟩ := exists_gives_of_mem_clausesAll rest htyped he
      exact ⟨single, hsingle.later rule, hgives⟩

end

/-- **What is said of a type is what the rules for it say**, wherever they occur. -/
theorem mem_clausesAll_iff_gives {rules : List Rule} {e : Clause} (htyped : e.IsTyped) :
    e ∈ clausesAll rules ↔ ∃ single, OccursIn single rules ∧ single.Gives e := by
  constructor
  · exact exists_gives_of_mem_clausesAll rules htyped
  · rintro ⟨single, hsingle, hgives⟩
    exact hsingle.clauses_subset hgives.mem_clauses

end Rule

/-! ### Two sides to ask from -/

namespace Target

variable {t : Target} {k l : TypeTag}

theorem isInstance_iff_isA : t.isInstance k = true ↔ t.IsA k := by
  rw [isInstance_eq_any_lineage, List.any_eq_true, isA_iff]
  simp only [TypeTag.beq_iff]

theorem isInstance_congr (h : k.id = l.id) : t.isInstance k = true ↔ t.isInstance l = true := by
  rw [isInstance_iff_isA, isInstance_iff_isA, isA_congr h]

/-- **To look for the types of a value in a set is to ask the value for each type in the set.** -/
theorem any_lineage_contains_iff {types : List TypeTag} :
    t.lineage.any types.contains = true ↔ ∃ k ∈ types, t.isInstance k = true := by
  simp only [isInstance_eq_any_lineage, List.any_eq_true, List.contains_iff_exists_mem_beq]
  constructor
  · rintro ⟨l, hl, k, hk, hsame⟩
    exact ⟨k, hk, l, hl, hsame⟩
  · rintro ⟨k, hk, l, hl, hsame⟩
    exact ⟨l, hl, k, hk, hsame⟩

end Target

namespace Configuration

/-- The names that are vetoed on the instances of `k` by what is listed for `k` itself. -/
def namesFor (c : Configuration) (k : TypeTag) : List MemberName := (c.blockedFor.find? k).getD []

variable {c : Configuration} {t u : Target} {n : MemberName}

theorem mem_namesFor_iff {k : TypeTag} :
    n ∈ c.namesFor k ↔ c.blockedFor.lists k n = true := by
  rw [namesFor, NamesByType.lists]
  cases c.blockedFor.find? k <;> simp

/-- A name is blocked on a value exactly if a type of the lineage lists it. -/
theorem blocksOn_iff_mem_namesFor :
    c.blocksOn t n = true ↔ ∃ k ∈ t.lineage, n ∈ c.namesFor k := by
  rw [blocksOn, List.any_eq_true]
  simp only [mem_namesFor_iff]

/-- **The search goes on after types that list other names, or none.** -/
theorem blocksOn_append_iff {before after : List TypeTag} (hlineage : t.lineage = before ++ after)
    (hother : ∀ k ∈ before, n ∉ c.namesFor k) :
    c.blocksOn t n = true ↔ ∃ k ∈ after, n ∈ c.namesFor k := by
  rw [blocksOn_iff_mem_namesFor, hlineage]
  constructor
  · rintro ⟨k, hk, hlisted⟩
    rcases List.mem_append.1 hk with hbefore | hafter
    · exact absurd hlisted (hother k hbefore)
    · exact ⟨k, hafter, hlisted⟩
  · rintro ⟨k, hk, hlisted⟩
    exact ⟨k, List.mem_append_right _ hk, hlisted⟩

/-- Of a lineage, a question sees the identities of its types and nothing else. -/
theorem any_lineage_congr {p : TypeTag → Bool} (hp : ∀ {k l : TypeTag}, k.id = l.id → p k = p l)
    (h : ∀ id, id ∈ t.lineage.map TypeTag.id ↔ id ∈ u.lineage.map TypeTag.id) :
    t.lineage.any p = u.lineage.any p := by
  have hle : ∀ {as bs : List TypeTag}, (∀ id, id ∈ as.map TypeTag.id → id ∈ bs.map TypeTag.id) →
      as.any p = true → bs.any p = true := by
    intro as bs hsub hany
    obtain ⟨k, hk, hpk⟩ := List.any_eq_true.1 hany
    obtain ⟨l, hl, hid⟩ := List.mem_map.1 (hsub k.id (List.mem_map_of_mem hk))
    exact List.any_eq_true.2 ⟨l, hl, hp hid ▸ hpk⟩
  exact Bool.eq_iff_iff.2 ⟨hle fun id => (h id).1, hle fun id => (h id).2⟩

section Build

variable {rules : List Rule} (h : Rule.build rules = .ok c)
include h

/-- For a type of a lineage a clause is held exactly if a rule for a type that the value is an
instance of gives one that says the same. -/
theorem exists_mem_lineage_holds_iff {f : TypeTag → Clause} (htyped : ∀ k, (f k).IsTyped)
    (hf : ∀ {k l : TypeTag}, k.id = l.id → (f k).Same (f l)) :
    (∃ k ∈ t.lineage, c.Holds (f k)) ↔ ∃ single r k, Rule.OccursIn single rules ∧
      single.Gives r ∧ r.Same (f k) ∧ t.isInstance k = true := by
  rw [exists_lineage_iff f hf]
  simp only [Rule.holds_build h, Target.isInstance_iff_isA]
  constructor
  · rintro ⟨k, ⟨r, hr, hsame⟩, hk⟩
    obtain ⟨single, hsingle, hgives⟩ :=
      (Rule.mem_clausesAll_iff_gives (hsame.isTyped (htyped k))).1 hr
    exact ⟨single, r, k, hsingle, hgives, hsame, hk⟩
  · rintro ⟨single, r, k, hsingle, hgives, hsame, hk⟩
    exact ⟨k, ⟨r, hsingle.clauses_subset hgives.mem_clauses, hsame⟩, hk⟩

theorem trusts_iff_occursIn :
    c.trusts t = true ↔ ∃ k, Rule.OccursIn (.trust k) rules ∧ t.isInstance k = true := by
  refine List.any_eq_true.trans ((exists_mem_lineage_holds_iff h (f := .trust)
    (fun _ => trivial) id).trans ⟨?_, ?_⟩)
  · rintro ⟨single, r, k, hsingle, hgives, hsame, hk⟩
    cases hgives with
    | trust l => exact ⟨l, hsingle, (Target.isInstance_congr hsame).2 hk⟩
    | _ => exact hsame.elim
  · rintro ⟨k, hsingle, hk⟩
    exact ⟨_, _, k, hsingle, .trust k, .refl _, hk⟩

theorem blocksType_iff_occursIn :
    c.blocksType t = true ↔ ∃ k, Rule.OccursIn (.blockType k) rules ∧ t.isInstance k = true := by
  refine List.any_eq_true.trans ((exists_mem_lineage_holds_iff h (f := .blockType)
    (fun _ => trivial) id).trans ⟨?_, ?_⟩)
  · rintro ⟨single, r, k, hsingle, hgives, hsame, hk⟩
    cases hgives with
    | blockType l => exact ⟨l, hsingle, (Target.isInstance_congr hsame).2 hk⟩
    | _ => exact hsame.elim
  · rintro ⟨k, hsingle, hk⟩
    exact ⟨_, _, k, hsingle, .blockType k, .refl _, hk⟩

theorem blocksOn_iff_occursIn :
    c.blocksOn t n = true ↔ ∃ k names, Rule.OccursIn (.blockOn k names) rules ∧
      t.isInstance k = true ∧ ∃ s ∈ names, MemberName.fold s = n := by
  have hname : ∀ {s : String}, SameName s n.text ↔ MemberName.fold s = n := by
    intro s
    rw [← MemberName.fold_eq_fold_iff, n.fold_text]
  have hheld : c.blocksOn t n = true ↔ ∃ k ∈ t.lineage, c.Holds (.blockOn k n.text) := by
    simp only [Holds, n.fold_text]
    exact List.any_eq_true
  refine hheld.trans ((exists_mem_lineage_holds_iff h (f := (.blockOn · n.text))
    (fun _ => trivial) fun hk => ⟨hk, .refl _⟩).trans ⟨?_, ?_⟩)
  · rintro ⟨single, r, k, hsingle, hgives, hsame, hk⟩
    cases hgives with
    | blockOn l hs =>
      exact ⟨l, _, hsingle, (Target.isInstance_congr hsame.1).2 hk, _, hs, hname.1 hsame.2⟩
    | _ => exact hsame.elim
  · rintro ⟨k, names, hsingle, hk, s, hs, hfold⟩
    exact ⟨_, _, k, hsingle, .blockOn k hs, ⟨rfl, hname.2 hfold⟩, hk⟩

end Build
end Configuration

/-- **A question about the types of a value is answered by what it is an instance of.** A type is
trusted or blocked for a value if the value is an instance of one in the set, or, which is the same,
of one for which a rule is given, directly or in a merge. A name is blocked on it if a rule lists
the name for a type that it is an instance of, whatever the types before that one in its lineage
list. It is an instance of its concrete type and of those that it declares itself, and of no others;
so values whose lineages have the same types, in whatever order and however often, are answered
alike. -/
theorem trusts_and_blocks_by_instance {rules : List Rule} {c : Configuration}
    (h : Rule.build rules = .ok c) (t : Target) (n : MemberName) :
    (c.trusts t = true ↔ ∃ k ∈ c.trusted, t.isInstance k = true) ∧
    (c.trusts t = true ↔ ∃ k, Rule.OccursIn (.trust k) rules ∧ t.isInstance k = true) ∧
    (c.blocksType t = true ↔ ∃ k ∈ c.blockedTypes, t.isInstance k = true) ∧
    (c.blocksType t = true ↔
      ∃ k, Rule.OccursIn (.blockType k) rules ∧ t.isInstance k = true) ∧
    (c.blocksOn t n = true ↔ ∃ k names, Rule.OccursIn (.blockOn k names) rules ∧
      t.isInstance k = true ∧ ∃ s ∈ names, MemberName.fold s = n) ∧
    (∀ before after, t.lineage = before ++ after → (∀ k ∈ before, n ∉ c.namesFor k) →
      (c.blocksOn t n = true ↔ ∃ k ∈ after, n ∈ c.namesFor k)) ∧
    (∀ k : TypeTag, t.isInstance k = true ↔
      k.id = t.type.id ∨ k.id ∈ t.conformsTo.map TypeTag.id) ∧
    ∀ u : Target, (∀ id, id ∈ t.lineage.map TypeTag.id ↔ id ∈ u.lineage.map TypeTag.id) →
      c.trusts t = c.trusts u ∧ c.blocksType t = c.blocksType u ∧
        c.blocksOn t n = c.blocksOn u n := by
  have hinstance : ∀ k : TypeTag, t.isInstance k = true ↔
      k.id = t.type.id ∨ k.id ∈ t.conformsTo.map TypeTag.id := by
    intro k
    rw [Target.isInstance_iff_isA, Target.IsA, List.mem_map, eq_comm]
  refine ⟨Target.any_lineage_contains_iff, Configuration.trusts_iff_occursIn h,
    Target.any_lineage_contains_iff, Configuration.blocksType_iff_occursIn h,
    Configuration.blocksOn_iff_occursIn h, fun _ _ => Configuration.blocksOn_append_iff, hinstance,
    fun u hlineage => ⟨?_, ?_, ?_⟩⟩
  · exact Configuration.any_lineage_congr
      (fun hid => List.contains_congr (TypeTag.beq_iff.2 hid)) hlineage
  · exact Configuration.any_lineage_congr
      (fun hid => List.contains_congr (TypeTag.beq_iff.2 hid)) hlineage
  · exact Configuration.any_lineage_congr
      (fun hid => c.blockedFor.lists_congr hid n) hlineage

/-- A file that counts as a model and, after that, as a listing. A merged rule for listings holds
for it, though other names are listed for models and none for files. What models count as does
not. -/
theorem trusts_and_blocks_by_instance_chain :
    let rules : List Rule := [.trust ⟨9, "app::Record"⟩, .blockOn ⟨7, "app::Model"⟩ ["save"],
      .blockOn ⟨8, "app::File"⟩ [], .merge [.merge [.blockOn ⟨6, "dyn app::Listing"⟩ ["Drop"]]]]
    let file : Target :=
      { type := ⟨8, "app::File"⟩, conformsTo := [⟨7, "Model"⟩, ⟨7, "T"⟩, ⟨6, "dyn Listing"⟩] }
    let model : Target := { type := ⟨7, "app::Model"⟩, conformsTo := [⟨9, "app::Record"⟩] }
    let c : Configuration :=
      { trusted := [⟨9, "app::Record"⟩]
        blockedFor := ((NamesByType.empty.add ⟨7, "app::Model"⟩ [.fold "save"]).add
          ⟨8, "app::File"⟩ []).add ⟨6, "dyn app::Listing"⟩ [.fold "Drop"] }
    Rule.build rules = .ok c ∧ c.blocksOn file (.fold "DROP") = true ∧
      (∃ k ∈ [(⟨6, "dyn Listing"⟩ : TypeTag)], .fold "DROP" ∈ c.namesFor k) ∧
      c.trusts model = true ∧ c.trusts file = false := by
  intro rules file model c
  have hc : Rule.build rules = .ok c := rfl
  have hdrop : MemberName.fold "Drop" = .fold "DROP" := by decide +kernel
  obtain ⟨hmodel, -⟩ := trusts_and_blocks_by_instance hc model (.fold "DROP")
  obtain ⟨hfile, -, -, -, hblocks, hsearch, -⟩ :=
    trusts_and_blocks_by_instance hc file (.fold "DROP")
  have hlisting : Rule.OccursIn (.blockOn ⟨6, "dyn app::Listing"⟩ ["Drop"]) rules :=
    .later _ (.later _ (.later _ (.inside _ (.inside _ (.here _)))))
  have hblocked : c.blocksOn file (.fold "DROP") = true :=
    hblocks.2 ⟨_, _, hlisting, by decide, "Drop", List.mem_singleton.2 rfl, hdrop⟩
  have hother : ∀ k ∈ [(⟨8, "app::File"⟩ : TypeTag), ⟨7, "Model"⟩, ⟨7, "T"⟩],
      MemberName.fold "DROP" ∉ c.namesFor k := by decide +kernel
  refine ⟨hc, hblocked, (hsearch _ _ rfl hother).1 hblocked,
    hmodel.2 ⟨_, List.mem_singleton.2 rfl, by decide⟩, ?_⟩
  rw [Bool.eq_false_iff, Ne, hfile]
  decide

end TemplateSandbox
