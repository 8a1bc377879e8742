/-
# Rules taken apart

A rule may stand for many: it can list names, take in a preset, or merge what a
list of further rules builds, to any depth. `Rule.clauses` takes it apart into
clauses, each of which says one thing of one type or one name, spelled as given.

`Configuration.Holds` asks a configuration for one clause. Every call on a draft
adds the clauses it stands for and no others (`Draft.holds_trust` …
`Draft.holds_merge`), so the configuration that a list of rules builds holds
exactly what one of the clauses says (`Rule.holds_build`). Neither the order of
the rules, nor their repetition, nor the nesting of merges is left in it.

The names in clauses go to four sets (`Collection`), and building looks at them set
by set. A draft can be built exactly when every name in its clauses is fit
(`Draft.build_eq_ok_iff`), and so can a list of rules, with all merges inside it
(`Rule.exists_build_iff`).
-/

import TemplateSandbox.Rule
import TemplateSandbox.Proofs.Spelling

namespace TemplateSandbox

/-- What a rule says of one type or one name. -/
inductive Clause where
  /-- Every method of a type is admitted. -/
  | trust (type : TypeTag)
  /-- A method is admitted. -/
  | allow (name : String)
  /-- A method is vetoed. -/
  | block (name : String)
  /-- A method is vetoed on a type. -/
  | blockOn (type : TypeTag) (name : String)
  /-- Every method of a type is vetoed, in legacy mode. -/
  | blockType (type : TypeTag)
  /-- A property is vetoed, in legacy mode. -/
  | blockProperty (name : String)

namespace Clause

/-- Two clauses say the same: they agree on the type, and on the name but for its spelling. -/
def Same : Clause → Clause → Prop
  | .trust k, .trust l => k.id = l.id
  | .allow m, .allow n => SameName m n
  | .block m, .block n => SameName m n
  | .blockOn k m, .blockOn l n => k.id = l.id ∧ SameName m n
  | .blockType k, .blockType l => k.id = l.id
  | .blockProperty m, .blockProperty n => SameName m n
  | _, _ => False

/-- One of the clauses says the same as `e`. -/
def SaidBy (e : Clause) (cs : List Clause) : Prop := ∃ r ∈ cs, r.Same e

/-- The name in a clause, as it was spelled. -/
def name? : Clause → Option String
  | .trust _ | .blockType _ => none
  | .allow n | .block n | .blockOn _ n | .blockProperty n => some n

/-- Every name in the clauses is fit. -/
def AllFit (cs : List Clause) : Prop := ∀ r ∈ cs, ∀ s ∈ r.name?, Fit s

instance (cs : List Clause) : Decidable (AllFit cs) :=
  inferInstanceAs (Decidable (∀ r ∈ cs, ∀ s ∈ r.name?, Fit s))

theorem Same.refl : ∀ e : Clause, e.Same e
  | .trust _ | .blockType _ => rfl
  | .allow n | .block n | .blockProperty n => SameName.refl n
  | .blockOn _ n => ⟨rfl, SameName.refl n⟩

@[simp] theorem not_saidBy_nil (e : Clause) : ¬e.SaidBy [] := by
  rintro ⟨r, hr, _⟩
  exact List.not_mem_nil hr

@[simp] theorem saidBy_append {e : Clause} {as bs : List Clause} :
    e.SaidBy (as ++ bs) ↔ e.SaidBy as ∨ e.SaidBy bs := by
  simp only [SaidBy, List.mem_append, or_and_right, exists_or]

@[simp] theorem saidBy_singleton {e r : Clause} : e.SaidBy [r] ↔ r.Same e := by
  simp [SaidBy]

@[simp] theorem saidBy_map {α : Type} {e : Clause} {f : α → Clause} {xs : List α} :
    e.SaidBy (xs.map f) ↔ ∃ x ∈ xs, (f x).Same e := by
  simp [SaidBy]

theorem allFit_append {as bs : List Clause} : AllFit (as ++ bs) ↔ AllFit as ∧ AllFit bs :=
  List.forall_mem_append

theorem allFit_flatMap {α : Type} {f : α → List Clause} {xs : List α} :
    AllFit (xs.flatMap f) ↔ ∀ x ∈ xs, AllFit (f x) := by
  simp only [AllFit, List.forall_mem_flatMap]

/-- Clauses that have a name each, one for every name of a list. -/
theorem allFit_map {f : String → Clause} (hname : ∀ n, (f n).name? = some n)
    {names : List String} (h : ∀ n ∈ names, Fit n) : AllFit (names.map f) := by
  intro c hc s hs
  obtain ⟨n, hn, rfl⟩ := List.mem_map.1 hc
  rw [hname] at hs
  obtain rfl := Option.some.inj hs
  exact h n hn

theorem Same.symm : ∀ {r e : Clause}, r.Same e → e.Same r
  | .trust _, .trust _, h | .blockType _, .blockType _, h => Eq.symm h
  | .allow _, .allow _, h | .block _, .block _, h | .blockProperty _, .blockProperty _, h =>
    SameName.symm h
  | .blockOn _ _, .blockOn _ _, h => ⟨h.1.symm, h.2.symm⟩

theorem Same.trans : ∀ {a b c : Clause}, a.Same b → b.Same c → a.Same c
  | .trust _, .trust _, .trust _, hab, hbc
  | .blockType _, .blockType _, .blockType _, hab, hbc => Eq.trans hab hbc
  | .allow _, .allow _, .allow _, hab, hbc | .block _, .block _, .block _, hab, hbc
  | .blockProperty _, .blockProperty _, .blockProperty _, hab, hbc => SameName.trans hab hbc
  | .blockOn _ _, .blockOn _ _, .blockOn _ _, hab, hbc => ⟨hab.1.trans hbc.1, hab.2.trans hbc.2⟩

/-- The names in two clauses that say the same are both fit, or neither is. -/
theorem Same.fit : ∀ {r e : Clause}, r.Same e → ∀ {s : String}, s ∈ e.name? →
    (∀ n ∈ r.name?, Fit n) → Fit s
  | .allow _, .allow _, h, _, rfl, hfit | .block _, .block _, h, _, rfl, hfit
  | .blockProperty _, .blockProperty _, h, _, rfl, hfit => h.fit_iff.1 (hfit _ rfl)
  | .blockOn _ _, .blockOn _ _, h, _, rfl, hfit => h.2.fit_iff.1 (hfit _ rfl)

/-- The clauses of two lists are one set: what the one says, the other says too. Neither order nor
repetition counts, nor how a name is spelled or a type is called. -/
def SameSet (cs cs' : List Clause) : Prop := (∀ r ∈ cs, r.SaidBy cs') ∧ ∀ r ∈ cs', r.SaidBy cs

namespace SameSet

variable {cs cs' : List Clause}

/-- Lists with the same clauses in them are one set. -/
theorem of_mem_iff (h : ∀ e, e ∈ cs ↔ e ∈ cs') : SameSet cs cs' :=
  ⟨fun r hr => ⟨r, (h r).1 hr, .refl r⟩, fun r hr => ⟨r, (h r).2 hr, .refl r⟩⟩

/-- Lists of clauses that say the same, place by place, are one set. -/
theorem of_forall₂ (h : List.Forall₂ Same cs cs') : SameSet cs cs' := by
  induction h with
  | nil => exact of_mem_iff fun _ => Iff.rfl
  | cons hre _ ih =>
    refine ⟨List.forall_mem_cons.2 ⟨⟨_, List.mem_cons_self, hre.symm⟩, fun r hr => ?_⟩,
      List.forall_mem_cons.2 ⟨⟨_, List.mem_cons_self, hre⟩, fun r hr => ?_⟩⟩
    · obtain ⟨e, he, hsame⟩ := ih.1 r hr
      exact ⟨e, List.mem_cons_of_mem _ he, hsame⟩
    · obtain ⟨e, he, hsame⟩ := ih.2 r hr
      exact ⟨e, List.mem_cons_of_mem _ he, hsame⟩

/-- One set says one thing. -/
theorem saidBy_iff (h : SameSet cs cs') (e : Clause) : e.SaidBy cs ↔ e.SaidBy cs' := by
  have hle : ∀ {as bs : List Clause}, (∀ r ∈ as, r.SaidBy bs) → e.SaidBy as → e.SaidBy bs := by
    rintro as bs hsaid ⟨r, hr, hre⟩
    obtain ⟨b, hb, hbr⟩ := hsaid r hr
    exact ⟨b, hb, hbr.trans hre⟩
  exact ⟨hle h.1, hle h.2⟩

/-- Of two lists that are one set, all names are fit in both or in neither. -/
theorem allFit_iff (h : SameSet cs cs') : AllFit cs ↔ AllFit cs' := by
  have hle : ∀ {as bs : List Clause}, (∀ r ∈ bs, r.SaidBy as) → AllFit as → AllFit bs := by
    intro as bs hsaid hfit r hr s hs
    obtain ⟨a, ha, har⟩ := hsaid r hr
    exact har.fit hs (hfit a ha)
  exact ⟨hle h.2, hle h.1⟩

end SameSet
end Clause

/-- The clauses of a preset for a mode. -/
def Preset.clauses (p : Preset) (mode : Mode) : List Clause :=
  p.allowed.map .allow ++ p.blocked.map .block ++
    match mode with
    | .legacy => p.blockedProperties.map .blockProperty
    | .strict => []

/-- The names of a preset are fit. -/
theorem Preset.allFit_clauses (p : Preset) (mode : Mode) : Clause.AllFit (p.clauses mode) := by
  cases p
  cases mode <;> decide +kernel

namespace Rule

mutual

/-- The clauses of a rule; a merge has those of its own rules. -/
def clauses : Rule → List Clause
  | .trust type => [.trust type]
  | .allow names => names.map .allow
  | .block names => names.map .block
  | .blockOn type names => names.map (.blockOn type)
  | .blockType type => [.blockType type]
  | .blockProperties names => names.map .blockProperty
  | .preset p mode => p.clauses mode
  | .merge rules => clausesAll rules

/-- The clauses of some rules, in order. -/
def clausesAll : List Rule → List Clause
  | [] => []
  | rule :: rest => clauses rule ++ clausesAll rest

end

theorem clausesAll_eq_flatMap (rules : List Rule) : clausesAll rules = rules.flatMap clauses := by
  induction rules with
  | nil => rw [clausesAll, List.flatMap_nil]
  | cons rule rest ih => rw [clausesAll, ih, List.flatMap_cons]

end Rule

/-- The configuration has a rule that says what the clause says. -/
def Configuration.Holds (c : Configuration) : Clause → Prop
  | .trust k => c.trusted.contains k = true
  | .allow n => c.allowed.contains (.fold n) = true
  | .block n => c.blocked.contains (.fold n) = true
  | .blockOn k n => c.blockedFor.lists k (.fold n) = true
  | .blockType k => c.blockedTypes.contains k = true
  | .blockProperty n => c.blockedProperties.contains (.fold n) = true

/-- A configuration holds all clauses that say the same, or none of them. -/
theorem Configuration.Holds.congr {c : Configuration} :
    ∀ {r e : Clause}, r.Same e → c.Holds r → c.Holds e
  | .trust _, .trust _, h, hr | .blockType _, .blockType _, h, hr =>
    (List.contains_congr (TypeTag.beq_iff.2 h)).symm.trans hr
  | .allow _, .allow _, h, hr | .block _, .block _, h, hr
  | .blockProperty _, .blockProperty _, h, hr =>
    (List.contains_congr (beq_iff_eq.2 (MemberName.fold_eq_fold_iff.2 h))).symm.trans hr
  | .blockOn _ _, .blockOn _ _, h, hr => by
    rwa [Holds, ← c.blockedFor.lists_congr h.1, ← MemberName.fold_eq_fold_iff.2 h.2]

/-! ### What each call on a draft adds -/

theorem contains_map_fold_iff {names : List String} {n : String} :
    (names.map MemberName.fold).contains (.fold n) = true ↔ ∃ s ∈ names, SameName s n := by
  simp only [List.contains_iff_mem, List.mem_map, MemberName.fold_eq_fold_iff]

theorem not_holds_empty (e : Clause) : ¬Configuration.empty.Holds e := by
  cases e <;> exact Bool.false_ne_true

namespace Draft

variable {d : Draft} {e : Clause}

theorem holds_trust {k : TypeTag} :
    (d.trust k).soFar.Holds e ↔ e.SaidBy [.trust k] ∨ d.soFar.Holds e := by
  cases e with
  | trust l =>
    show (d.soFar.trusted.insert k).contains l = true ↔ _
    rw [contains_insert, Bool.or_eq_true, TypeTag.beq_iff, eq_comm, Clause.saidBy_singleton]
    rfl
  | _ => simp [Clause.Same, Configuration.Holds, trust]

theorem holds_allow {names : List String} :
    (d.allow names).soFar.Holds e ↔ e.SaidBy (names.map .allow) ∨ d.soFar.Holds e := by
  cases e with
  | allow n =>
    show (insertAll (names.map .fold) d.soFar.allowed).contains (.fold n) = true ↔ _
    rw [contains_insertAll, Bool.or_eq_true, contains_map_fold_iff, Clause.saidBy_map]
    rfl
  | _ => simp [Clause.Same, Configuration.Holds, allow]

theorem holds_block {names : List String} :
    (d.block names).soFar.Holds e ↔ e.SaidBy (names.map .block) ∨ d.soFar.Holds e := by
  cases e with
  | block n =>
    show (insertAll (names.map .fold) d.soFar.blocked).contains (.fold n) = true ↔ _
    rw [contains_insertAll, Bool.or_eq_true, contains_map_fold_iff, Clause.saidBy_map]
    rfl
  | _ => simp [Clause.Same, Configuration.Holds, block]

theorem holds_blockOn {k : TypeTag} {names : List String} :
    (d.blockOn k names).soFar.Holds e ↔ e.SaidBy (names.map (.blockOn k)) ∨ d.soFar.Holds e := by
  cases e with
  | blockOn l n =>
    show (d.soFar.blockedFor.add k (names.map .fold)).lists l (.fold n) = true ↔ _
    rw [NamesByType.lists_add, Bool.or_eq_true, Bool.and_eq_true, TypeTag.beq_iff,
      contains_map_fold_iff, Clause.saidBy_map]
    show _ ↔ (∃ s ∈ names, k.id = l.id ∧ SameName s n) ∨ _
    simp only [and_left_comm, exists_and_left]
    rfl
  | _ => simp [Clause.Same, Configuration.Holds, blockOn]

theorem holds_blockType {k : TypeTag} :
    (d.blockType k).soFar.Holds e ↔ e.SaidBy [.blockType k] ∨ d.soFar.Holds e := by
  cases e with
  | blockType l =>
    show (d.soFar.blockedTypes.insert k).contains l = true ↔ _
    rw [contains_insert, Bool.or_eq_true, TypeTag.beq_iff, eq_comm, Clause.saidBy_singleton]
    rfl
  | _ => simp [Clause.Same, Configuration.Holds, blockType]

theorem holds_blockProperties {names : List String} :
    (d.blockProperties names).soFar.Holds e ↔
      e.SaidBy (names.map .blockProperty) ∨ d.soFar.Holds e := by
  cases e with
  | blockProperty n =>
    show (insertAll (names.map .fold) d.soFar.blockedProperties).contains (.fold n) = true ↔ _
    rw [contains_insertAll, Bool.or_eq_true, contains_map_fold_iff, Clause.saidBy_map]
    rfl
  | _ => simp [Clause.Same, Configuration.Holds, blockProperties]

theorem holds_addPreset {p : Preset} {mode : Mode} :
    (d.addPreset p mode).soFar.Holds e ↔ e.SaidBy (p.clauses mode) ∨ d.soFar.Holds e := by
  cases mode with
  | strict =>
    show ((d.allow p.allowed).block p.blocked).soFar.Holds e ↔ _
    rw [holds_block, holds_allow, Preset.clauses, Clause.saidBy_append, Clause.saidBy_append]
    simp only [Clause.not_saidBy_nil, or_false, or_assoc, or_left_comm]
  | legacy =>
    show (((d.allow p.allowed).block p.blocked).blockProperties p.blockedProperties).soFar.Holds e
      ↔ _
    rw [holds_blockProperties, holds_block, holds_allow, Preset.clauses, Clause.saidBy_append,
      Clause.saidBy_append]
    simp only [or_assoc, or_left_comm]

/-- Merging unites set by set, and type by type: the draft then holds what either held. -/
theorem holds_merge {c : Configuration} :
    (d.merge c).soFar.Holds e ↔ c.Holds e ∨ d.soFar.Holds e := by
  cases e <;>
    simp only [Configuration.Holds, merge, contains_insertAll, NamesByType.lists_union,
      Bool.or_eq_true]

end Draft

/-! ### What a list of rules builds -/

/-- What follows a step that went well. -/
theorem ok_of_bind {α β : Type} {x : Except Fault α} {f : α → Except Fault β} {b : β}
    (h : x >>= f = .ok b) : ∃ a, x = .ok a ∧ f a = .ok b := by
  cases x with
  | error fault => cases h
  | ok a => exact ⟨a, rfl, h⟩

namespace Rule

/-- Rules are applied in order. -/
theorem applyAll_cons (rule : Rule) (rest : List Rule) (d : Draft) :
    applyAll (rule :: rest) d = rule.apply d >>= applyAll rest := by
  rw [applyAll]
  cases rule.apply d <;> rfl

/-- Building is applying the rules to an empty draft and building that. -/
theorem build_eq (rules : List Rule) : build rules = applyAll rules {} >>= Draft.build := by
  rw [build]
  cases applyAll rules {} <;> rfl

/-- A merge builds its own rules and takes in the outcome. -/
theorem apply_merge (rules : List Rule) (d : Draft) :
    (merge rules).apply d = build rules >>= fun c => .ok (d.merge c) := by
  rw [apply, build_eq]
  cases applyAll rules {} with
  | error fault => rfl
  | ok inner =>
    simp only [Except.bind, bind]
    cases inner.build <;> rfl

/-- A build is a draft of the rules that could be built. -/
theorem applyAll_of_build {rules : List Rule} {c : Configuration} (h : build rules = .ok c) :
    ∃ d : Draft, applyAll rules {} = .ok d ∧ d.build = .ok d.soFar ∧ c = d.soFar := by
  rw [build_eq] at h
  obtain ⟨d, hd, hbuild⟩ := ok_of_bind h
  obtain rfl := Draft.eq_soFar_of_build hbuild
  exact ⟨d, hd, hbuild, rfl⟩

/-- A merge that succeeds takes in what its own rules build. -/
theorem build_of_apply_merge {rules : List Rule} {d d' : Draft}
    (h : (merge rules).apply d = .ok d') : ∃ c, build rules = .ok c ∧ d' = d.merge c := by
  rw [apply_merge] at h
  obtain ⟨c, hc, hmerge⟩ := ok_of_bind h
  exact ⟨c, hc, (Except.ok.inj hmerge).symm⟩

mutual

/-- A rule adds its clauses to a draft and no others. -/
theorem holds_apply : ∀ (rule : Rule) {d d' : Draft} (e : Clause), rule.apply d = .ok d' →
    (d'.soFar.Holds e ↔ e.SaidBy rule.clauses ∨ d.soFar.Holds e)
  | .trust type, d, d', e, h => by
    obtain rfl := Except.ok.inj h
    exact Draft.holds_trust
  | .allow names, d, d', e, h => by
    obtain rfl := Except.ok.inj h
    exact Draft.holds_allow
  | .block names, d, d', e, h => by
    obtain rfl := Except.ok.inj h
    exact Draft.holds_block
  | .blockOn type names, d, d', e, h => by
    obtain rfl := Except.ok.inj h
    exact Draft.holds_blockOn
  | .blockType type, d, d', e, h => by
    obtain rfl := Except.ok.inj h
    exact Draft.holds_blockType
  | .blockProperties names, d, d', e, h => by
    obtain rfl := Except.ok.inj h
    exact Draft.holds_blockProperties
  | .preset p mode, d, d', e, h => by
    obtain rfl := Except.ok.inj h
    exact Draft.holds_addPreset
  | .merge rules, d, d', e, h => by
    obtain ⟨c, hc, rfl⟩ := build_of_apply_merge h
    obtain ⟨inner, hinner, _, rfl⟩ := applyAll_of_build hc
    rw [Draft.holds_merge, holds_applyAll rules e hinner, clauses]
    simp only [not_holds_empty, or_false]

/-- Rules in order add their clauses to a draft and no others. -/
theorem holds_applyAll : ∀ (rules : List Rule) {d d' : Draft} (e : Clause),
    applyAll rules d = .ok d' →
      (d'.soFar.Holds e ↔ e.SaidBy (clausesAll rules) ∨ d.soFar.Holds e)
  | [], d, d', e, h => by
    obtain rfl := Except.ok.inj h
    rw [clausesAll]
    simp only [Clause.not_saidBy_nil, false_or]
  | rule :: rest, d, d', e, h => by
    rw [applyAll_cons] at h
    obtain ⟨next, hnext, hrest⟩ := ok_of_bind h
    rw [holds_applyAll rest e hrest, holds_apply rule e hnext, clausesAll, Clause.saidBy_append,
      or_left_comm, or_assoc]

end

/-- A draft that starts with some rules holds their clauses and no others. -/
theorem holds_of_applyAll {rules : List Rule} {d : Draft} (h : applyAll rules {} = .ok d)
    (e : Clause) : d.soFar.Holds e ↔ e.SaidBy (clausesAll rules) := by
  rw [holds_applyAll rules e h]
  simp only [not_holds_empty, or_false]

/-- **What rules build holds their clauses and no others.** -/
theorem holds_build {rules : List Rule} {c : Configuration} (h : build rules = .ok c)
    (e : Clause) : c.Holds e ↔ e.SaidBy (clausesAll rules) := by
  obtain ⟨d, hd, _, rfl⟩ := applyAll_of_build h
  exact holds_of_applyAll hd e

end Rule

/-! ### When a draft can be built -/

/-- The sets of a configuration that are made of names. -/
inductive Collection where
  /-- Names admitted on every value. -/
  | allowed
  /-- Names vetoed on every value. -/
  | blocked
  /-- Properties vetoed on every value. -/
  | properties
  /-- Names vetoed on the instances of a type. -/
  | byType
  deriving DecidableEq

/-- The set that a clause goes to and the name it brings, as it was spelled. -/
def Clause.collected : Clause → Option (Collection × String)
  | .trust _ | .blockType _ => none
  | .allow n => some (.allowed, n)
  | .block n => some (.blocked, n)
  | .blockOn _ n => some (.byType, n)
  | .blockProperty n => some (.properties, n)

theorem Clause.map_snd_collected : ∀ e : Clause, e.collected.map Prod.snd = e.name?
  | .trust _ | .allow _ | .block _ | .blockOn _ _ | .blockType _ | .blockProperty _ => rfl

namespace Collection

/-- The names in a set of a configuration. -/
def names (c : Configuration) : Collection → List MemberName
  | .allowed => c.allowed
  | .blocked => c.blocked
  | .properties => c.blockedProperties
  | .byType => c.blockedFor.all

/-- The names in a set are those that clauses brought to it, folded. -/
theorem mem_names_iff {c : Configuration} {n : MemberName} {col : Collection} :
    n ∈ col.names c ↔
      ∃ e : Clause, c.Holds e ∧ ∃ s, e.collected = some (col, s) ∧ MemberName.fold s = n := by
  have htext : ∀ names : List MemberName, n ∈ names → names.contains (.fold n.text) = true := by
    intro names hn
    rw [MemberName.fold_text]
    exact List.contains_iff_mem.2 hn
  constructor
  · intro h
    cases col with
    | allowed => exact ⟨.allow n.text, htext _ h, _, rfl, n.fold_text⟩
    | blocked => exact ⟨.block n.text, htext _ h, _, rfl, n.fold_text⟩
    | properties => exact ⟨.blockProperty n.text, htext _ h, _, rfl, n.fold_text⟩
    | byType =>
      obtain ⟨k, hk⟩ := NamesByType.mem_all_iff.1 h
      exact ⟨.blockOn k n.text, by rwa [Configuration.Holds, n.fold_text], _, rfl, n.fold_text⟩
  · rintro ⟨e, he, s, hs, rfl⟩
    cases e <;> cases hs
    · exact List.contains_iff_mem.1 he
    · exact List.contains_iff_mem.1 he
    · exact NamesByType.mem_all_iff.2 ⟨_, he⟩
    · exact List.contains_iff_mem.1 he

/-- The sets in the order in which building looks at them. -/
def order : List Collection := [.allowed, .blocked, .properties, .byType]

theorem mem_order : ∀ col : Collection, col ∈ order := by
  rintro (_ | _ | _ | _) <;> decide

end Collection

/-- The names of a configuration come set by set. -/
theorem Configuration.memberNames_eq_flatMap (c : Configuration) :
    c.memberNames = Collection.order.flatMap fun col => col.names c := by
  simp [memberNames, Collection.order, Collection.names]

/-- The names of a configuration are those in the clauses it holds, folded. -/
theorem Configuration.mem_memberNames_iff {c : Configuration} {n : MemberName} :
    n ∈ c.memberNames ↔ ∃ e : Clause, c.Holds e ∧ ∃ s ∈ e.name?, MemberName.fold s = n := by
  rw [memberNames_eq_flatMap, List.mem_flatMap]
  constructor
  · rintro ⟨col, _, hn⟩
    obtain ⟨e, he, s, hs, hfold⟩ := Collection.mem_names_iff.1 hn
    exact ⟨e, he, s, by rw [← e.map_snd_collected, hs]; rfl, hfold⟩
  · rintro ⟨e, he, s, hs, hfold⟩
    rw [← e.map_snd_collected] at hs
    obtain ⟨⟨col, s'⟩, hcol, rfl⟩ := Option.map_eq_some_iff.1 hs
    exact ⟨col, col.mem_order, Collection.mem_names_iff.2 ⟨e, he, _, hcol, hfold⟩⟩

/-- A draft is built exactly if the names in it are fit. -/
theorem Draft.build_eq_ok_iff_forall_fit {d : Draft} :
    d.build = .ok d.soFar ↔ ∀ n ∈ d.soFar.memberNames, Fit n.text := by
  simp only [← NameFault.find?_eq_none_iff_fit]
  rw [← List.findSome?_eq_none_iff]
  unfold build
  split <;> simp_all

/-- A draft is built exactly if the names in its clauses are fit, as they were spelled. -/
theorem Draft.build_eq_ok_iff {d : Draft} {cs : List Clause}
    (h : ∀ e : Clause, d.soFar.Holds e ↔ e.SaidBy cs) :
    d.build = .ok d.soFar ↔ Clause.AllFit cs := by
  rw [build_eq_ok_iff_forall_fit]
  constructor
  · intro hfit r hr s hs
    have hheld : d.soFar.Holds r := (h r).2 ⟨r, hr, .refl r⟩
    have hmem : MemberName.fold s ∈ d.soFar.memberNames :=
      Configuration.mem_memberNames_iff.2 ⟨r, hheld, s, hs, rfl⟩
    exact fit_foldText_iff.1 (hfit _ hmem)
  · intro hfit n hn
    obtain ⟨e, he, s, hs, rfl⟩ := Configuration.mem_memberNames_iff.1 hn
    obtain ⟨r, hr, hsame⟩ := (h e).1 he
    exact fit_foldText_iff.2 (hsame.fit hs (hfit r hr))

namespace Rule

mutual

/-- A rule whose names are all fit applies to any draft: no merge in it fails. -/
theorem exists_apply : ∀ (rule : Rule) (d : Draft), Clause.AllFit rule.clauses →
    ∃ d', rule.apply d = .ok d'
  | .trust _, _, _ | .allow _, _, _ | .block _, _, _ | .blockOn _ _, _, _ => ⟨_, rfl⟩
  | .blockType _, _, _ | .blockProperties _, _, _ | .preset _ _, _, _ => ⟨_, rfl⟩
  | .merge rules, d, h => by
    obtain ⟨inner, hinner⟩ := exists_applyAll rules {} h
    have hbuild : inner.build = .ok inner.soFar :=
      (Draft.build_eq_ok_iff (holds_of_applyAll hinner)).2 h
    refine ⟨d.merge inner.soFar, ?_⟩
    rw [apply_merge, build_eq, hinner]
    exact congrArg (· >>= fun c => .ok (d.merge c)) hbuild

/-- Rules whose names are all fit apply to any draft. -/
theorem exists_applyAll : ∀ (rules : List Rule) (d : Draft), Clause.AllFit (clausesAll rules) →
    ∃ d', applyAll rules d = .ok d'
  | [], d, _ => ⟨d, rfl⟩
  | rule :: rest, d, h => by
    rw [clausesAll, Clause.allFit_append] at h
    obtain ⟨d', hd'⟩ := exists_apply rule d h.1
    obtain ⟨d'', hd''⟩ := exists_applyAll rest d' h.2
    refine ⟨d'', ?_⟩
    rw [applyAll_cons, hd']
    exact hd''

end

/-- **Rules build exactly if all their names are fit**, at whatever depth of merging they
stand and however they are spelled. -/
theorem exists_build_iff {rules : List Rule} :
    (∃ c, build rules = .ok c) ↔ Clause.AllFit (clausesAll rules) := by
  constructor
  · rintro ⟨c, hc⟩
    obtain ⟨d, hd, hbuild, _⟩ := applyAll_of_build hc
    exact (Draft.build_eq_ok_iff (holds_of_applyAll hd)).1 hbuild
  · intro hfit
    obtain ⟨d, hd⟩ := exists_applyAll rules {} hfit
    refine ⟨d.soFar, ?_⟩
    rw [build_eq, hd]
    exact (Draft.build_eq_ok_iff (holds_of_applyAll hd)).2 hfit

end Rule
end TemplateSandbox
