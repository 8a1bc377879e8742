/-
# Decisions read off the rules

What rules say of one member of one value comes down to five yes-or-no findings
(`Findings`). `Findings.ofClauses` takes them straight from the clauses of some
rules: a clause counts if it covers the access, that is, if the value is an
instance of its type and the member is a spelling of its name.

| finding | found in | used by |
| --- | --- | --- |
| `admitted` | `trust`, `allow`, the declaration of the type | strict |
| `blockedForType` | `blockOn` | strict, legacy |
| `blockedType` | `blockType` | legacy |
| `blockedName` | `block` | strict, legacy |
| `blockedProperty` | `blockProperty` | legacy |

The engines ask a configuration instead. A configuration that holds certain
clauses leads to the same findings as these (`Findings.ofConfiguration_eq`), so
both engines decide as the rules say when they are read one by one
(`decide_strict_of_build`, `decide_legacy_of_build`).
-/

import TemplateSandbox.Policy
import TemplateSandbox.Proofs.Clause
import Mathlib.Tactic.SplitIfs

namespace TemplateSandbox

/-! ### What is asked of a value -/

/-- A declaration opens the member, in some spelling. -/
def Capability.Declares : Capability → String → Prop
  | .none, _ => False
  | .members names, m => ∃ n ∈ names, SameName n m
  | .any, _ => True

instance : (k : Capability) → (m : String) → Decidable (k.Declares m)
  | .none, _ => .isFalse id
  | .members names, m => inferInstanceAs (Decidable (∃ n ∈ names, SameName n m))
  | .any, _ => .isTrue trivial

theorem Capability.opens_fold_iff {k : Capability} {m : String} :
    k.opens (.fold m) = true ↔ k.Declares m := by
  cases k with
  | none => simp [opens, Declares]
  | members names => simp only [opens, Declares, List.any_eq_true, MemberName.spells_fold_iff]
  | any => simp [opens, Declares]

namespace Target

/-- The value is an instance of `k`: by its concrete type, or by one that it declares. -/
def IsA (t : Target) (k : TypeTag) : Prop := t.type.id = k.id ∨ ∃ l ∈ t.conformsTo, l.id = k.id

/-- The concrete type of the value is one of the template engine's own. -/
def IsEngineOwned (t : Target) : Prop :=
  t.type.id = TypeTag.markup.id ∨ t.type.id = TypeTag.compiledTemplate.id

instance (t : Target) (k : TypeTag) : Decidable (t.IsA k) := inferInstanceAs (Decidable (_ ∨ _))

instance (t : Target) : Decidable t.IsEngineOwned := inferInstanceAs (Decidable (_ ∨ _))

theorem isA_iff {t : Target} {k : TypeTag} : t.IsA k ↔ ∃ l ∈ t.lineage, l.id = k.id := by
  simp [IsA, lineage]

theorem isA_congr {t : Target} {k l : TypeTag} (h : k.id = l.id) : t.IsA k ↔ t.IsA l := by
  rw [IsA, IsA, h]

theorem engineOwned_iff {t : Target} : t.engineOwned = true ↔ t.IsEngineOwned := by
  rw [engineOwned, Bool.or_eq_true, TypeTag.beq_iff, TypeTag.beq_iff, IsEngineOwned]

end Target

/-! ### What a clause says of an access -/

namespace Clause

/-- The clause is about this value and this member. -/
def Covers (t : Target) (m : String) : Clause → Prop
  | .trust k | .blockType k => t.IsA k
  | .allow n | .block n | .blockProperty n => SameName n m
  | .blockOn k n => t.IsA k ∧ SameName n m

/-- The reason for which a clause denies what it covers; none if it admits it. -/
def reason? : Clause → Option Reason
  | .trust _ | .allow _ => none
  | .blockOn .. => some .blockedForType
  | .blockType _ => some .blockedType
  | .block _ => some .blockedName
  | .blockProperty _ => some .blockedProperty

/-- One of the clauses covers an access and denies it for this reason, or admits it. -/
def Speak (cs : List Clause) (reason? : Option Reason) (t : Target) (m : String) : Prop :=
  ∃ r ∈ cs, r.reason? = reason? ∧ r.Covers t m

instance (t : Target) (m : String) : (r : Clause) → Decidable (r.Covers t m)
  | .trust k | .blockType k => inferInstanceAs (Decidable (t.IsA k))
  | .allow n | .block n | .blockProperty n => inferInstanceAs (Decidable (SameName n m))
  | .blockOn k n => inferInstanceAs (Decidable (t.IsA k ∧ SameName n m))

instance (cs : List Clause) (reason? : Option Reason) (t : Target) (m : String) :
    Decidable (Speak cs reason? t m) :=
  inferInstanceAs (Decidable (∃ r ∈ cs, r.reason? = reason? ∧ r.Covers t m))

theorem Same.reason?_eq : ∀ {r e : Clause}, r.Same e → r.reason? = e.reason?
  | .trust _, .trust _, _ | .allow _, .allow _, _ | .block _, .block _, _ => rfl
  | .blockOn _ _, .blockOn _ _, _ | .blockType _, .blockType _, _ => rfl
  | .blockProperty _, .blockProperty _, _ => rfl

theorem Same.covers {t : Target} {m : String} :
    ∀ {r e : Clause}, r.Same e → e.Covers t m → r.Covers t m
  | .trust _, .trust _, h, he | .blockType _, .blockType _, h, he => (Target.isA_congr h).2 he
  | .allow _, .allow _, h, he | .block _, .block _, h, he
  | .blockProperty _, .blockProperty _, h, he => SameName.trans h he
  | .blockOn _ _, .blockOn _ _, h, he => ⟨(Target.isA_congr h.1).2 he.1, h.2.trans he.2⟩

@[simp] theorem not_speak_nil (reason? : Option Reason) (t : Target) (m : String) :
    ¬Speak [] reason? t m := by
  rintro ⟨r, hr, _⟩
  exact List.not_mem_nil hr

@[simp] theorem speak_singleton {r : Clause} {reason? : Option Reason} {t : Target} {m : String} :
    Speak [r] reason? t m ↔ r.reason? = reason? ∧ r.Covers t m := by
  simp [Speak]

@[simp] theorem speak_append {as bs : List Clause} {reason? : Option Reason} {t : Target}
    {m : String} :
    Speak (as ++ bs) reason? t m ↔ Speak as reason? t m ∨ Speak bs reason? t m := by
  simp only [Speak, List.mem_append, or_and_right, exists_or]

/-- A list of clauses of one kind speaks for one reason. -/
theorem speak_map_iff {α : Type} (f : α → Clause) (own? : Option Reason)
    (hown : ∀ x, (f x).reason? = own?) {xs : List α} {reason? : Option Reason} {t : Target}
    {m : String} : Speak (xs.map f) reason? t m ↔ own? = reason? ∧ ∃ x ∈ xs, (f x).Covers t m := by
  simp only [Speak, List.mem_map, exists_exists_and_eq_and, hown]
  constructor
  · rintro ⟨x, hx, h, hcovers⟩
    exact ⟨h, x, hx, hcovers⟩
  · rintro ⟨h, x, hx, hcovers⟩
    exact ⟨x, hx, h, hcovers⟩

section Lists

variable {names : List String} {reason? : Option Reason} {t : Target} {m : String}

theorem speak_map_allow_iff :
    Speak (names.map .allow) reason? t m ↔ none = reason? ∧ ∃ n ∈ names, SameName n m :=
  speak_map_iff .allow none fun _ => rfl

theorem speak_map_block_iff :
    Speak (names.map .block) reason? t m ↔
      some .blockedName = reason? ∧ ∃ n ∈ names, SameName n m :=
  speak_map_iff .block (some .blockedName) fun _ => rfl

theorem speak_map_blockProperty_iff :
    Speak (names.map .blockProperty) reason? t m ↔
      some .blockedProperty = reason? ∧ ∃ n ∈ names, SameName n m :=
  speak_map_iff .blockProperty (some .blockedProperty) fun _ => rfl

theorem speak_map_blockOn_iff {k : TypeTag} :
    Speak (names.map (.blockOn k)) reason? t m ↔
      some .blockedForType = reason? ∧ t.IsA k ∧ ∃ n ∈ names, SameName n m := by
  rw [speak_map_iff (.blockOn k) (some .blockedForType) fun _ => rfl]
  refine and_congr_right fun _ => ?_
  constructor
  · rintro ⟨n, hn, hk, hname⟩
    exact ⟨hk, n, hn, hname⟩
  · rintro ⟨hk, n, hn, hname⟩
    exact ⟨n, hn, hk, hname⟩

end Lists

@[simp] theorem speak_flatMap {α : Type} {f : α → List Clause} {xs : List α}
    {reason? : Option Reason} {t : Target} {m : String} :
    Speak (xs.flatMap f) reason? t m ↔ ∃ x ∈ xs, Speak (f x) reason? t m := by
  simp only [Speak, List.mem_flatMap]
  constructor
  · rintro ⟨r, ⟨x, hx, hr⟩, h⟩
    exact ⟨x, hx, r, hr, h⟩
  · rintro ⟨x, hx, r, hr, h⟩
    exact ⟨r, ⟨x, hx, hr⟩, h⟩

/-- Of some clauses, those that only the legacy engine reads are left out. -/
def general (cs : List Clause) : List Clause :=
  cs.filter fun r => r.reason? ≠ some .blockedType ∧ r.reason? ≠ some .blockedProperty

/-- Of some clauses, those that admit are left out. -/
def vetoes (cs : List Clause) : List Clause := cs.filter fun r => r.reason?.isSome

theorem speak_general_iff {cs : List Clause} {reason? : Option Reason} {t : Target} {m : String}
    (htype : reason? ≠ some .blockedType) (hproperty : reason? ≠ some .blockedProperty) :
    Speak (general cs) reason? t m ↔ Speak cs reason? t m := by
  simp only [Speak, general, List.mem_filter, decide_eq_true_eq]
  constructor
  · rintro ⟨r, ⟨hr, _⟩, h⟩
    exact ⟨r, hr, h⟩
  · rintro ⟨r, hr, rfl, h⟩
    exact ⟨r, ⟨hr, htype, hproperty⟩, rfl, h⟩

theorem speak_vetoes_iff {cs : List Clause} {reason : Reason} {t : Target} {m : String} :
    Speak (vetoes cs) (some reason) t m ↔ Speak cs (some reason) t m := by
  simp only [Speak, vetoes, List.mem_filter]
  constructor
  · rintro ⟨r, ⟨hr, _⟩, h⟩
    exact ⟨r, hr, h⟩
  · rintro ⟨r, hr, hreason, h⟩
    exact ⟨r, ⟨hr, hreason ▸ rfl⟩, hreason, h⟩

end Clause

/-! ### Findings and verdicts -/

/-- What there is to say of a member of a value. -/
@[ext] structure Findings where
  /-- Something admits the method. -/
  admitted : Bool
  /-- The method is vetoed on a type of the value. -/
  blockedForType : Bool
  /-- Every method is vetoed on a type of the value. -/
  blockedType : Bool
  /-- The method is vetoed on every value. -/
  blockedName : Bool
  /-- The property is vetoed on every value. -/
  blockedProperty : Bool

namespace Findings

/-- The findings of some clauses, and of what the type of the value declares. -/
def ofClauses (cs : List Clause) (t : Target) (m : String) : Findings where
  admitted := t.capability.Declares m ∨ Clause.Speak cs none t m
  blockedForType := Clause.Speak cs (some .blockedForType) t m
  blockedType := Clause.Speak cs (some .blockedType) t m
  blockedName := Clause.Speak cs (some .blockedName) t m
  blockedProperty := Clause.Speak cs (some .blockedProperty) t m

/-- What the strict engine makes of the findings: it denies what nothing admits, then what is
vetoed. It restricts no property, and no method of the template engine's own values. -/
def strictVerdict (f : Findings) (a : Access) : Decision :=
  let deny reason := .denied ⟨a.target.type.name, a.member, a.kind, reason⟩
  match a.kind with
  | .property => .allowed
  | .method =>
    if a.target.IsEngineOwned then .allowed
    else if !f.admitted then deny .notAllowListed
    else if f.blockedForType then deny .blockedForType
    else if f.blockedName then deny .blockedName
    else .allowed

/-- What the legacy engine makes of the findings: it denies what is vetoed. The methods of the
template engine's own values are free; their properties are not. -/
def legacyVerdict (f : Findings) (a : Access) : Decision :=
  let deny reason := .denied ⟨a.target.type.name, a.member, a.kind, reason⟩
  match a.kind with
  | .property => if f.blockedProperty then deny .blockedProperty else .allowed
  | .method =>
    if a.target.IsEngineOwned then .allowed
    else if f.blockedForType then deny .blockedForType
    else if f.blockedType then deny .blockedType
    else if f.blockedName then deny .blockedName
    else .allowed

/-- The findings that an engine arrives at by asking its configuration. -/
def ofConfiguration (c : Configuration) (t : Target) (m : String) : Findings where
  admitted := c.admits t (.fold m)
  blockedForType := c.blocksOn t (.fold m)
  blockedType := c.blocksType t
  blockedName := c.blocks (.fold m)
  blockedProperty := c.blocksProperty (.fold m)

end Findings

/-! ### The findings of a configuration -/

namespace Configuration

variable {c : Configuration} {t : Target} {m : String}

/-- A clause that the configuration holds covers the access and denies it for this reason, or
admits it. -/
def Speaks (c : Configuration) (reason? : Option Reason) (t : Target) (m : String) : Prop :=
  ∃ e : Clause, c.Holds e ∧ e.reason? = reason? ∧ e.Covers t m

/-- Of clauses about one type each, one is held for a type in the lineage of a value exactly if
one is held for a type that the value is an instance of. -/
theorem exists_lineage_iff (f : TypeTag → Clause)
    (hf : ∀ {k l : TypeTag}, k.id = l.id → (f k).Same (f l)) :
    (∃ k ∈ t.lineage, c.Holds (f k)) ↔ ∃ k, c.Holds (f k) ∧ t.IsA k := by
  constructor
  · rintro ⟨k, hk, hheld⟩
    exact ⟨k, hheld, Target.isA_iff.2 ⟨k, hk, rfl⟩⟩
  · rintro ⟨k, hheld, hk⟩
    obtain ⟨l, hl, hlk⟩ := Target.isA_iff.1 hk
    exact ⟨l, hl, Holds.congr (hf hlk.symm) hheld⟩

theorem trusts_or_allows_iff :
    c.trusts t = true ∨ c.allows (.fold m) = true ↔ c.Speaks none t m := by
  have htrusts : c.trusts t = true ↔ ∃ k, c.Holds (.trust k) ∧ t.IsA k :=
    List.any_eq_true.trans (exists_lineage_iff .trust id)
  rw [htrusts]
  constructor
  · rintro (⟨k, hheld, hk⟩ | hheld)
    · exact ⟨.trust k, hheld, rfl, hk⟩
    · exact ⟨.allow m, hheld, rfl, .refl m⟩
  · rintro ⟨e, hheld, hreason, hcovers⟩
    cases e with
    | trust k => exact .inl ⟨k, hheld, hcovers⟩
    | allow n => exact .inr (Holds.congr (r := .allow n) (e := .allow m) hcovers hheld)
    | _ => cases hreason

theorem blocksOn_iff :
    c.blocksOn t (.fold m) = true ↔ c.Speaks (some .blockedForType) t m := by
  have hblocks : c.blocksOn t (.fold m) = true ↔ ∃ k, c.Holds (.blockOn k m) ∧ t.IsA k :=
    List.any_eq_true.trans (exists_lineage_iff (.blockOn · m) fun hk => ⟨hk, .refl m⟩)
  rw [hblocks]
  constructor
  · rintro ⟨k, hheld, hk⟩
    exact ⟨.blockOn k m, hheld, rfl, hk, .refl m⟩
  · rintro ⟨e, hheld, hreason, hcovers⟩
    cases e with
    | blockOn k n =>
      have hsame : (Clause.blockOn k n).Same (.blockOn k m) := ⟨rfl, hcovers.2⟩
      exact ⟨k, Holds.congr hsame hheld, hcovers.1⟩
    | _ => cases hreason

theorem blocksType_iff : c.blocksType t = true ↔ c.Speaks (some .blockedType) t m := by
  have hblocks : c.blocksType t = true ↔ ∃ k, c.Holds (.blockType k) ∧ t.IsA k :=
    List.any_eq_true.trans (exists_lineage_iff .blockType id)
  rw [hblocks]
  constructor
  · rintro ⟨k, hheld, hk⟩
    exact ⟨.blockType k, hheld, rfl, hk⟩
  · rintro ⟨e, hheld, hreason, hcovers⟩
    cases e with
    | blockType k => exact ⟨k, hheld, hcovers⟩
    | _ => cases hreason

theorem blocks_iff : c.blocks (.fold m) = true ↔ c.Speaks (some .blockedName) t m := by
  constructor
  · intro hheld
    exact ⟨.block m, hheld, rfl, .refl m⟩
  · rintro ⟨e, hheld, hreason, hcovers⟩
    cases e with
    | block n => exact Holds.congr (r := .block n) (e := .block m) hcovers hheld
    | _ => cases hreason

theorem blocksProperty_iff :
    c.blocksProperty (.fold m) = true ↔ c.Speaks (some .blockedProperty) t m := by
  constructor
  · intro hheld
    exact ⟨.blockProperty m, hheld, rfl, .refl m⟩
  · rintro ⟨e, hheld, hreason, hcovers⟩
    cases e with
    | blockProperty n =>
      exact Holds.congr (r := .blockProperty n) (e := .blockProperty m) hcovers hheld
    | _ => cases hreason

/-- A configuration that holds what some clauses say speaks as they do. -/
theorem speaks_iff {cs : List Clause} (h : ∀ e : Clause, c.Holds e ↔ e.SaidBy cs)
    {reason? : Option Reason} : c.Speaks reason? t m ↔ Clause.Speak cs reason? t m := by
  constructor
  · rintro ⟨e, hheld, hreason, hcovers⟩
    obtain ⟨r, hr, hsame⟩ := (h e).1 hheld
    exact ⟨r, hr, hsame.reason?_eq.trans hreason, hsame.covers hcovers⟩
  · rintro ⟨r, hr, hreason, hcovers⟩
    exact ⟨r, (h r).2 ⟨r, hr, .refl r⟩, hreason, hcovers⟩

end Configuration

/-- **A configuration leads to the findings of the clauses that it holds.** -/
theorem Findings.ofConfiguration_eq {c : Configuration} {cs : List Clause}
    (h : ∀ e : Clause, c.Holds e ↔ e.SaidBy cs) (t : Target) (m : String) :
    ofConfiguration c t m = ofClauses cs t m := by
  have hadmitted : c.admits t (.fold m) = true ↔
      t.capability.Declares m ∨ Clause.Speak cs none t m := by
    rw [← Configuration.speaks_iff h, ← Configuration.trusts_or_allows_iff,
      ← Capability.opens_fold_iff, Configuration.admits, Bool.or_eq_true, Bool.or_eq_true, or_assoc,
      or_left_comm]
  have hspeaks : ∀ {reason? : Option Reason},
      c.Speaks reason? t m ↔ Clause.Speak cs reason? t m := Configuration.speaks_iff h
  have hfield : ∀ {b : Bool} {p : Prop} [Decidable p], (b = true ↔ p) → b = decide p :=
    fun h => Bool.eq_iff_iff.2 (h.trans decide_eq_true_iff.symm)
  exact Findings.ext (hfield hadmitted) (hfield (Configuration.blocksOn_iff.trans hspeaks))
    (hfield (Configuration.blocksType_iff.trans hspeaks))
    (hfield (Configuration.blocks_iff.trans hspeaks))
    (hfield (Configuration.blocksProperty_iff.trans hspeaks))

namespace Policy

variable (c : Configuration) (a : Access)

/-- The strict engine gives the verdict on what its configuration answers. -/
theorem decide_strict :
    (strict c).decide a = (Findings.ofConfiguration c a.target a.member).strictVerdict a := by
  obtain ⟨t, m, _ | _⟩ := a
  · show Decision.ofReason? _ (c.strictReason? t (.fold m)) =
      if t.IsEngineOwned then .allowed
      else if !c.admits t (.fold m) then _
      else if c.blocksOn t (.fold m) then _
      else if c.blocks (.fold m) then _
      else _
    have howned := Target.engineOwned_iff (t := t)
    rw [Configuration.strictReason?]
    by_cases hi : t.IsEngineOwned
    · rw [if_pos (howned.2 hi), if_pos hi]
      rfl
    · rw [if_neg (mt howned.1 hi), if_neg hi]
      split_ifs <;> rfl
  · rfl

/-- The legacy engine gives the verdict on what its configuration answers. -/
theorem decide_legacy :
    (legacy c).decide a = (Findings.ofConfiguration c a.target a.member).legacyVerdict a := by
  obtain ⟨t, m, _ | _⟩ := a
  · show Decision.ofReason? _ (c.legacyReason? t (.fold m)) =
      if t.IsEngineOwned then .allowed
      else if c.blocksOn t (.fold m) then _
      else if c.blocksType t then _
      else if c.blocks (.fold m) then _
      else _
    have howned := Target.engineOwned_iff (t := t)
    rw [Configuration.legacyReason?]
    by_cases hi : t.IsEngineOwned
    · rw [if_pos (howned.2 hi), if_pos hi]
      rfl
    · rw [if_neg (mt howned.1 hi), if_neg hi]
      split_ifs <;> rfl
  · show Decision.ofReason? _ (c.legacyPropertyReason? (.fold m)) =
      if c.blocksProperty (.fold m) then _ else _
    rw [Configuration.legacyPropertyReason?]
    split_ifs <;> rfl

end Policy

/-! ### The engines decide as the rules say -/

namespace Findings

/-- The strict verdict hangs on three findings. -/
theorem strictVerdict_congr {f g : Findings} (a : Access) (hadmitted : f.admitted = g.admitted)
    (hfor : f.blockedForType = g.blockedForType) (hname : f.blockedName = g.blockedName) :
    f.strictVerdict a = g.strictVerdict a := by
  unfold strictVerdict
  rw [hadmitted, hfor, hname]

/-- What is admitted does not enter the legacy verdict. -/
theorem legacyVerdict_congr {f g : Findings} (a : Access)
    (hfor : f.blockedForType = g.blockedForType) (htype : f.blockedType = g.blockedType)
    (hname : f.blockedName = g.blockedName) (hproperty : f.blockedProperty = g.blockedProperty) :
    f.legacyVerdict a = g.legacyVerdict a := by
  unfold legacyVerdict
  rw [hfor, htype, hname, hproperty]

end Findings

/-- **The strict engine decides as the rules say, read one by one.** Whatever rules are given, in
whatever order and however merges are nested, the engine over what they build gives the verdict
on the clauses of the rules. Rules that only the legacy engine knows play no part in it. -/
theorem decide_strict_of_build {rules : List Rule} {c : Configuration}
    (h : Rule.build rules = .ok c) (a : Access) :
    (Policy.ofMode .strict c).value.decide a =
        (Findings.ofClauses (Rule.clausesAll rules) a.target a.member).strictVerdict a ∧
      (Policy.ofMode .strict c).value.decide a =
        (Findings.ofClauses (Clause.general (Rule.clausesAll rules)) a.target
          a.member).strictVerdict a := by
  have hdecide : (Policy.ofMode .strict c).value.decide a =
      (Findings.ofClauses (Rule.clausesAll rules) a.target a.member).strictVerdict a := by
    rw [← Findings.ofConfiguration_eq (Rule.holds_build h)]
    exact Policy.decide_strict c a
  have hspeak : ∀ {reason?}, reason? ≠ some Reason.blockedType →
      reason? ≠ some .blockedProperty →
        (Clause.Speak (Rule.clausesAll rules) reason? a.target a.member ↔
          Clause.Speak (Clause.general (Rule.clausesAll rules)) reason? a.target a.member) :=
    fun htype hproperty => (Clause.speak_general_iff htype hproperty).symm
  refine ⟨hdecide, hdecide.trans (Findings.strictVerdict_congr a ?_ ?_ ?_)⟩
  · exact decide_eq_decide.2 (or_congr_right (hspeak (by decide) (by decide)))
  · exact decide_eq_decide.2 (hspeak (by decide) (by decide))
  · exact decide_eq_decide.2 (hspeak (by decide) (by decide))

/-- An instance of a type that a merge trusts and a later rule blocks, asked in other letters. -/
theorem decide_strict_of_build_blockOn :
    ∃ c, Rule.build [.merge [.trust ⟨7, "app::Model"⟩, .merge [.blockType ⟨8, "app::File"⟩]],
          .preset .cms .strict, .blockOn ⟨7, "app::Model"⟩ ["fromUrl"]] = .ok c ∧
      (Policy.ofMode .strict c).value.decide
          (.method { type := ⟨8, "app::File"⟩, conformsTo := [⟨7, "app::Model"⟩] } "FROMurl") =
        .denied ⟨"File", "FROMurl", .method, .blockedForType⟩ := by
  obtain ⟨c, hc⟩ := Rule.exists_build_iff.2
    (by decide +kernel : Clause.AllFit (Rule.clausesAll
      [.merge [.trust ⟨7, "app::Model"⟩, .merge [.blockType ⟨8, "app::File"⟩]],
        .preset .cms .strict, .blockOn ⟨7, "app::Model"⟩ ["fromUrl"]]))
  exact ⟨c, hc, (decide_strict_of_build hc _).1.trans (by decide +kernel)⟩

/-- The same access to a value whose type declares something else. -/
def Access.declaring (a : Access) (capability : Capability) : Access :=
  { a with target := { a.target with capability } }

/-- **The legacy engine decides as the rules say, read one by one.** Rules that admit play no
part in it, and neither does what the type of the value declares. -/
theorem decide_legacy_of_build {rules : List Rule} {c : Configuration}
    (h : Rule.build rules = .ok c) (a : Access) :
    (Policy.ofMode .legacy c).value.decide a =
        (Findings.ofClauses (Rule.clausesAll rules) a.target a.member).legacyVerdict a ∧
      ∀ capability : Capability, (Policy.ofMode .legacy c).value.decide (a.declaring capability) =
        (Findings.ofClauses (Clause.vetoes (Rule.clausesAll rules)) a.target
          a.member).legacyVerdict a := by
  have hdecide : ∀ b : Access, (Policy.ofMode .legacy c).value.decide b =
      (Findings.ofClauses (Rule.clausesAll rules) b.target b.member).legacyVerdict b := by
    intro b
    rw [← Findings.ofConfiguration_eq (Rule.holds_build h)]
    exact Policy.decide_legacy c b
  refine ⟨hdecide a, fun capability => (hdecide _).trans ?_⟩
  have hspeak : ∀ {reason : Reason},
      Clause.Speak (Rule.clausesAll rules) (some reason) (a.declaring capability).target a.member ↔
        Clause.Speak (Clause.vetoes (Rule.clausesAll rules)) (some reason) a.target a.member :=
    Clause.speak_vetoes_iff.symm
  exact Findings.legacyVerdict_congr a (decide_eq_decide.2 hspeak) (decide_eq_decide.2 hspeak)
    (decide_eq_decide.2 hspeak) (decide_eq_decide.2 hspeak)

/-- A merged rule for a property holds for the template engine's own values, a merged rule for
their methods does not. -/
theorem decide_legacy_of_build_engineOwned :
    ∃ c, Rule.build [.merge [.preset .cms .legacy], .block ["html"]] = .ok c ∧
      (Policy.ofMode .legacy c).value.decide (.property { type := .markup } "PassWord") =
        .denied ⟨"Markup", "PassWord", .property, .blockedProperty⟩ ∧
      (Policy.ofMode .legacy c).value.decide (.method { type := .markup } "html") = .allowed := by
  obtain ⟨c, hc⟩ := Rule.exists_build_iff.2
    (by decide +kernel : Clause.AllFit (Rule.clausesAll
      [.merge [.preset .cms .legacy], .block ["html"]]))
  exact ⟨c, hc, (decide_legacy_of_build hc _).1.trans (by decide +kernel),
    (decide_legacy_of_build hc _).1.trans (by decide +kernel)⟩

end TemplateSandbox
