/-
# Decisions read off a document

`Document.findings` reads a document directly: a field says what it lists, a name
of a type stands for the type that the registry gives for it, and presets say
what the one preset lists, its properties in legacy mode alone.

Compiling goes another way. It takes in the presets, resolves every type name in
turn and adds to a draft as it goes (`Document.collect`). The clauses that it
collects are those of the fields (`Document.holds_collect`), whatever the order
and however many names stand for one type. So the sandbox that is started with
the outcome decides as the document says (`decide_of_compile`).
-/

import TemplateSandbox.Document
import TemplateSandbox.Proofs.Findings

namespace TemplateSandbox

/-! ### The clauses of a document -/

/-- What is said of some named types, as far as the registry knows them. -/
def Registry.clausesOf {α : Type} (r : Registry) (name : α → String)
    (say : α → TypeTag → List Clause) (xs : List α) : List Clause :=
  xs.flatMap fun x =>
    match r.resolve (name x) with
    | .ok k => say x k
    | .error _ => []

namespace Document

/-- The clauses of a document under a registry, field by field. -/
def clauses (d : Document) (r : Registry) : List Clause :=
  d.presets.flatMap (fun p => p.clauses d.mode) ++
    r.clausesOf id (fun _ k => [.trust k]) d.trustedTypes ++
    r.clausesOf Prod.fst (fun entry k => entry.2.map (.blockOn k)) d.blockedByType.entries ++
    r.clausesOf id (fun _ k => [.blockType k]) d.blockedTypes ++
    d.allowedMethods.map .allow ++ d.blockedMethods.map .block ++
    d.blockedProperties.map .blockProperty

/-- The draft of a document, before it is built: the first unknown type ends it. -/
def collect (d : Document) (r : Registry) : Except Fault Draft := do
  let draft ← resolveInto r id (fun draft _ type => draft.trust type) d.trustedTypes d.withPresets
  let draft ← resolveInto r Prod.fst (fun draft entry type => draft.blockOn type entry.2)
    d.blockedByType.entries draft
  let draft ← resolveInto r id (fun draft _ type => draft.blockType type) d.blockedTypes draft
  return ((draft.allow d.allowedMethods).block d.blockedMethods).blockProperties
    d.blockedProperties

/-- Compiling is collecting and building. -/
theorem compile_eq (d : Document) (r : Registry) :
    d.compile r = (do
      let draft ← d.collect r
      let config ← draft.build
      return { mode := d.mode, config }) := by
  simp only [compile, collect, bind_assoc, pure_bind]

/-- What is reported of an attempt to accept a document: a success, and nothing else. -/
def reportsOf (d : Document) : Except Fault Settings → List Event
  | .ok s => [.policyLoaded s.mode d.presets.length d.trustedTypes.length]
  | .error _ => []

/-- Accepting is validating and compiling, and a report of the outcome. -/
theorem accept_eq (d : Document) (r : Registry) :
    d.accept r = ⟨d.validate >>= fun _ => d.compile r,
      d.reportsOf (d.validate >>= fun _ => d.compile r)⟩ := by
  unfold accept
  cases d.validate with
  | error fault => rfl
  | ok u =>
    show _ = Logged.mk (d.compile r) (d.reportsOf (d.compile r))
    cases d.compile r <;> rfl

theorem value_accept (d : Document) (r : Registry) :
    (d.accept r).value = d.validate >>= fun _ => d.compile r := by
  rw [accept_eq]

/-- The report hangs on the outcome alone. -/
theorem events_accept (d : Document) (r : Registry) :
    (d.accept r).events = d.reportsOf (d.accept r).value := by
  rw [accept_eq]

theorem holds_withPresets {d : Document} {e : Clause} :
    d.withPresets.soFar.Holds e ↔ e.SaidBy (d.presets.flatMap fun p => p.clauses d.mode) := by
  have hfold : ∀ (presets : List Preset) (draft : Draft),
      (presets.foldl (fun draft p => draft.addPreset p d.mode) draft).soFar.Holds e ↔
        e.SaidBy (presets.flatMap fun p => p.clauses d.mode) ∨ draft.soFar.Holds e := by
    intro presets
    induction presets with
    | nil => simp
    | cons p rest ih =>
      intro draft
      rw [List.foldl_cons, ih, Draft.holds_addPreset, List.flatMap_cons, Clause.saidBy_append,
        or_left_comm, or_assoc]
  rw [withPresets, hfold]
  simp only [not_holds_empty, or_false]

/-- Resolving names into a draft adds what is said of each of the types, and nothing else. -/
theorem holds_resolveInto {α : Type} {r : Registry} {name : α → String}
    {add : Draft → α → TypeTag → Draft} (say : α → TypeTag → List Clause)
    (hadd : ∀ (draft : Draft) (x : α) (k : TypeTag) (e : Clause),
      (add draft x k).soFar.Holds e ↔ e.SaidBy (say x k) ∨ draft.soFar.Holds e)
    {xs : List α} {draft draft' : Draft} (h : resolveInto r name add xs draft = .ok draft')
    (e : Clause) :
    draft'.soFar.Holds e ↔ e.SaidBy (r.clausesOf name say xs) ∨ draft.soFar.Holds e := by
  induction xs generalizing draft with
  | nil =>
    obtain rfl := Except.ok.inj h
    simp [Registry.clausesOf]
  | cons x rest ih =>
    obtain ⟨k, hk, hrest⟩ := ok_of_bind h
    have hcons : r.clausesOf name say (x :: rest) = say x k ++ r.clausesOf name say rest := by
      simp only [Registry.clausesOf, List.flatMap_cons, hk]
    rw [ih hrest, hadd, hcons, Clause.saidBy_append, or_left_comm, or_assoc]

/-- What is collected from a document is what its clauses say. -/
theorem holds_collect {d : Document} {r : Registry} {draft : Draft}
    (h : d.collect r = .ok draft) (e : Clause) :
    draft.soFar.Holds e ↔ e.SaidBy (d.clauses r) := by
  obtain ⟨trusting, htrust, h⟩ := ok_of_bind h
  obtain ⟨blocking, hblock, h⟩ := ok_of_bind h
  obtain ⟨barring, hbar, h⟩ := ok_of_bind h
  obtain rfl := Except.ok.inj h
  have hbarring := holds_resolveInto (fun _ k => [.blockType k])
    (fun _ _ _ _ => Draft.holds_blockType) hbar e
  have hblocking := holds_resolveInto (fun entry k => entry.2.map (.blockOn k))
    (fun _ _ _ _ => Draft.holds_blockOn) hblock e
  have htrusting := holds_resolveInto (fun _ k => [.trust k])
    (fun _ _ _ _ => Draft.holds_trust) htrust e
  rw [Draft.holds_blockProperties, Draft.holds_block, Draft.holds_allow, hbarring, hblocking,
    htrusting, holds_withPresets]
  simp only [clauses, Clause.saidBy_append, or_assoc, or_left_comm, or_comm]

/-- Compiling keeps the mode and holds what the clauses of the document say. -/
theorem holds_compile {d : Document} {r : Registry} {s : Settings} (h : d.compile r = .ok s) :
    s.mode = d.mode ∧ ∀ e : Clause, s.config.Holds e ↔ e.SaidBy (d.clauses r) := by
  rw [compile_eq] at h
  obtain ⟨draft, hdraft, h⟩ := ok_of_bind h
  obtain ⟨config, hconfig, h⟩ := ok_of_bind h
  obtain rfl := Except.ok.inj h
  obtain rfl := Draft.eq_soFar_of_build hconfig
  exact ⟨rfl, holds_collect hdraft⟩

end Document

/-! ### What the fields say -/

/-- The name is registered for a type that the value is an instance of. -/
def Registry.NamesTypeOf (r : Registry) (name : String) (t : Target) : Prop :=
  ∃ k, r.resolve name = .ok k ∧ t.IsA k

instance (r : Registry) (name : String) (t : Target) : Decidable (r.NamesTypeOf name t) :=
  match h : r.resolve name with
  | .ok k => decidable_of_iff (t.IsA k) ⟨fun hk => ⟨k, h, hk⟩, fun ⟨_, hl, hk⟩ =>
      Except.ok.inj (h.symm.trans hl) ▸ hk⟩
  | .error _ => .isFalse fun ⟨_, hl, _⟩ => nomatch h.symm.trans hl

namespace Document

/-- The findings of a document under a registry, read off its fields. -/
def findings (d : Document) (r : Registry) (t : Target) (m : String) : Findings where
  admitted := t.capability.Declares m ∨ (∃ n ∈ d.trustedTypes, r.NamesTypeOf n t) ∨
    (∃ n ∈ d.allowedMethods, SameName n m) ∨
    d.presets ≠ [] ∧ ∃ n ∈ Preset.cms.allowed, SameName n m
  blockedForType := ∃ entry ∈ d.blockedByType.entries,
    r.NamesTypeOf entry.1 t ∧ ∃ n ∈ entry.2, SameName n m
  blockedType := ∃ n ∈ d.blockedTypes, r.NamesTypeOf n t
  blockedName := (∃ n ∈ d.blockedMethods, SameName n m) ∨
    d.presets ≠ [] ∧ ∃ n ∈ Preset.cms.blocked, SameName n m
  blockedProperty := (∃ n ∈ d.blockedProperties, SameName n m) ∨
    d.mode = .legacy ∧ d.presets ≠ [] ∧ ∃ n ∈ Preset.cms.blockedProperties, SameName n m

/-- What a preset says, list by list. -/
theorem speak_preset_iff {p : Preset} {mode : Mode} {reason? : Option Reason} {t : Target}
    {m : String} : Clause.Speak (p.clauses mode) reason? t m ↔
      none = reason? ∧ (∃ n ∈ p.allowed, SameName n m) ∨
      some .blockedName = reason? ∧ (∃ n ∈ p.blocked, SameName n m) ∨
      some .blockedProperty = reason? ∧ mode = .legacy ∧
        ∃ n ∈ p.blockedProperties, SameName n m := by
  cases mode <;>
    simp only [Preset.clauses, Clause.speak_append, Clause.speak_map_allow_iff,
      Clause.speak_map_block_iff, Clause.speak_map_blockProperty_iff, Clause.not_speak_nil,
      reduceCtorEq, true_and, false_and, and_false, or_false, or_assoc]

/-- Presets speak as soon as there is one, as the one preset does. -/
theorem speak_presets_iff {presets : List Preset} {mode : Mode} {reason? : Option Reason}
    {t : Target} {m : String} :
    Clause.Speak (presets.flatMap fun p => p.clauses mode) reason? t m ↔
      presets ≠ [] ∧ Clause.Speak (Preset.cms.clauses mode) reason? t m := by
  cases presets with
  | nil => simp
  | cons p rest =>
    simp only [Clause.speak_flatMap, ne_eq, reduceCtorEq, not_false_eq_true, true_and]
    constructor
    · rintro ⟨⟨⟩, _, h⟩
      exact h
    · intro h
      exact ⟨p, List.mem_cons_self, h⟩

/-- Named types speak of the values that the names are about, for one reason each. -/
theorem speak_clausesOf_iff {α : Type} {r : Registry} {name : α → String}
    {say : α → TypeTag → List Clause} {xs : List α} {reason? : Option Reason} {t : Target}
    {m : String} (own? : Option Reason) (p : α → Prop)
    (hsay : ∀ x k, Clause.Speak (say x k) reason? t m ↔ own? = reason? ∧ t.IsA k ∧ p x) :
    Clause.Speak (r.clausesOf name say xs) reason? t m ↔
      own? = reason? ∧ ∃ x ∈ xs, r.NamesTypeOf (name x) t ∧ p x := by
  have hone : ∀ x, Clause.Speak (match r.resolve (name x) with
      | .ok k => say x k
      | .error _ => []) reason? t m ↔ own? = reason? ∧ r.NamesTypeOf (name x) t ∧ p x := by
    intro x
    unfold Registry.NamesTypeOf
    cases r.resolve (name x) with
    | error fault => simp
    | ok k => simp [hsay]
  rw [Registry.clausesOf, Clause.speak_flatMap]
  simp only [hone]
  constructor
  · rintro ⟨x, hx, hown, h⟩
    exact ⟨hown, x, hx, h⟩
  · rintro ⟨hown, x, hx, h⟩
    exact ⟨x, hx, hown, h⟩

/-- What a document says, field by field. -/
theorem speak_clauses_iff {d : Document} {r : Registry} {reason? : Option Reason} {t : Target}
    {m : String} : Clause.Speak (d.clauses r) reason? t m ↔
      d.presets ≠ [] ∧ Clause.Speak (Preset.cms.clauses d.mode) reason? t m ∨
      none = reason? ∧ (∃ n ∈ d.trustedTypes, r.NamesTypeOf n t) ∨
      some .blockedForType = reason? ∧ (∃ entry ∈ d.blockedByType.entries,
        r.NamesTypeOf entry.1 t ∧ ∃ n ∈ entry.2, SameName n m) ∨
      some .blockedType = reason? ∧ (∃ n ∈ d.blockedTypes, r.NamesTypeOf n t) ∨
      none = reason? ∧ (∃ n ∈ d.allowedMethods, SameName n m) ∨
      some .blockedName = reason? ∧ (∃ n ∈ d.blockedMethods, SameName n m) ∨
      some .blockedProperty = reason? ∧ ∃ n ∈ d.blockedProperties, SameName n m := by
  have htrust := @speak_clausesOf_iff _ r id (fun _ k => [.trust k]) d.trustedTypes reason? t m
    none (fun _ => True) (by simp [Clause.reason?, Clause.Covers])
  have hblock := @speak_clausesOf_iff _ r Prod.fst (fun entry k => entry.2.map (.blockOn k))
    d.blockedByType.entries reason? t m (some .blockedForType)
    (fun entry => ∃ n ∈ entry.2, SameName n m) (fun _ _ => Clause.speak_map_blockOn_iff)
  have hbar := @speak_clausesOf_iff _ r id (fun _ k => [.blockType k]) d.blockedTypes reason? t m
    (some .blockedType) (fun _ => True) (by simp [Clause.reason?, Clause.Covers])
  simp only [and_true, id_eq] at htrust hbar
  simp only [clauses, Clause.speak_append, speak_presets_iff, htrust, hblock, hbar,
    Clause.speak_map_allow_iff, Clause.speak_map_block_iff, Clause.speak_map_blockProperty_iff,
    or_assoc]

/-- **The clauses of a document lead to the findings of its fields.** -/
theorem ofClauses_clauses (d : Document) (r : Registry) (t : Target) (m : String) :
    Findings.ofClauses (d.clauses r) t m = d.findings r t m := by
  refine Findings.ext ?_ ?_ ?_ ?_ ?_ <;> refine decide_eq_decide.2 ?_ <;>
    simp only [speak_clauses_iff, speak_preset_iff, reduceCtorEq, false_and, and_false,
      or_false, false_or, true_and, Option.some.injEq]
  -- The presets come first among the clauses and last in what a field is read for.
  · exact or_congr_right (by rw [or_comm, or_assoc])
  · exact or_comm
  · rw [or_comm, and_left_comm]

end Document

/-! ### A sandbox decides as its document says -/

/-- **A compiled document means what it says.** The sandbox that is started with it gives the
verdict of its mode on the findings read off its fields. This needs no check of the document
beforehand: what compiles is decided so, fit for use or not. -/
theorem decide_of_compile {d : Document} {r : Registry} {s : Settings} (h : d.compile r = .ok s)
    (a : Access) :
    (Sandbox.start s).value.decide a =
      match d.mode with
      | .strict => (d.findings r a.target a.member).strictVerdict a
      | .legacy => (d.findings r a.target a.member).legacyVerdict a := by
  obtain ⟨hmode, hholds⟩ := Document.holds_compile h
  rw [← Document.ofClauses_clauses, ← Findings.ofConfiguration_eq hholds, ← hmode]
  obtain ⟨_ | _, c⟩ := s
  · exact Policy.decide_strict c a
  · exact Policy.decide_legacy c a

/-- Two names of one type block a method each, and both methods are blocked. -/
theorem decide_of_compile_twoNames :
    let d : Document := { version := 1, presets := [.cms], trustedTypes := ["Model"],
                          blockedByType := .ofList [("Model", ["one"]), ("app::Model", ["two"])] }
    let r : Registry := ⟨[("Model", ⟨7, "app::Model"⟩), ("app::Model", ⟨7, "app::Model"⟩)]⟩
    let t : Target := { type := ⟨8, "app::File"⟩, conformsTo := [⟨7, "app::Model"⟩] }
    ∃ s, d.compile r = .ok s ∧
      (Sandbox.start s).value.decide (.method t "ONE") =
        .denied ⟨"File", "ONE", .method, .blockedForType⟩ ∧
      (Sandbox.start s).value.decide (.method t "two") =
        .denied ⟨"File", "two", .method, .blockedForType⟩ ∧
      (Sandbox.start s).value.decide (.method t "three") = .allowed := by
  intro d r t
  have hok : (d.compile r).isOk = true := by decide +kernel
  obtain ⟨s, h⟩ : ∃ s, d.compile r = .ok s := by
    cases hs : d.compile r with
    | ok s => exact ⟨s, rfl⟩
    | error fault =>
      rw [hs] at hok
      cases hok
  exact ⟨s, h, (decide_of_compile h _).trans (by decide +kernel),
    (decide_of_compile h _).trans (by decide +kernel),
    (decide_of_compile h _).trans (by decide +kernel)⟩

end TemplateSandbox
