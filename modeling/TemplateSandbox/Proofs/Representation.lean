/-
# What a configuration looks like from inside

A configuration is not put together by hand. It is what a draft builds, and a
draft comes from calls: rules one by one, presets, and merges of what other
drafts have built (`Draft.Reachable`, `Configuration.Reachable`). Rules and
documents are two ways to make such calls, so what they end in is reachable too
(`Rule.reachable_of_build`, `Document.reachable_of_compile`), a document that was
never validated included.

| invariant | kept by |
| --- | --- |
| no set has an element twice | every call (`Draft.Reachable.allDistinct`) |
| names are folded | every call, as `MemberName` has no other values |
| names are fit | `build`, which looks at all of them |

Together they make a configuration *well formed* (`Configuration.WellFormed`):
each name in it is one that a folded request can be equal to, and so there is no
rule that sits in a set and is never found.
-/

import TemplateSandbox.Proofs.DocumentFindings

namespace TemplateSandbox

/-! ### Sets without repetition -/

namespace NamesByType

/-- No entry of the map has a name twice. -/
def EachDistinct (m : NamesByType) : Prop := ∀ entry ∈ m.entries, Distinct entry.2

namespace EachDistinct

variable {m : NamesByType}

theorem add (h : m.EachDistinct) (k : TypeTag) (names : List MemberName) :
    (m.add k names).EachDistinct :=
  forall_mem_extend (Distinct.nil.insertAll names) h fun entry he => (h entry he).insertAll names

theorem union (h : m.EachDistinct) (other : NamesByType) : (m.union other).EachDistinct := by
  rw [NamesByType.union]
  induction other.entries generalizing m with
  | nil => exact h
  | cons entry rest ih => exact ih (h.add entry.1 entry.2)

end EachDistinct
end NamesByType

/-- No set of the configuration has an element twice. -/
structure Configuration.AllDistinct (c : Configuration) : Prop where
  /-- No type is trusted twice. -/
  trusted : Distinct c.trusted
  /-- No name is admitted twice. -/
  allowed : Distinct c.allowed
  /-- No name is vetoed twice. -/
  blocked : Distinct c.blocked
  /-- No type has two entries of names vetoed on it. -/
  blockedForTypes : Distinct (c.blockedFor.entries.map Prod.fst)
  /-- No name is vetoed twice on one type. -/
  blockedForNames : c.blockedFor.EachDistinct
  /-- No type is vetoed twice. -/
  blockedTypes : Distinct c.blockedTypes
  /-- No property is vetoed twice. -/
  blockedProperties : Distinct c.blockedProperties

/-! ### Drafts and configurations that calls lead to -/

namespace Draft

/-- Calls lead to the draft, in whatever order, from an empty draft on. A merge takes what another
such draft has built. -/
inductive Reachable : Draft → Prop
  /-- Nothing was called yet. -/
  | start : Reachable {}
  | trust {d : Draft} (k : TypeTag) : Reachable d → Reachable (d.trust k)
  | allow {d : Draft} (names : List String) : Reachable d → Reachable (d.allow names)
  | block {d : Draft} (names : List String) : Reachable d → Reachable (d.block names)
  | blockOn {d : Draft} (k : TypeTag) (names : List String) :
    Reachable d → Reachable (d.blockOn k names)
  | blockType {d : Draft} (k : TypeTag) : Reachable d → Reachable (d.blockType k)
  | blockProperties {d : Draft} (names : List String) :
    Reachable d → Reachable (d.blockProperties names)
  | merge {d inner : Draft} {c : Configuration} :
    Reachable d → Reachable inner → inner.build = .ok c → Reachable (d.merge c)

namespace Reachable

variable {d : Draft}

/-- A preset is taken in by calls. -/
theorem addPreset (h : d.Reachable) (p : Preset) (mode : Mode) : (d.addPreset p mode).Reachable :=
  match mode with
  | .strict => (h.allow _).block _
  | .legacy => ((h.allow _).block _).blockProperties _

/-- **No call puts an element into a set twice.** -/
theorem allDistinct (h : d.Reachable) : d.soFar.AllDistinct := by
  induction h with
  | start => exact ⟨.nil, .nil, .nil, .nil, fun _ => nofun, .nil, .nil⟩
  | trust k _ ih => exact { ih with trusted := ih.trusted.insert k }
  | allow names _ ih => exact { ih with allowed := ih.allowed.insertAll _ }
  | block names _ ih => exact { ih with blocked := ih.blocked.insertAll _ }
  | blockOn k names _ ih =>
    exact { ih with
      blockedForTypes := NamesByType.distinct _, blockedForNames := ih.blockedForNames.add k _ }
  | blockType k _ ih => exact { ih with blockedTypes := ih.blockedTypes.insert k }
  | blockProperties names _ ih =>
    exact { ih with blockedProperties := ih.blockedProperties.insertAll _ }
  | merge _ _ _ ih _ =>
    -- What is merged may be any configuration: its elements are put in one by one.
    exact ⟨ih.trusted.insertAll _, ih.allowed.insertAll _, ih.blocked.insertAll _,
      NamesByType.distinct _, ih.blockedForNames.union _, ih.blockedTypes.insertAll _,
      ih.blockedProperties.insertAll _⟩

end Reachable
end Draft

/-- A draft that calls lead to has built the configuration. -/
def Configuration.Reachable (c : Configuration) : Prop := ∃ d : Draft, d.Reachable ∧ d.build = .ok c

/-- The configuration without any rule is what an empty draft builds. -/
theorem Configuration.reachable_empty : Configuration.empty.Reachable := ⟨{}, .start, rfl⟩

namespace Rule

mutual

/-- A rule is a call. -/
theorem reachable_apply : ∀ (rule : Rule) {d d' : Draft}, rule.apply d = .ok d' →
    d.Reachable → d'.Reachable
  | .trust type, d, d', h, hd => Except.ok.inj h ▸ hd.trust type
  | .allow names, d, d', h, hd => Except.ok.inj h ▸ hd.allow names
  | .block names, d, d', h, hd => Except.ok.inj h ▸ hd.block names
  | .blockOn type names, d, d', h, hd => Except.ok.inj h ▸ hd.blockOn type names
  | .blockType type, d, d', h, hd => Except.ok.inj h ▸ hd.blockType type
  | .blockProperties names, d, d', h, hd => Except.ok.inj h ▸ hd.blockProperties names
  | .preset p mode, d, d', h, hd => Except.ok.inj h ▸ hd.addPreset p mode
  | .merge rules, d, d', h, hd => by
    obtain ⟨c, hc, rfl⟩ := build_of_apply_merge h
    obtain ⟨inner, hinner, hbuild, rfl⟩ := applyAll_of_build hc
    exact hd.merge (reachable_applyAll rules hinner .start) hbuild

/-- Rules in order are calls in order. -/
theorem reachable_applyAll : ∀ (rules : List Rule) {d d' : Draft}, applyAll rules d = .ok d' →
    d.Reachable → d'.Reachable
  | [], d, d', h, hd => Except.ok.inj h ▸ hd
  | rule :: rest, d, d', h, hd => by
    rw [applyAll_cons] at h
    obtain ⟨next, hnext, hrest⟩ := ok_of_bind h
    exact reachable_applyAll rest hrest (reachable_apply rule hnext hd)

end

/-- What rules build is reachable. -/
theorem reachable_of_build {rules : List Rule} {c : Configuration} (h : build rules = .ok c) :
    c.Reachable := by
  obtain ⟨d, hd, hbuild, rfl⟩ := applyAll_of_build h
  exact ⟨d, reachable_applyAll rules hd .start, hbuild⟩

end Rule

namespace Document

variable {d : Document} {r : Registry}

/-- Resolving names into a draft keeps what taking in one of them keeps. -/
theorem keep_resolveInto {α : Type} {name : α → String} {add : Draft → α → TypeTag → Draft}
    {p : Draft → Prop} (hadd : ∀ (draft : Draft) (x : α) (k : TypeTag), p draft → p (add draft x k))
    {xs : List α} {draft draft' : Draft} (h : resolveInto r name add xs draft = .ok draft')
    (hdraft : p draft) : p draft' := by
  induction xs generalizing draft with
  | nil => exact Except.ok.inj h ▸ hdraft
  | cons x rest ih =>
    obtain ⟨k, _, hrest⟩ := ok_of_bind h
    exact ih hrest (hadd draft x k hdraft)

theorem reachable_withPresets (d : Document) : d.withPresets.Reachable := by
  have hfold : ∀ (presets : List Preset) (draft : Draft), draft.Reachable →
      (presets.foldl (fun draft p => draft.addPreset p d.mode) draft).Reachable := by
    intro presets
    induction presets with
    | nil => exact fun _ h => h
    | cons p rest ih => exact fun draft h => ih _ (h.addPreset p d.mode)
  exact hfold d.presets {} .start

theorem reachable_collect {draft : Draft} (h : d.collect r = .ok draft) : draft.Reachable := by
  obtain ⟨trusting, htrust, h⟩ := ok_of_bind h
  obtain ⟨blocking, hblock, h⟩ := ok_of_bind h
  obtain ⟨barring, hbar, h⟩ := ok_of_bind h
  obtain rfl := Except.ok.inj h
  have htrusting : trusting.Reachable :=
    keep_resolveInto (fun _ _ k h => h.trust k) htrust (reachable_withPresets d)
  have hblocking : blocking.Reachable :=
    keep_resolveInto (fun _ entry k h => h.blockOn k entry.2) hblock htrusting
  have hbarring : barring.Reachable :=
    keep_resolveInto (fun _ _ k h => h.blockType k) hbar hblocking
  exact ((hbarring.allow _).block _).blockProperties _

/-- What a document compiles to is reachable, be the document valid or not. -/
theorem reachable_of_compile {s : Settings} (h : d.compile r = .ok s) : s.config.Reachable := by
  rw [compile_eq] at h
  obtain ⟨draft, hdraft, h⟩ := ok_of_bind h
  obtain ⟨config, hconfig, h⟩ := ok_of_bind h
  obtain rfl := Except.ok.inj h
  exact ⟨draft, reachable_collect hdraft, hconfig⟩

end Document

/-! ### Names as sets hold them -/

namespace MemberName

/-- What is known of a name in a set: it is fit, and folding has nothing to do in it. -/
structure Stored (n : MemberName) : Prop where
  /-- The text is not empty and holds no white space. -/
  fit : Fit n.text
  /-- No character is an ASCII capital. -/
  noCapital : ∀ ch ∈ n.text.toList, ¬('A' ≤ ch ∧ ch ≤ 'Z')
  /-- Folding the text gives the name back. -/
  fixed : fold n.text = n

/-- There is no capital in the text of a name. -/
theorem not_capital_of_mem {n : MemberName} {ch : Char} (h : ch ∈ n.text.toList) :
    ¬('A' ≤ ch ∧ ch ≤ 'Z') := by
  rw [← n.folded, toList_foldText] at h
  obtain ⟨c, _, rfl⟩ := List.mem_map.1 h
  exact foldChar_not_capital c

theorem stored_of_fit {n : MemberName} (h : Fit n.text) : n.Stored :=
  ⟨h, fun _ => not_capital_of_mem, n.fold_text⟩

end MemberName

namespace Configuration

/-- Every rule is found: each name in a set answers a request for any spelling of it. -/
structure FindsAll (c : Configuration) : Prop where
  /-- An admitted name is admitted in every spelling. -/
  allowed : ∀ n ∈ c.allowed, ∀ m, SameName n.text m → c.allows (.fold m) = true
  /-- A vetoed name is vetoed in every spelling. -/
  blocked : ∀ n ∈ c.blocked, ∀ m, SameName n.text m → c.blocks (.fold m) = true
  /-- A vetoed property is vetoed in every spelling. -/
  blockedProperties : ∀ n ∈ c.blockedProperties, ∀ m, SameName n.text m →
    c.blocksProperty (.fold m) = true
  /-- A name that is vetoed on a type is so in every spelling, on every instance. -/
  blockedFor : ∀ entry ∈ c.blockedFor.entries, ∀ n ∈ entry.2, ∀ (t : Target) (m : String),
    t.IsA entry.1 → SameName n.text m → c.blocksOn t (.fold m) = true

/-- A configuration as it should be. -/
structure WellFormed (c : Configuration) : Prop where
  /-- The names are such as sets should hold. -/
  stored : ∀ n ∈ c.memberNames, n.Stored
  /-- Every rule is found. -/
  finds : c.FindsAll
  /-- No set has an element twice. -/
  distinct : c.AllDistinct

/-- A name in a set of folded names is found under every spelling of it. -/
theorem contains_fold_of_mem {names : List MemberName} {n : MemberName} (h : n ∈ names)
    {m : String} (hm : SameName n.text m) : names.contains (.fold m) = true := by
  rw [← MemberName.fold_eq_fold_iff, MemberName.fold_text] at hm
  exact List.contains_iff_mem.2 (hm ▸ h)

theorem findsAll (c : Configuration) : c.FindsAll where
  allowed _ hn _ hm := contains_fold_of_mem hn hm
  blocked _ hn _ hm := contains_fold_of_mem hn hm
  blockedProperties _ hn _ hm := contains_fold_of_mem hn hm
  blockedFor entry hentry n hn t m ht hm := by
    -- The lineage has the type by identity; the key of its entry may have another path.
    obtain ⟨l, hl, hid⟩ := Target.isA_iff.1 ht
    rw [← MemberName.fold_eq_fold_iff, MemberName.fold_text] at hm
    refine List.any_eq_true.2 ⟨l, hl, NamesByType.lists_iff.2 ⟨entry, hentry, hid.symm, ?_⟩⟩
    exact hm ▸ hn

/-- What can be reached is well formed. -/
theorem Reachable.wellFormed {c : Configuration} (h : c.Reachable) : c.WellFormed := by
  obtain ⟨d, hd, hbuild⟩ := h
  obtain rfl := Draft.eq_soFar_of_build hbuild
  exact ⟨fun n hn => MemberName.stored_of_fit (Draft.build_eq_ok_iff_forall_fit.1 hbuild n hn),
    findsAll _, hd.allDistinct⟩

end Configuration

/-- **Every configuration is well formed**, whichever way it was come by: by calls and merges that
end in a build, by rules, by compiling a document that need not be valid, or by default. Its names
are fit and folded, it finds each of them in every spelling, and no set of it repeats itself. -/
theorem wellFormed_of_reachable :
    (∀ c : Configuration, c.Reachable → c.WellFormed) ∧
    (∀ (rules : List Rule) (c : Configuration), Rule.build rules = .ok c → c.WellFormed) ∧
    (∀ (d : Document) (r : Registry) (s : Settings), d.compile r = .ok s → s.config.WellFormed) ∧
    Configuration.empty.WellFormed :=
  ⟨fun _ h => h.wellFormed, fun _ _ h => (Rule.reachable_of_build h).wellFormed,
    fun _ _ _ h => (Document.reachable_of_compile h).wellFormed,
    Configuration.reachable_empty.wellFormed⟩

/-- A document that is refused when validated, merged into a draft that has one of its names, and
rules that merge the other one. -/
theorem wellFormed_of_reachable_invalid :
    let d : Document := { version := 7, blockedMethods := ["Save"], blockedProperties := ["Key"] }
    let compiled : Configuration :=
      { blocked := [.fold "save"], blockedProperties := [.fold "key"] }
    let merged : Configuration := { compiled with blocked := [.fold "drop", .fold "save"] }
    let rules : List Rule := [.allow ["toHtml"], .merge [.blockProperties ["KEY"]]]
    let ruled : Configuration := { allowed := [.fold "tohtml"], blockedProperties := [.fold "key"] }
    d.validate = .error .badVersion ∧
      d.compile ⟨[]⟩ = .ok { mode := .strict, config := compiled } ∧ compiled.WellFormed ∧
      ((({} : Draft).block ["SAVE", "drop"]).merge compiled).build = .ok merged ∧
      merged.WellFormed ∧ Rule.build rules = .ok ruled ∧ ruled.WellFormed := by
  intro d compiled merged rules ruled
  have hcompile : d.compile ⟨[]⟩ = .ok { mode := .strict, config := compiled } := rfl
  have hmerge : ((({} : Draft).block ["SAVE", "drop"]).merge compiled).build = .ok merged := rfl
  have hrules : Rule.build rules = .ok ruled := rfl
  obtain ⟨inner, hinner, hbuild⟩ : compiled.Reachable := Document.reachable_of_compile hcompile
  have hmerged : merged.Reachable :=
    ⟨_, (Draft.Reachable.start.block _).merge hinner hbuild, hmerge⟩
  exact ⟨rfl, hcompile, wellFormed_of_reachable.2.2.1 d ⟨[]⟩ _ hcompile, hmerge,
    wellFormed_of_reachable.1 merged hmerged, hrules,
    wellFormed_of_reachable.2.1 rules ruled hrules⟩

end TemplateSandbox
