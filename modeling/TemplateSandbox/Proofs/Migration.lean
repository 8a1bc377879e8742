/-
# From strict to legacy

The two engines ask about methods in the same order, but for two questions. The
strict engine first asks whether anything admits the method, and the legacy
engine asks whether a whole type is vetoed. Over one configuration, and for a
value whose types are not vetoed as a whole, the strict decision *narrows* the
legacy one (`Decision.Narrows`): it is the same, or a denial for want of
anything that admits the method.

A document for strict mode lists neither vetoed types nor vetoed properties, so
it can be used in legacy mode as it stands (`Document.Acceptable.inLegacy`).
What it says of methods is unchanged (`Document.saidBy_clauses_inMode_iff`), and
the only properties that become restricted are those of its presets.
-/

import TemplateSandbox.Proofs.Acceptance
import TemplateSandbox.Proofs.Verdict

namespace TemplateSandbox

/-! ### One configuration, two engines -/

/-- How a strict decision on a method stands to the legacy one. -/
structure Decision.Narrows (strict legacy : Decision) : Prop where
  /-- What is allowed strictly is allowed. -/
  allowed : strict = .allowed → legacy = .allowed
  /-- What is vetoed strictly is vetoed for the same reason. -/
  denied : ∀ den, strict = .denied den → den.reason ≠ .notAllowListed → legacy = .denied den
  /-- What is vetoed is so strictly, unless nothing admits it to begin with. -/
  vetoed : ∀ den, legacy = .denied den →
    strict = .denied den ∨ strict = .denied { den with reason := .notAllowListed }

namespace Decision.Narrows

theorem refl (d : Decision) : d.Narrows d where
  allowed h := h
  denied _ h _ := h
  vetoed _ h := .inl h

/-- Whatever is decided of an access otherwise, to deny it because nothing admits it is narrower. -/
theorem of_notAllowListed (a : Access) (reason? : Option Reason) :
    (Decision.denied (a.denial .notAllowListed)).Narrows (ofReason? a reason?) where
  allowed h := nomatch h
  denied den h hreason := by
    obtain rfl := Decision.denied.inj h
    exact absurd rfl hreason
  vetoed den h := by
    cases reason? with
    | none => cases h
    | some reason =>
      obtain rfl := Decision.denied.inj h
      exact .inr rfl

end Decision.Narrows

namespace Findings

/-- Of a method that something admits, and of the template engine's own values, both engines think
alike, if no type is vetoed as a whole. -/
theorem strictVerdict_eq_legacyVerdict {f : Findings} {t : Target} (m : String)
    (h : t.IsEngineOwned ∨ f.admitted = true) (htype : f.blockedType = false) :
    f.strictVerdict (.method t m) = f.legacyVerdict (.method t m) := by
  rcases h with howned | hadmitted
  · simp [strictVerdict, legacyVerdict, Access.method, howned]
  · simp [strictVerdict, legacyVerdict, Access.method, hadmitted, htype]

/-- **On the same findings the strict verdict narrows the legacy one**, if no type is vetoed as a
whole. -/
theorem strictVerdict_narrows {f : Findings} (t : Target) (m : String)
    (htype : f.blockedType = false) :
    (f.strictVerdict (.method t m)).Narrows (f.legacyVerdict (.method t m)) := by
  by_cases h : t.IsEngineOwned ∨ f.admitted = true
  · rw [strictVerdict_eq_legacyVerdict m h htype]
    exact .refl _
  -- Nothing admits the method: the strict engine looks no further, whatever the legacy one finds.
  · obtain ⟨howned, hadmitted⟩ := not_or.1 h
    have hstrict : f.strictVerdict (.method t m) = _ :=
      strictVerdict_eq_notAllowListed_iff.2 ⟨howned, hadmitted⟩
    have hlegacy : f.legacyVerdict (.method t m) = .ofReason? _ _ :=
      verdict_eq_ofReason? f .legacy (.method t m)
    rw [hstrict, hlegacy]
    exact .of_notAllowListed _ _

end Findings

/-- A value that is an instance of no vetoed type is not vetoed as a whole. -/
theorem Configuration.blocksType_eq_false {c : Configuration} {t : Target}
    (h : ∀ k ∈ c.blockedTypes, ¬t.IsA k) : c.blocksType t = false := by
  rw [blocksType, List.any_eq_false]
  intro l hl hcontains
  obtain ⟨k, hk, hlk⟩ := List.contains_iff_exists_mem_beq.1 hcontains
  exact h k hk (Target.isA_iff.2 ⟨l, hl, TypeTag.beq_iff.1 hlk⟩)

/-! ### One document, two modes -/

/-- Two configurations say the same of methods, whole types apart. -/
structure Configuration.AgreesOnMethods (c c' : Configuration) : Prop where
  /-- The same types are trusted. -/
  trusted : ∀ k, c.trusted.contains k = c'.trusted.contains k
  /-- The same names are admitted. -/
  allowed : ∀ n, n ∈ c.allowed ↔ n ∈ c'.allowed
  /-- The same names are vetoed. -/
  blocked : ∀ n, n ∈ c.blocked ↔ n ∈ c'.blocked
  /-- The same names are vetoed on the same types. -/
  blockedFor : ∀ k n, c.blockedFor.lists k n = c'.blockedFor.lists k n

/-- Configurations that hold the same clauses about methods agree on methods. -/
theorem Configuration.AgreesOnMethods.of_holds {c c' : Configuration}
    (h : ∀ e : Clause, e.reason? ≠ some .blockedProperty → (c.Holds e ↔ c'.Holds e)) :
    c.AgreesOnMethods c' where
  trusted k := Bool.eq_iff_iff.2 (h (.trust k) (by simp [Clause.reason?]))
  allowed n := by
    have hheld := h (.allow n.text) (by simp [Clause.reason?])
    simpa only [Holds, MemberName.fold_text, List.contains_iff_mem] using hheld
  blocked n := by
    have hheld := h (.block n.text) (by simp [Clause.reason?])
    simpa only [Holds, MemberName.fold_text, List.contains_iff_mem] using hheld
  blockedFor k n := by
    have hheld := h (.blockOn k n.text) (by simp [Clause.reason?])
    simp only [Holds, MemberName.fold_text] at hheld
    exact Bool.eq_iff_iff.2 hheld

theorem Clause.saidBy_flatMap {α : Type} {e : Clause} {f : α → List Clause} {xs : List α} :
    e.SaidBy (xs.flatMap f) ↔ ∃ x ∈ xs, e.SaidBy (f x) := by
  simp only [SaidBy, List.mem_flatMap]
  constructor
  · rintro ⟨r, ⟨x, hx, hr⟩, hsame⟩
    exact ⟨x, hx, r, hr, hsame⟩
  · rintro ⟨x, hx, r, hr, hsame⟩
    exact ⟨r, ⟨x, hx, hr⟩, hsame⟩

/-- The mode counts for what a preset says of properties, and for nothing else. -/
theorem Preset.saidBy_clauses_iff {e : Clause} (he : e.reason? ≠ some .blockedProperty) (p : Preset)
    (mode : Mode) : e.SaidBy (p.clauses mode) ↔
      e.SaidBy (p.allowed.map .allow ++ p.blocked.map .block) := by
  cases mode with
  | strict => rw [clauses, List.append_nil]
  | legacy =>
    rw [clauses, Clause.saidBy_append, or_iff_left]
    rintro ⟨r, hr, hsame⟩
    obtain ⟨n, _, rfl⟩ := List.mem_map.1 hr
    exact he hsame.reason?_eq.symm

namespace Document

/-- The same document for another mode. -/
def inMode (d : Document) (mode : Mode) : Document := { d with mode }

variable {d : Document} {r : Registry}

/-- A document says the same in every mode, properties apart. -/
theorem saidBy_clauses_inMode_iff {e : Clause} (he : e.reason? ≠ some .blockedProperty)
    (mode : Mode) : e.SaidBy ((d.inMode mode).clauses r) ↔ e.SaidBy (d.clauses r) := by
  simp only [clauses, inMode, Clause.saidBy_append, Clause.saidBy_flatMap,
    Preset.saidBy_clauses_iff he]

/-- A document that may be used in strict mode may be used in legacy mode. -/
theorem Acceptable.inLegacy (h : d.Acceptable r) : (d.inMode .legacy).Acceptable r :=
  { h with strictTypes := nofun, strictProperties := nofun }

/-- A document that was accepted was compiled. -/
theorem compile_of_accept {s : Settings} (h : (d.accept r).value = .ok s) :
    d.compile r = .ok s := by
  rw [value_accept] at h
  obtain ⟨_, _, hcompile⟩ := ok_of_bind h
  exact hcompile

/-- Exactly the acceptable documents are accepted. -/
theorem exists_accept_iff : (∃ s, (d.accept r).value = .ok s) ↔ d.Acceptable r :=
  (reports_accept d r).exists_ok_iff.trans violations_eq_nil_iff

/-- A sandbox decides by the findings read off its document. -/
theorem decide_start {s : Settings} (h : d.compile r = .ok s) (a : Access) :
    (Sandbox.start s).value.decide a = (d.findings r a.target a.member).verdict d.mode a := by
  obtain ⟨hmode, hholds⟩ := holds_compile h
  rw [← ofClauses_clauses, ← hmode]
  exact Policy.decide_ofMode_of_holds hholds s.mode a

/-- What a document says of methods in strict mode narrows what it says of them in legacy mode, if
it blocks no type. -/
theorem strictVerdict_narrows_inLegacy (htypes : d.blockedTypes = []) (t : Target) (m : String) :
    ((d.findings r t m).strictVerdict (.method t m)).Narrows
      (((d.inMode .legacy).findings r t m).legacyVerdict (.method t m)) := by
  have htype : (d.findings r t m).blockedType = false := by
    simp [findings, htypes]
  exact Findings.strictVerdict_narrows t m htype

/-- Of a document that lists no property itself, legacy mode denies those of its presets. -/
theorem legacyVerdict_inLegacy_ne_allowed_iff (hproperties : d.blockedProperties = []) (t : Target)
    (m : String) :
    ((d.inMode .legacy).findings r t m).legacyVerdict (.property t m) ≠ .allowed ↔
      d.presets ≠ [] ∧ ∃ n ∈ Preset.cms.blockedProperties, SameName n m := by
  have hproperty : ((d.inMode .legacy).findings r t m).blockedProperty = true ↔
      d.presets ≠ [] ∧ ∃ n ∈ Preset.cms.blockedProperties, SameName n m := by
    simp [findings, inMode, hproperties]
  rw [Ne, Findings.legacyVerdict_property_eq_allowed_iff, not_not, hproperty]

end Document

/-- **Strict mode is legacy mode with less allowed, and leaving it is safe.** Over one
configuration the strict decision on a method narrows the legacy one, for every value that is an
instance of no vetoed type. A document that is accepted for strict mode is accepted for legacy
mode; both say the same of methods, every strict decision on a method narrows the legacy one, and
of properties the legacy sandbox denies those of the preset, if there is one. -/
theorem strict_narrows_legacy :
    (∀ (c : Configuration) (t : Target) (m : String), (∀ k ∈ c.blockedTypes, ¬t.IsA k) →
      ((Policy.strict c).decide (.method t m)).Narrows
        ((Policy.legacy c).decide (.method t m))) ∧
    ∀ (d : Document) (r : Registry) (s : Settings), d.mode = .strict →
      (d.accept r).value = .ok s →
        ∃ s', ((d.inMode .legacy).accept r).value = .ok s' ∧
          s.config.AgreesOnMethods s'.config ∧
          ∀ (t : Target) (m : String),
            ((Sandbox.start s).value.decide (.method t m)).Narrows
              ((Sandbox.start s').value.decide (.method t m)) ∧
            ((Sandbox.start s').value.decide (.property t m) ≠ .allowed ↔
              d.presets ≠ [] ∧ ∃ n ∈ Preset.cms.blockedProperties, SameName n m) := by
  constructor
  · intro c t m hvetoed
    rw [Policy.decide_strict, Policy.decide_legacy]
    exact Findings.strictVerdict_narrows t m (Configuration.blocksType_eq_false hvetoed)
  · intro d r s hmode h
    have hacceptable : d.Acceptable r := Document.exists_accept_iff.1 ⟨s, h⟩
    obtain ⟨s', h'⟩ := Document.exists_accept_iff.2 hacceptable.inLegacy
    have hcompile := Document.compile_of_accept h
    have hcompile' := Document.compile_of_accept h'
    refine ⟨s', h', .of_holds fun e he => ?_, fun t m => ⟨?_, ?_⟩⟩
    · rw [(Document.holds_compile hcompile).2, (Document.holds_compile hcompile').2,
        Document.saidBy_clauses_inMode_iff he]
    · rw [Document.decide_start hcompile, Document.decide_start hcompile', hmode]
      exact Document.strictVerdict_narrows_inLegacy (hacceptable.strictTypes hmode) t m
    · rw [Document.decide_start hcompile']
      exact Document.legacyVerdict_inLegacy_ne_allowed_iff (hacceptable.strictProperties hmode) t m

/-- A configuration that vetoes another type, and a document with the preset: what they admit stays
allowed, what they veto stays vetoed, and passwords become private. -/
theorem strict_narrows_legacy_page :
    let c : Configuration := { allowed := [.fold "show"], blockedTypes := [⟨5, "app::Socket"⟩] }
    let d : Document := { version := 1, presets := [.cms], allowedMethods := ["show", "save"] }
    let t : Target := { type := ⟨7, "app::Page"⟩ }
    (Policy.legacy c).decide (.method t "Show") = .allowed ∧
    ∃ s s', (d.accept ⟨[]⟩).value = .ok s ∧ ((d.inMode .legacy).accept ⟨[]⟩).value = .ok s' ∧
      (Sandbox.start s').value.decide (.method t "Show") = .allowed ∧
      (Sandbox.start s').value.decide (.method t "Save") =
        .denied ⟨"Page", "Save", .method, .blockedName⟩ ∧
      (Sandbox.start s').value.decide (.property t "PassWord") ≠ .allowed := by
  intro c d t
  have hvetoed : ∀ k ∈ c.blockedTypes, ¬t.IsA k := by decide +kernel
  have hshow : (Policy.strict c).decide (.method t "Show") = .allowed := by decide +kernel
  obtain ⟨s, h⟩ : ∃ s, (d.accept ⟨[]⟩).value = .ok s :=
    Document.exists_accept_iff.2 (Document.violations_eq_nil_iff.1 (by decide +kernel))
  obtain ⟨s', h', _, hdecide⟩ := strict_narrows_legacy.2 d ⟨[]⟩ s rfl h
  have hstart := Document.decide_start (Document.compile_of_accept h)
  refine ⟨(strict_narrows_legacy.1 c t "Show" hvetoed).allowed hshow, s, s', h, h', ?_, ?_, ?_⟩
  · exact (hdecide t "Show").1.allowed ((hstart _).trans (by decide +kernel))
  · exact (hdecide t "Save").1.denied _ ((hstart _).trans (by decide +kernel)) nofun
  · exact (hdecide t "PassWord").2.2 (by decide +kernel)

end TemplateSandbox
