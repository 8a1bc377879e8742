/-
# What is said when a sandbox starts

A sandbox that starts says so, and warns of what its mode makes of the rules:

| mode | warning | then |
| --- | --- | --- |
| strict | some rules are for the legacy mode, if there are such | it is ready |
| legacy | unlisted members are allowed, always | it is ready |

Rules for the legacy mode come by a call of their own, by a preset that is taken
in for that mode, or by a merge (`Rule.addsLegacy`), and by each of these ways the
configuration comes to have some (`Rule.hasLegacyRules_of_build`). From a document
for strict mode none of them can come: it lists none, and its presets are taken in
for strict mode (`Document.hasLegacyRules_of_accept`). So a sandbox that is
started with a loaded document has nothing to warn of but its own mode.
-/

import TemplateSandbox.Load
import TemplateSandbox.Proofs.Migration
import TemplateSandbox.Proofs.RuleSet

namespace TemplateSandbox

/-! ### Rules that only the legacy mode knows -/

/-- Whether a clause is of a kind that only the legacy mode knows. -/
def Clause.forLegacy : Clause → Bool
  | .blockType _ | .blockProperty _ => true
  | _ => false

namespace Rule

mutual

/-- The rule adds something that only the legacy mode knows: by itself, by a preset that is taken
in for that mode, or by what it merges. -/
def addsLegacy : Rule → Bool
  | .trust _ | .allow _ | .block _ | .blockOn _ _ => false
  | .blockType _ => true
  | .blockProperties names => !names.isEmpty
  | .preset _ mode => mode = .legacy
  | .merge rules => someAddsLegacy rules

/-- One of the rules adds something that only the legacy mode knows. -/
def someAddsLegacy : List Rule → Bool
  | [] => false
  | rule :: rest => addsLegacy rule || someAddsLegacy rest

end

end Rule

/-- Of clauses that are made in one way of names, some are for the legacy mode if the way is and
there is a name. -/
theorem any_forLegacy_map {α : Type} {f : α → Clause} {b : Bool}
    (h : ∀ x, (f x).forLegacy = b) (xs : List α) :
    (xs.map f).any Clause.forLegacy = (b && !xs.isEmpty) := by
  cases b with
  | false => simp [h]
  | true => cases xs <;> simp [h]

/-- A preset has clauses for the legacy mode exactly if it is taken in for that mode. -/
theorem Preset.any_forLegacy_clauses (p : Preset) (mode : Mode) :
    (p.clauses mode).any Clause.forLegacy = decide (mode = .legacy) := by
  have hallow := any_forLegacy_map (f := .allow) (fun _ => rfl) p.allowed
  have hblock := any_forLegacy_map (f := .block) (fun _ => rfl) p.blocked
  have hproperties := any_forLegacy_map (f := .blockProperty) (fun _ => rfl) p.blockedProperties
  cases p
  cases mode with
  | strict => rw [clauses, List.any_append, List.any_append, hallow, hblock]; rfl
  | legacy => rw [clauses, List.any_append, List.any_append, hallow, hblock, hproperties]; rfl

namespace Rule

mutual

/-- A rule adds something for the legacy mode exactly if one of its clauses is for that mode. -/
theorem addsLegacy_eq : ∀ rule : Rule, rule.addsLegacy = rule.clauses.any Clause.forLegacy
  | .trust _ | .blockType _ => rfl
  | .allow names => by simp [addsLegacy, clauses, Clause.forLegacy]
  | .block names => by simp [addsLegacy, clauses, Clause.forLegacy]
  | .blockOn k names => by simp [addsLegacy, clauses, Clause.forLegacy]
  | .blockProperties names => by
    rw [addsLegacy, clauses, any_forLegacy_map (f := .blockProperty) (fun _ => rfl), Bool.true_and]
  | .preset p mode => by rw [addsLegacy, clauses, Preset.any_forLegacy_clauses]
  | .merge rules => by rw [addsLegacy, clauses, someAddsLegacy_eq rules]

/-- One of some rules does so exactly if one of all their clauses is for the legacy mode. -/
theorem someAddsLegacy_eq : ∀ rules : List Rule,
    someAddsLegacy rules = (clausesAll rules).any Clause.forLegacy
  | [] => rfl
  | rule :: rest => by
    rw [someAddsLegacy, addsLegacy_eq rule, someAddsLegacy_eq rest, clausesAll, List.any_append]

end

end Rule

/-- A configuration that holds certain clauses has rules for the legacy mode exactly if one of
these is for that mode. -/
theorem Configuration.hasLegacyRules_of_holds {c : Configuration} {cs : List Clause}
    (h : ∀ e : Clause, c.Holds e ↔ e.SaidBy cs) :
    c.hasLegacyRules = cs.any Clause.forLegacy := by
  rw [Bool.eq_iff_iff, hasLegacyRules_iff, List.any_eq_true]
  constructor
  · rintro (⟨k, hk⟩ | ⟨n, hn⟩)
    · obtain ⟨e, he, hsame⟩ := (h _).1 hk
      cases e <;> first | exact hsame.elim | exact ⟨_, he, rfl⟩
    · obtain ⟨e, he, hsame⟩ := (h _).1 hn
      cases e <;> first | exact hsame.elim | exact ⟨_, he, rfl⟩
  · rintro ⟨e, he, hlegacy⟩
    have hheld : c.Holds e := (h e).2 ⟨e, he, .refl e⟩
    cases e with
    | blockType k => exact .inl ⟨k, hheld⟩
    | blockProperty n => exact .inr ⟨n, hheld⟩
    | _ => cases hlegacy

/-- **What rules build has rules for the legacy mode exactly if one of them adds some.** -/
theorem Rule.hasLegacyRules_of_build {rules : List Rule} {c : Configuration}
    (h : build rules = .ok c) : c.hasLegacyRules = someAddsLegacy rules :=
  (Configuration.hasLegacyRules_of_holds (holds_build h)).trans (someAddsLegacy_eq rules).symm

/-- What is said of named types is for the legacy mode only if one of the ways to say it is. -/
theorem Registry.any_forLegacy_clausesOf {α : Type} {r : Registry} {name : α → String}
    {say : α → TypeTag → List Clause} (h : ∀ x k, (say x k).any Clause.forLegacy = false)
    (xs : List α) : (r.clausesOf name say xs).any Clause.forLegacy = false := by
  rw [clausesOf, List.any_flatMap, List.any_eq_false]
  intro x _
  cases r.resolve (name x) with
  | ok k => simp [h x k]
  | error fault => simp

/-- **A document that is accepted for strict mode brings no rule that strict mode ignores.** -/
theorem Document.hasLegacyRules_of_accept {d : Document} {r : Registry} {s : Settings}
    (hmode : d.mode = .strict) (h : (d.accept r).value = .ok s) :
    s.config.hasLegacyRules = false := by
  have hacceptable : d.Acceptable r := exists_accept_iff.1 ⟨s, h⟩
  obtain ⟨-, hholds⟩ := holds_compile (compile_of_accept h)
  have hpresets : (d.presets.flatMap fun p => p.clauses d.mode).any Clause.forLegacy = false := by
    simp [List.any_flatMap, Preset.any_forLegacy_clauses, hmode]
  have htrusted : (r.clausesOf id (fun _ k => [.trust k]) d.trustedTypes).any
      Clause.forLegacy = false := Registry.any_forLegacy_clausesOf (fun _ _ => rfl) _
  have hbyType : (r.clausesOf Prod.fst (fun entry k => entry.2.map (.blockOn k))
      d.blockedByType.entries).any Clause.forLegacy = false :=
    Registry.any_forLegacy_clausesOf
      (fun _ k => any_forLegacy_map (f := .blockOn k) (fun _ => rfl) _) _
  have hallowed := any_forLegacy_map (f := .allow) (fun _ => rfl) d.allowedMethods
  have hblocked := any_forLegacy_map (f := .block) (fun _ => rfl) d.blockedMethods
  rw [Configuration.hasLegacyRules_of_holds hholds, clauses, hacceptable.strictTypes hmode,
    hacceptable.strictProperties hmode]
  simp only [List.any_append, hpresets, htrusted, hbyType, hallowed, hblocked]
  rfl

/-! ### The lines of the log -/

/-- An event as the host logs it: its level, its wording and its fields. -/
def Event.line (e : Event) : Level × String × List (String × Event.Field) :=
  (e.level, e.message, e.fields)

/-- What is said of a mode when a sandbox starts without rules that the mode ignores. -/
def Mode.startLines : Mode → List (Level × String × List (String × Event.Field))
  | .strict => [(.info, "template sandbox ready", [("mode", .text "strict")])]
  | .legacy =>
    [(.warn, "legacy sandbox policy active: unlisted members are allowed", []),
     (.info, "template sandbox ready", [("mode", .text "legacy")])]

namespace Sandbox

/-- What the strict engine ignores comes first, and then what is said of the mode. -/
theorem lines_start (s : Settings) :
    (start s).events.map Event.line =
      (if s.mode = .strict ∧ s.config.hasLegacyRules = true then
        [(.warn, "blocked types/properties are ignored by the strict policy", [])] else []) ++
      s.mode.startLines := by
  obtain ⟨mode, c⟩ := s
  cases mode with
  | strict =>
    cases hlegacy : c.hasLegacyRules <;>
      simp [start, warnings, Policy.ofMode, Policy.ofStrict, hlegacy, Event.line, Event.level,
        Event.message, Event.fields, Mode.startLines, Mode.label]
  | legacy => rfl

/-- A sandbox has the mode that it was started with. -/
theorem mode_start (s : Settings) : (start s).value.mode = s.mode := by
  obtain ⟨mode, c⟩ := s
  cases mode <;> rfl

/-- Settings that were loaded are started. -/
theorem value_ofLoaded {loaded : Logged (Except Fault Settings)} {s : Settings}
    (h : loaded.value = .ok s) : (ofLoaded loaded).value = .ok (start s).value := by
  rw [ofLoaded, Logged.value_andThen, h]

/-- What is loaded and started was accepted; the report of that comes before what is said of the
start. -/
theorem ofLoaded_accept {d : Document} {r : Registry} {sandbox : Sandbox}
    (h : (ofLoaded (d.accept r)).value = .ok sandbox) :
    ∃ s, (d.accept r).value = .ok s ∧ s.mode = d.mode ∧ sandbox = (start s).value ∧
      (ofLoaded (d.accept r)).events =
        .policyLoaded d.mode d.presets.length d.trustedTypes.length :: (start s).events := by
  have haccept : ∃ s, (d.accept r).value = .ok s := by
    cases hvalue : (d.accept r).value with
    | ok s => exact ⟨s, rfl⟩
    | error fault => simp [ofLoaded, hvalue, Logged.silent] at h
  obtain ⟨s, hs⟩ := haccept
  have hmode : s.mode = d.mode := (Document.holds_compile (Document.compile_of_accept hs)).1
  have hevents : (d.accept r).events =
      [.policyLoaded s.mode d.presets.length d.trustedTypes.length] := by
    rw [Document.events_accept, hs, Document.reportsOf]
  refine ⟨s, hs, hmode, Except.ok.inj (h.symm.trans (value_ofLoaded hs)), ?_⟩
  simp [ofLoaded, hs, hevents, hmode]

end Sandbox

namespace Format

/-- A sandbox over what was loaded from a text says what was loaded, and then what there is to say
of its mode. -/
theorem lines_of_ofLoaded {format : Format} {text : String} {r : Registry} {sandbox : Sandbox}
    (h : (Sandbox.ofLoaded (format.load text r)).value = .ok sandbox) :
    ∃ d, format.read text = .ok d ∧ sandbox.mode = d.mode ∧
      (Sandbox.ofLoaded (format.load text r)).events.map Event.line =
        (.debug, "policy file loaded",
          [("mode", .text d.mode.label), ("presets", .count d.presets.length),
           ("trusted_types", .count d.trustedTypes.length)]) :: d.mode.startLines := by
  cases hread : format.read text with
  | error f => simp [load, hread, Sandbox.ofLoaded, Logged.silent] at h
  | ok d =>
    rw [load_of_read hread] at h ⊢
    obtain ⟨s, hs, hmode, rfl, hevents⟩ := Sandbox.ofLoaded_accept h
    have hquiet : ¬(s.mode = .strict ∧ s.config.hasLegacyRules = true) := by
      rintro ⟨hstrict, hlegacy⟩
      rw [Document.hasLegacyRules_of_accept (hmode ▸ hstrict) hs] at hlegacy
      cases hlegacy
    refine ⟨d, rfl, hmode ▸ Sandbox.mode_start s, ?_⟩
    rw [hevents, List.map_cons, Sandbox.lines_start, if_neg hquiet, List.nil_append, hmode]
    rfl

/-- What is loaded from a file is loaded from the text in it. -/
theorem exists_text_of_loadFile {path : String} {content : Except String ByteArray} {r : Registry}
    {sandbox : Sandbox} (h : (Sandbox.ofLoaded (loadFile path content r)).value = .ok sandbox) :
    ∃ text, loadFile path content r = (ofPath path).load text r := by
  unfold loadFile at h ⊢
  cases content with
  | error why => simp [Sandbox.ofLoaded, Logged.silent] at h
  | ok octets =>
    cases htext : String.fromUTF8? octets with
    | none => simp [htext, Sandbox.ofLoaded, Logged.silent] at h
    | some text => exact ⟨text, by simp only [htext]⟩

end Format

/-- **Starting a sandbox says what there is to say, and no more.** A document that is accepted for
strict mode brings no rule that strict mode ignores. A sandbox over a configuration that rules
build warns in strict mode exactly if one of them adds something for the legacy mode, and in legacy
mode always of that mode. A sandbox over what was loaded from a text, which may be that of a file,
says what was loaded, and then only what there is to say of its mode. -/
theorem lines_of_start :
    (∀ (d : Document) (r : Registry) (s : Settings), d.mode = .strict →
      (d.accept r).value = .ok s → s.config.hasLegacyRules = false) ∧
    (∀ (rules : List Rule) (c : Configuration), Rule.build rules = .ok c →
      (Sandbox.start ⟨.strict, c⟩).events.map Event.line =
        (if Rule.someAddsLegacy rules then
          [(.warn, "blocked types/properties are ignored by the strict policy", [])] else []) ++
        [(.info, "template sandbox ready", [("mode", .text "strict")])] ∧
      (Sandbox.start ⟨.legacy, c⟩).events.map Event.line =
        [(.warn, "legacy sandbox policy active: unlisted members are allowed", []),
         (.info, "template sandbox ready", [("mode", .text "legacy")])]) ∧
    (∀ (format : Format) (text : String) (r : Registry) (sandbox : Sandbox),
      (Sandbox.ofLoaded (format.load text r)).value = .ok sandbox →
        ∃ d, format.read text = .ok d ∧ sandbox.mode = d.mode ∧
          (Sandbox.ofLoaded (format.load text r)).events.map Event.line =
            (.debug, "policy file loaded",
              [("mode", .text d.mode.label), ("presets", .count d.presets.length),
               ("trusted_types", .count d.trustedTypes.length)]) :: d.mode.startLines) ∧
    ∀ (path : String) (content : Except String ByteArray) (r : Registry) (sandbox : Sandbox),
      (Sandbox.ofLoaded (Format.loadFile path content r)).value = .ok sandbox →
        ∃ text, Format.loadFile path content r = (Format.ofPath path).load text r := by
  refine ⟨fun d r s => Document.hasLegacyRules_of_accept, fun rules c h => ?_,
    fun format text r sandbox => Format.lines_of_ofLoaded,
    fun path content r sandbox => Format.exists_text_of_loadFile⟩
  have hlegacy : c.hasLegacyRules = Rule.someAddsLegacy rules := Rule.hasLegacyRules_of_build h
  constructor
  · rw [Sandbox.lines_start]
    simp [hlegacy, Mode.startLines]
  · rw [Sandbox.lines_start]
    simp [Mode.startLines]

/-- Rules of a preset for legacy mode that come by a merge are seen; the same preset in a document
for strict mode brings none of them; and a short text is loaded without a warning. -/
theorem lines_of_start_preset :
    let d : Document := { version := 1, presets := [.cms] }
    let text := "\x7b\"version\": 1, \"presets\": [\"cms\"]\x7d"
    ∃ c s sandbox, Rule.build [.allow ["show"], .merge [.preset .cms .legacy]] = .ok c ∧
      (Sandbox.start ⟨.strict, c⟩).events.map Event.line =
        [(.warn, "blocked types/properties are ignored by the strict policy", []),
         (.info, "template sandbox ready", [("mode", .text "strict")])] ∧
      (d.accept ⟨[]⟩).value = .ok s ∧ s.config.hasLegacyRules = false ∧
      (Sandbox.ofLoaded (Format.json.load text ⟨[]⟩)).value = .ok sandbox ∧
      (Sandbox.ofLoaded (Format.json.load text ⟨[]⟩)).events.map Event.line =
        [(.debug, "policy file loaded",
           [("mode", .text "strict"), ("presets", .count 1), ("trusted_types", .count 0)]),
         (.info, "template sandbox ready", [("mode", .text "strict")])] := by
  intro d text
  obtain ⟨hstrict, hrules, htext, -⟩ := lines_of_start
  have hread : Format.json.read text = .ok d := by decide +kernel
  have hfit : Clause.AllFit (Rule.clausesAll [.allow ["show"], .merge [.preset .cms .legacy]]) := by
    have hshow : Clause.AllFit [.allow "show"] := by decide +kernel
    have hpreset := Preset.allFit_clauses .cms .legacy
    rw [Rule.clausesAll, Clause.allFit_append]
    exact ⟨hshow, by simpa [Rule.clausesAll, Rule.clauses] using hpreset⟩
  obtain ⟨c, hc⟩ := Rule.exists_build_iff.2 hfit
  obtain ⟨s, hs⟩ : ∃ s, (d.accept ⟨[]⟩).value = .ok s :=
    Document.exists_accept_iff.2 (Document.violations_eq_nil_iff.1 (by decide +kernel))
  have hsandbox : (Sandbox.ofLoaded (Format.json.load text ⟨[]⟩)).value =
      .ok (Sandbox.start s).value := by
    rw [Format.load_of_read hread, Sandbox.value_ofLoaded hs]
  obtain ⟨d', hd', -, hlines⟩ := htext .json text ⟨[]⟩ _ hsandbox
  obtain rfl : d = d' := Except.ok.inj (hread.symm.trans hd')
  exact ⟨c, s, _, hc, (hrules _ c hc).1, hs, hstrict d ⟨[]⟩ s rfl hs, hsandbox, hlines⟩

end TemplateSandbox
