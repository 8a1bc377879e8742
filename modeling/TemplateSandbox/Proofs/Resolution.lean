/-
# What loading asks of a registry

A document names types, and a registry says which types these are. Loading asks
it for the names in the document and for no other (`Document.typeNames`), and
what it keeps of an answer is an identity. So registries that resolve these names
alike, to types of one identity or not at all, load the document alike
(`Document.sameOutcome_compile`, `Document.loadedAs_of_resolveAlike`): with one
fault, or to settings that act as one (`Settings.ActsAs`).

| step | keeps |
| --- | --- |
| resolving a name | one identity, or one fault |
| taking a type into a draft | the sets of the draft, paths apart |
| resolving a list of names | the same, name by name, or the first fault |
| building | all of it: it looks at member names alone |

What a path can do in the end is nothing: configurations that differ in the paths
of their types give the same answers (`Configuration.SameButPaths.answersAs`).
-/

import TemplateSandbox.Proofs.Acceptance
import TemplateSandbox.Proofs.Registrations
import TemplateSandbox.Proofs.RuleSet
import TemplateSandbox.Proofs.Verdict

namespace TemplateSandbox

/-! ### Outcomes that cannot be told apart -/

/-- Two outcomes are one fault, or successes that are related. -/
def SameOutcome {α β : Type} (R : α → β → Prop) : Except Fault α → Except Fault β → Prop
  | .ok a, .ok b => R a b
  | .error fault, .error fault' => fault = fault'
  | _, _ => False

namespace SameOutcome

variable {α β γ δ : Type} {R : α → β → Prop} {S : γ → δ → Prop} {x : Except Fault α}
  {y : Except Fault β}

/-- Steps with one outcome that go on with one outcome end in one. -/
theorem bind {f : α → Except Fault γ} {g : β → Except Fault δ} (h : SameOutcome R x y)
    (hfg : ∀ a b, R a b → SameOutcome S (f a) (g b)) : SameOutcome S (x >>= f) (y >>= g) :=
  match x, y, h with
  | .ok a, .ok b, h => hfg a b h
  | .error _, .error _, h => h

end SameOutcome

/-! ### Sets seen through what counts of their elements -/

section Lists

variable {α β : Type} [BEq α] [BEq β] [LawfulBEq β] {f : α → β}

/-- Where elements are compared by what counts of them, so are the elements of a set. -/
theorem contains_map_eq (hf : ∀ {a b : α}, (a == b) = true ↔ f a = f b) (xs : List α) (a : α) :
    (xs.map f).contains (f a) = xs.contains a := by
  rw [Bool.eq_iff_iff, List.contains_iff_mem, List.mem_map, List.contains_iff_exists_mem_beq]
  constructor
  · rintro ⟨b, hb, heq⟩
    exact ⟨b, hb, hf.2 heq.symm⟩
  · rintro ⟨b, hb, heq⟩
    exact ⟨b, hb, (hf.1 heq).symm⟩

theorem map_insert (hf : ∀ {a b : α}, (a == b) = true ↔ f a = f b) (xs : List α) (a : α) :
    (xs.insert a).map f = (xs.map f).insert (f a) := by
  unfold List.insert
  rw [contains_map_eq hf]
  split
  · rfl
  · rw [List.map_cons]

end Lists

/-! ### Configurations that differ in the paths of their types -/

namespace NamesByType

/-- What counts of an entry: the identity of the type, and the names. -/
def byId (entry : TypeTag × List MemberName) : Nat × List MemberName := (entry.1.id, entry.2)

/-- Adding to entries that differ in paths gives entries that differ in paths. -/
theorem map_byId_extend {k l : TypeTag} (hkl : k.id = l.id) (names : List MemberName)
    {entries entries' : List (TypeTag × List MemberName)}
    (h : entries.map byId = entries'.map byId) :
    (extend k names entries).map byId = (extend l names entries').map byId := by
  induction entries generalizing entries' with
  | nil =>
    obtain rfl := List.map_eq_nil_iff.1 h.symm
    exact congrArg (fun id => [(id, insertAll names [])]) hkl
  | cons entry rest ih =>
    cases entries' with
    | nil => cases h
    | cons entry' rest' =>
      obtain ⟨hentry, hrest⟩ := List.cons.inj h
      obtain ⟨hid, hnames⟩ := Prod.mk.inj hentry
      have hsame : (entry.1 == k) = (entry'.1 == l) := by
        rw [Bool.eq_iff_iff, TypeTag.beq_iff, TypeTag.beq_iff, hid, hkl]
      unfold extend
      rw [hsame]
      split
      · rw [List.map_cons, List.map_cons, hrest, byId, byId, hid, hnames]
      · rw [List.map_cons, List.map_cons, hentry, ih hrest]

/-- Where maps differ in paths alone, they list the same. -/
theorem lists_eq_of_byId {m m' : NamesByType} (h : m.entries.map byId = m'.entries.map byId)
    (k : TypeTag) (n : MemberName) : m.lists k n = m'.lists k n := by
  have hlists : ∀ m : NamesByType,
      m.lists k n = true ↔ ∃ entry ∈ m.entries.map byId, entry.1 = k.id ∧ n ∈ entry.2 := by
    intro m
    simp only [lists_iff, List.mem_map, exists_exists_and_eq_and, byId]
  rw [Bool.eq_iff_iff, hlists, hlists, h]

end NamesByType

namespace Configuration

/-- Two configurations have the same elements in the same order; the paths of their types may
differ. -/
structure SameButPaths (c c' : Configuration) : Prop where
  trusted : c.trusted.map TypeTag.id = c'.trusted.map TypeTag.id
  allowed : c.allowed = c'.allowed
  blocked : c.blocked = c'.blocked
  blockedFor :
    c.blockedFor.entries.map NamesByType.byId = c'.blockedFor.entries.map NamesByType.byId
  blockedTypes : c.blockedTypes.map TypeTag.id = c'.blockedTypes.map TypeTag.id
  blockedProperties : c.blockedProperties = c'.blockedProperties

namespace SameButPaths

variable {c c' : Configuration}

theorem refl (c : Configuration) : c.SameButPaths c := ⟨rfl, rfl, rfl, rfl, rfl, rfl⟩

/-- The member names are the same, in the same order. -/
theorem memberNames_eq (h : c.SameButPaths c') : c.memberNames = c'.memberNames := by
  have hall : ∀ m : NamesByType, m.all = (m.entries.map NamesByType.byId).flatMap Prod.snd := by
    intro m
    rw [List.flatMap_map]
    rfl
  rw [memberNames, memberNames, h.allowed, h.blocked, h.blockedProperties, hall, h.blockedFor,
    ← hall]

/-- **No answer hangs on a path.** -/
theorem answersAs (h : c.SameButPaths c') : c.AnswersAs c' := by
  have hid : ∀ {k l : TypeTag}, (k == l) = true ↔ k.id = l.id := TypeTag.beq_iff
  have htrusted : ∀ k, c.trusted.contains k = c'.trusted.contains k := fun k => by
    rw [← contains_map_eq hid, h.trusted, contains_map_eq hid]
  have hfor : ∀ k n, c.blockedFor.lists k n = c'.blockedFor.lists k n :=
    NamesByType.lists_eq_of_byId h.blockedFor
  have htypes : ∀ k, c.blockedTypes.contains k = c'.blockedTypes.contains k := fun k => by
    rw [← contains_map_eq hid, h.blockedTypes, contains_map_eq hid]
  have hempty : c.blockedTypes.isEmpty = c'.blockedTypes.isEmpty := by
    rw [← List.isEmpty_map (f := TypeTag.id), h.blockedTypes, List.isEmpty_map]
  exact
    { trusts := fun t => congrArg t.lineage.any (funext htrusted)
      blocksOn := fun t n => congrArg t.lineage.any (funext fun k => hfor k n)
      blocksType := fun t => congrArg t.lineage.any (funext htypes)
      allows := fun n => congrArg (List.contains · n) h.allowed
      blocks := fun n => congrArg (List.contains · n) h.blocked
      blocksProperty := fun n => congrArg (List.contains · n) h.blockedProperties
      hasLegacyRules := by rw [hasLegacyRules, hasLegacyRules, hempty, h.blockedProperties]
      trusted := .of_eq h.trusted
      allowed := .of_eq h.allowed
      blocked := .of_eq h.blocked
      blockedTypes := .of_eq h.blockedTypes }

/-! ### Calls on two drafts at once -/

variable {d d' : Draft} {k l : TypeTag}

theorem trust (h : d.soFar.SameButPaths d'.soFar) (hkl : k.id = l.id) :
    (d.trust k).soFar.SameButPaths (d'.trust l).soFar where
  __ := h
  trusted := by
    show (d.soFar.trusted.insert k).map TypeTag.id = (d'.soFar.trusted.insert l).map TypeTag.id
    rw [map_insert TypeTag.beq_iff, map_insert TypeTag.beq_iff, h.trusted, hkl]

theorem blockType (h : d.soFar.SameButPaths d'.soFar) (hkl : k.id = l.id) :
    (d.blockType k).soFar.SameButPaths (d'.blockType l).soFar where
  __ := h
  blockedTypes := by
    show (d.soFar.blockedTypes.insert k).map TypeTag.id =
      (d'.soFar.blockedTypes.insert l).map TypeTag.id
    rw [map_insert TypeTag.beq_iff, map_insert TypeTag.beq_iff, h.blockedTypes, hkl]

theorem blockOn (h : d.soFar.SameButPaths d'.soFar) (hkl : k.id = l.id) (names : List String) :
    (d.blockOn k names).soFar.SameButPaths (d'.blockOn l names).soFar where
  __ := h
  blockedFor := NamesByType.map_byId_extend hkl (names.map .fold) h.blockedFor

theorem allow (h : d.soFar.SameButPaths d'.soFar) (names : List String) :
    (d.allow names).soFar.SameButPaths (d'.allow names).soFar where
  __ := h
  allowed := congrArg (insertAll _) h.allowed

theorem block (h : d.soFar.SameButPaths d'.soFar) (names : List String) :
    (d.block names).soFar.SameButPaths (d'.block names).soFar where
  __ := h
  blocked := congrArg (insertAll _) h.blocked

theorem blockProperties (h : d.soFar.SameButPaths d'.soFar) (names : List String) :
    (d.blockProperties names).soFar.SameButPaths (d'.blockProperties names).soFar where
  __ := h
  blockedProperties := congrArg (insertAll _) h.blockedProperties

/-- Building looks at member names alone, so it finds the same fault or none. -/
theorem build (h : d.soFar.SameButPaths d'.soFar) :
    SameOutcome SameButPaths d.build d'.build := by
  unfold Draft.build
  rw [h.memberNames_eq]
  cases d'.soFar.memberNames.findSome? fun n => NameFault.find? n.text with
  | none => exact h
  | some fault => rfl

end SameButPaths
end Configuration

/-! ### Settings that act as one -/

/-- Two configurations that answer alike lead to the same findings. -/
theorem Findings.ofConfiguration_eq_of_answersAs {c c' : Configuration} (h : c.AnswersAs c')
    (t : Target) (m : String) : ofConfiguration c t m = ofConfiguration c' t m := by
  simp only [ofConfiguration, Configuration.admits, h.trusts, h.allows, h.blocksOn, h.blocksType,
    h.blocks, h.blocksProperty]

/-- Settings have one mode, their configurations answer alike, and the sandboxes that are started
with them say the same of themselves and decide the same. -/
structure Settings.ActsAs (s s' : Settings) : Prop where
  mode : s.mode = s'.mode
  answers : s.config.AnswersAs s'.config
  events : (Sandbox.start s).events = (Sandbox.start s').events
  decide : ∀ a, (Sandbox.start s).value.decide a = (Sandbox.start s').value.decide a

theorem Settings.actsAs_of_sameButPaths {s s' : Settings} (hmode : s.mode = s'.mode)
    (hconfig : s.config.SameButPaths s'.config) : s.ActsAs s' := by
  obtain ⟨mode, c⟩ := s
  obtain ⟨mode', c'⟩ := s'
  obtain rfl : mode = mode' := hmode
  have hanswers : c.AnswersAs c' := hconfig.answersAs
  refine ⟨rfl, hanswers, ?_, fun a => ?_⟩
  · have hengine : (Policy.ofMode mode c).events = (Policy.ofMode mode c').events := by
      cases mode with
      | strict =>
        show (if c.hasLegacyRules then _ else _) = if c'.hasLegacyRules then _ else _
        rw [hanswers.hasLegacyRules]
      | legacy => rfl
    show Sandbox.warnings mode ++ _ ++ _ = Sandbox.warnings mode ++ _ ++ _
    rw [hengine]
  · show (Policy.ofMode mode c).value.decide a = (Policy.ofMode mode c').value.decide a
    rw [Policy.decide_ofMode, Policy.decide_ofMode,
      Findings.ofConfiguration_eq_of_answersAs hanswers]

/-- Two attempts to load end in one fault or in settings that act as one, and are reported alike. -/
structure LoadedAs (x y : Logged (Except Fault Settings)) : Prop where
  outcome : SameOutcome Settings.ActsAs x.value y.value
  events : x.events = y.events

/-! ### Registries that resolve some names alike -/

/-- Two registries resolve a name alike: to types of one identity, or not at all. -/
def Registry.ResolveAlike (r r' : Registry) (name : String) : Prop :=
  (r.find? name).map TypeTag.id = (r'.find? name).map TypeTag.id

instance (r r' : Registry) (name : String) : Decidable (r.ResolveAlike r' name) :=
  inferInstanceAs (Decidable (_ = _))

namespace Registry.ResolveAlike

variable {r r' : Registry} {name : String}

/-- A name that is resolved alike gives one identity, or one fault. -/
theorem sameOutcome (h : r.ResolveAlike r' name) :
    SameOutcome (fun k l => k.id = l.id) (r.resolve name) (r'.resolve name) := by
  unfold Registry.ResolveAlike at h
  unfold resolve
  cases hr : r.find? name with
  | none =>
    rw [hr, Option.map_none, eq_comm, Option.map_eq_none_iff] at h
    rw [h]
    rfl
  | some k =>
    rw [hr, Option.map_some, eq_comm, Option.map_eq_some_iff] at h
    obtain ⟨l, hl, hid⟩ := h
    rw [hl]
    exact hid.symm

end Registry.ResolveAlike

namespace Document

variable {d : Document} {r r' : Registry}

/-- Every name of a type in a document. -/
def typeNames (d : Document) : List String :=
  d.trustedTypes ++ d.blockedByType.entries.map Prod.fst ++ d.blockedTypes

/-- **Resolving a list of names asks for these names alone.** If they are resolved alike, drafts
that differ in paths take in types that differ in paths, up to the first fault. -/
theorem sameOutcome_resolveInto {α : Type} {name : α → String} {add : Draft → α → TypeTag → Draft}
    (hadd : ∀ {draft draft' : Draft} (x : α) {k l : TypeTag},
      draft.soFar.SameButPaths draft'.soFar → k.id = l.id →
        (add draft x k).soFar.SameButPaths (add draft' x l).soFar)
    {xs : List α} (hxs : ∀ x ∈ xs, r.ResolveAlike r' (name x)) {draft draft' : Draft}
    (h : draft.soFar.SameButPaths draft'.soFar) :
    SameOutcome (fun draft draft' => draft.soFar.SameButPaths draft'.soFar)
      (resolveInto r name add xs draft) (resolveInto r' name add xs draft') := by
  induction xs generalizing draft draft' with
  | nil => exact h
  | cons x rest ih =>
    obtain ⟨hx, hrest⟩ := List.forall_mem_cons.1 hxs
    exact hx.sameOutcome.bind fun k l hkl => ih hrest (hadd x h hkl)

/-- What is collected from a document under registries that resolve its names alike differs in
paths. -/
theorem sameOutcome_collect (h : ∀ name ∈ d.typeNames, r.ResolveAlike r' name) :
    SameOutcome (fun draft draft' => draft.soFar.SameButPaths draft'.soFar) (d.collect r)
      (d.collect r') := by
  simp only [typeNames, List.forall_mem_append, List.forall_mem_map] at h
  obtain ⟨⟨htrusted, hbyType⟩, hblocked⟩ := h
  unfold collect
  refine (sameOutcome_resolveInto (fun _ _ _ h hkl => h.trust hkl) htrusted (.refl _)).bind
    fun trusting trusting' htrusting => ?_
  refine (sameOutcome_resolveInto (fun entry _ _ h hkl => h.blockOn hkl entry.2) hbyType
    htrusting).bind fun blocking blocking' hblocking => ?_
  refine (sameOutcome_resolveInto (fun _ _ _ h hkl => h.blockType hkl) hblocked hblocking).bind
    fun barring barring' hbarring => ?_
  exact ((hbarring.allow _).block _).blockProperties _

/-- **Compiling asks for the names in the document alone**, be the document valid or not. -/
theorem sameOutcome_compile (h : ∀ name ∈ d.typeNames, r.ResolveAlike r' name) :
    SameOutcome Settings.ActsAs (d.compile r) (d.compile r') := by
  rw [compile_eq, compile_eq]
  refine (sameOutcome_collect h).bind fun draft draft' hdraft => ?_
  exact hdraft.build.bind fun c c' hc => Settings.actsAs_of_sameButPaths rfl hc

/-- Loading asks for the names in the document alone. -/
theorem loadedAs_of_resolveAlike (h : ∀ name ∈ d.typeNames, r.ResolveAlike r' name) :
    LoadedAs (d.accept r) (d.accept r') := by
  have houtcome : SameOutcome Settings.ActsAs (d.accept r).value (d.accept r').value := by
    rw [value_accept, value_accept]
    cases d.validate with
    | error fault => exact rfl
    | ok u => exact sameOutcome_compile h
  have hreports : ∀ x y, SameOutcome Settings.ActsAs x y → d.reportsOf x = d.reportsOf y
    | .ok s, .ok s', hs => by rw [reportsOf, reportsOf, hs.mode]
    | .error _, .error _, _ => rfl
  refine ⟨houtcome, ?_⟩
  rw [events_accept, events_accept]
  exact hreports _ _ houtcome

/-- A document that is accepted names types that the registry knows. -/
theorem knows_of_accept {s : Settings} (h : (d.accept r).value = .ok s) :
    ∀ name ∈ d.typeNames, r.Knows name := by
  have hacceptable : d.Acceptable r :=
    violations_eq_nil_iff.1 ((reports_accept d r).exists_ok_iff.1 ⟨s, h⟩)
  simp only [typeNames, List.forall_mem_append, List.forall_mem_map]
  exact ⟨⟨hacceptable.trustedKnown, hacceptable.byTypeKnown⟩, hacceptable.blockedKnown⟩

/-- A fault that is not about an unknown type is found without the registry. -/
theorem accept_eq_of_fault {fault : Fault} (h : (d.accept r).value = .error fault)
    (hfault : ∀ name, fault ≠ .unknownType name) (r' : Registry) : d.accept r' = d.accept r := by
  obtain ⟨v, hhead, hv⟩ :=
    Option.map_eq_some_iff.1 (((reports_accept d r).error_iff fault).1 h)
  -- Every violation by a type is of the other kind, so the first one is by something else.
  have hunknown : ∀ names, v ∉ r.unknown names := by
    intro names hmem
    obtain ⟨name, -, hname⟩ := List.mem_flatMap.1 hmem
    unfold Violation.whenNot at hname
    split at hname
    · exact List.not_mem_nil hname
    · obtain rfl := List.mem_singleton.1 hname
      exact hfault name hv.symm
  have hown : d.ownViolations.head? = some v := by
    rw [violations, List.head?_append] at hhead
    cases hviolations : d.ownViolations.head? with
    | some first =>
      rw [hviolations, Option.some_or] at hhead
      exact hhead
    | none =>
      rw [hviolations, Option.none_or] at hhead
      have hmem : v ∈ d.typeViolations r := List.mem_of_mem_head? hhead
      simp only [typeViolations, List.mem_append, hunknown, or_self] at hmem
  have hvalid : d.validate = .error fault :=
    ((reports_validate d).error_iff fault).2 (Option.map_eq_some_iff.2 ⟨v, hown, hv⟩)
  rw [accept_eq, accept_eq, hvalid]
  rfl

end Document

/-- Registries that are made by calls resolve a name alike if both gave it one identity last. -/
theorem resolveAlike_registerAll {calls calls' : Registrations} {name : String}
    (h : (calls.lastGiven? name).map TypeTag.id = (calls'.lastGiven? name).map TypeTag.id) :
    (Registry.registerAll calls {}).value.ResolveAlike (Registry.registerAll calls' {}).value
      name := by
  unfold Registry.ResolveAlike
  rw [(Registry.follows_registerAll calls).1.find? name,
    (Registry.follows_registerAll calls').1.find? name, h]

/-- Calls for new names leave what the old ones were given. -/
theorem lastGiven?_append_of_new {calls more : Registrations}
    (hnew : ∀ call ∈ more, call.1 ∉ calls.map Prod.fst) {name : String}
    (hname : name ∈ calls.map Prod.fst) :
    (calls ++ more).lastGiven? name = calls.lastGiven? name := by
  have hmore : more.lastGiven? name = none := by
    rw [Registrations.lastGiven?_eq_none_iff]
    intro hmem
    obtain ⟨call, hcall, rfl⟩ := List.mem_map.1 hmem
    exact hnew call hcall hname
  rw [Registrations.lastGiven?_append, hmore, Option.none_or]

/-- **Loading hangs on a registry through the names in the document alone.** Registries that resolve
these alike load the document alike: with one fault, or to settings that act as one, and with one
report; and so it is with compiling. Names that are new to a registry change nothing for a document
that loads, and neither does the order of the calls, as long as every name ends with a type of the
same identity. A fault of any other kind than an unknown type is found under every registry. -/
theorem load_by_typeNames :
    (∀ (d : Document) (r r' : Registry), (∀ name ∈ d.typeNames, r.ResolveAlike r' name) →
      LoadedAs (d.accept r) (d.accept r') ∧
        SameOutcome Settings.ActsAs (d.compile r) (d.compile r')) ∧
    (∀ (d : Document) (calls more : Registrations) (s : Settings),
      (d.accept (Registry.registerAll calls {}).value).value = .ok s →
        (∀ call ∈ more, call.1 ∉ calls.map Prod.fst) →
          LoadedAs (d.accept (Registry.registerAll calls {}).value)
            (d.accept (Registry.registerAll (calls ++ more) {}).value)) ∧
    (∀ (d : Document) (calls calls' : Registrations),
      (∀ name, (calls.lastGiven? name).map TypeTag.id = (calls'.lastGiven? name).map TypeTag.id) →
        LoadedAs (d.accept (Registry.registerAll calls {}).value)
          (d.accept (Registry.registerAll calls' {}).value)) ∧
    ∀ (d : Document) (r r' : Registry) (fault : Fault), (d.accept r).value = .error fault →
      (∀ name, fault ≠ .unknownType name) → d.accept r' = d.accept r := by
  refine ⟨fun d r r' h => ⟨Document.loadedAs_of_resolveAlike h, Document.sameOutcome_compile h⟩,
    fun d calls more s hs hnew => ?_, fun d calls calls' h => ?_,
    fun d r r' fault h hfault => Document.accept_eq_of_fault h hfault r'⟩
  · refine Document.loadedAs_of_resolveAlike fun name hname => resolveAlike_registerAll ?_
    obtain ⟨entry, hentry, hknown⟩ := Document.knows_of_accept hs name hname
    have hcalled : name ∈ calls.map Prod.fst := by
      rw [← (Registry.follows_registerAll calls).1.mem_names_iff]
      exact List.mem_map.2 ⟨entry, hentry, hknown⟩
    rw [lastGiven?_append_of_new hnew hcalled]
  · exact Document.loadedAs_of_resolveAlike fun name _ => resolveAlike_registerAll (h name)

/-- One document under a registry, under one with other paths and a name more, under one that went on
with a new name, and under one that gave a page two types in turn; and a document with a blank in a
name, which no registry makes good. -/
theorem load_by_typeNames_page :
    let d : Document := { version := 1, trustedTypes := ["Page"],
                          blockedByType := .ofList [("File", ["save"])] }
    let bad : Document := { d with allowedMethods := ["to html"] }
    let calls : Registrations := [("File", ⟨1, "a::File"⟩), ("Page", ⟨2, "a::Page"⟩)]
    let calls' : Registrations :=
      [("Page", ⟨1, "a::File"⟩), ("Page", ⟨2, "b::Page"⟩), ("File", ⟨1, "b::File"⟩)]
    let more : Registrations := [("page", ⟨1, "a::File"⟩)]
    let r : Registry := ⟨calls⟩
    let r' : Registry := ⟨[("Page", ⟨2, "Page"⟩), ("File", ⟨1, "File"⟩), ("Model", ⟨1, "Model"⟩)]⟩
    (∃ s, (d.accept r).value = .ok s) ∧ LoadedAs (d.accept r) (d.accept r') ∧
      LoadedAs (d.accept (Registry.registerAll calls {}).value)
        (d.accept (Registry.registerAll (calls ++ more) {}).value) ∧
      LoadedAs (d.accept (Registry.registerAll calls {}).value)
        (d.accept (Registry.registerAll calls' {}).value) ∧
      (bad.accept r').value = .error (.badConfig (.name (.blank "to html"))) ∧
      bad.accept ⟨[]⟩ = bad.accept r' := by
  intro d bad calls calls' more r r'
  obtain ⟨halike, hnew, hlast, hfault⟩ := load_by_typeNames
  have hloads : ∃ s, (d.accept r).value = .ok s :=
    (Document.reports_accept d r).exists_ok_iff.2 (by decide +kernel)
  obtain ⟨s, hs⟩ := hloads
  have hrun : (Registry.registerAll calls {}).value = r := rfl
  have hbad : (bad.accept r').value = .error (.badConfig (.name (.blank "to html"))) :=
    ((Document.reports_accept bad r').error_iff _).2 (by decide +kernel)
  have hgiven : ∀ name,
      (calls.lastGiven? name).map TypeTag.id = (calls'.lastGiven? name).map TypeTag.id := by
    intro name
    by_cases hfile : name = "File"
    · subst hfile
      rfl
    · by_cases hpage : name = "Page"
      · subst hpage
        rfl
      · have hnone : ∀ run : Registrations, run.map Prod.fst ⊆ ["File", "Page"] →
            run.lastGiven? name = none := fun run hrun =>
          Registrations.lastGiven?_eq_none_iff.2 fun hmem => by simpa [hfile, hpage] using hrun hmem
        rw [hnone calls (by decide), hnone calls' (by decide)]
  exact ⟨⟨s, hs⟩, (halike d r r' (by decide +kernel)).1,
    hnew d calls more s (hrun ▸ hs) (by decide), hlast d calls calls' hgiven, hbad,
    hfault bad r' ⟨[]⟩ _ hbad (by simp)⟩

end TemplateSandbox
