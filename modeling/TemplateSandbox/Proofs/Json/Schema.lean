/-
# What a policy in JSON looks like

The schema of a policy in JSON, said of values and without a reader
(`Json.Describes`): which members an object may have, and what the document then
holds. The order of the members does not occur in it.

| member | value | if it is missing |
| --- | --- | --- |
| `version` | a natural number of 32 bits | no policy |
| `mode` | `strict` or `legacy` | `strict` |
| `presets` | an array of `cms` | none |
| `blocked_by_type` | an object of arrays of strings | none |
| the other five | an array of strings | none |

A word may also be given as the one key of an object, with `null` under it. The
reader accepts exactly what the schema describes (`Json.readDocument_iff_describes`):
a value is read from its tree for a field exactly if it has the shape that the
field wants (`Json.readValue_tree_iff`), a shape has no numbers that are too large,
and the fields are read by name whatever their order.
-/

import TemplateSandbox.Load
import TemplateSandbox.Proofs.DocumentFields
import TemplateSandbox.Proofs.Json.Parsing
import TemplateSandbox.Proofs.TypeLists

namespace TemplateSandbox
namespace Json

open Document

/-! ### The shapes of values -/

namespace Value

/-- The value is the string. -/
def IsString (v : Value) (s : String) : Prop := v = .string s

/-- The value is an array, with an element of this kind for each of these. -/
def IsArrayOf {α : Type} (kind : Value → α → Prop) (v : Value) (as : List α) : Prop :=
  ∃ vs, v = .array vs ∧ List.Forall₂ kind vs as

/-- The value is an array of these strings. -/
def IsTexts : Value → List String → Prop := IsArrayOf IsString

/-- The value gives the word, as a string or as the one key of an object. -/
def IsWord (v : Value) (w : String) : Prop := v = .string w ∨ v = .object [(w, .null)]

/-- The value is the number, which has at most 32 bits. -/
def IsNumber32 (v : Value) (n : Nat) : Prop :=
  (∃ l : Number.Literal, v = .number l ∧ l.Writes n) ∧ n < twoTo 32

/-- The value is an object, with a member for each of these entries. -/
def IsObjectOf {α : Type} (kind : Value → α → Prop) (v : Value) (entries : List (String × α)) :
    Prop :=
  ∃ ms, v = .object ms ∧ List.Forall₂ (fun m e => m.1 = e.1 ∧ kind m.2 e.2) ms entries

/-- The value is an object of arrays of strings; of members with one name the last one counts. -/
def IsTypeLists (v : Value) (t : TypeLists) : Prop :=
  ∃ entries, v.IsObjectOf IsTexts entries ∧ ∀ e, e ∈ t.entries ↔ LastFor e entries

end Value

/-- A member with this name has a value of this kind, or there is none and the default holds. -/
def Given (members : List (String × Value)) (name : String) (kind : Value → Prop)
    (default : Prop) : Prop :=
  (∃ v, (name, v) ∈ members ∧ kind v) ∨ (name ∉ members.map Prod.fst ∧ default)

/-- The members of an object describe a policy. -/
structure Describes (members : List (String × Value)) (d : Document) : Prop where
  /-- Every member is one of the nine. -/
  known : ∀ m ∈ members, m.1 ∈ ["version", "mode", "presets", "trusted_types", "allowed_methods",
    "blocked_methods", "blocked_by_type", "blocked_types", "blocked_properties"]
  /-- No member occurs twice. -/
  once : (members.map Prod.fst).Nodup
  /-- The version must be given. -/
  version : ∃ v, ("version", v) ∈ members ∧ v.IsNumber32 d.version
  /-- The mode is strict unless another one is given. -/
  mode : Given members "mode" (·.IsWord d.mode.label) (d.mode = .strict)
  /-- There are the presets that are given. -/
  presets : Given members "presets" (·.IsArrayOf (fun v (p : Preset) => v.IsWord p.label) d.presets)
    (d.presets = [])
  /-- There are the trusted types that are given. -/
  trustedTypes : Given members "trusted_types" (·.IsTexts d.trustedTypes) (d.trustedTypes = [])
  /-- There are the allowed methods that are given. -/
  allowedMethods : Given members "allowed_methods" (·.IsTexts d.allowedMethods)
    (d.allowedMethods = [])
  /-- There are the blocked methods that are given. -/
  blockedMethods : Given members "blocked_methods" (·.IsTexts d.blockedMethods)
    (d.blockedMethods = [])
  /-- There are the types with blocked methods that are given. -/
  blockedByType : Given members "blocked_by_type" (·.IsTypeLists d.blockedByType)
    (d.blockedByType = .empty)
  /-- There are the blocked types that are given. -/
  blockedTypes : Given members "blocked_types" (·.IsTexts d.blockedTypes) (d.blockedTypes = [])
  /-- There are the blocked properties that are given. -/
  blockedProperties : Given members "blocked_properties" (·.IsTexts d.blockedProperties)
    (d.blockedProperties = [])

/-- What is described does not depend on the order of the members. -/
theorem Describes.perm {members members' : List (String × Value)} {d : Document}
    (h : Describes members d) (hperm : members.Perm members') : Describes members' d := by
  have hgiven : ∀ {name kind default}, Given members name kind default →
      Given members' name kind default := by
    rintro name kind default (⟨v, hv, hkind⟩ | ⟨hnot, hdefault⟩)
    · exact .inl ⟨v, hperm.mem_iff.1 hv, hkind⟩
    · exact .inr ⟨fun hmem => hnot ((hperm.map Prod.fst).mem_iff.2 hmem), hdefault⟩
  obtain ⟨v, hv, hversion⟩ := h.version
  exact {
    known := fun m hm => h.known m (hperm.mem_iff.2 hm)
    once := (hperm.map Prod.fst).nodup_iff.1 h.once
    version := ⟨v, hperm.mem_iff.1 hv, hversion⟩
    mode := hgiven h.mode
    presets := hgiven h.presets
    trustedTypes := hgiven h.trustedTypes
    allowedMethods := hgiven h.allowedMethods
    blockedMethods := hgiven h.blockedMethods
    blockedByType := hgiven h.blockedByType
    blockedTypes := hgiven h.blockedTypes
    blockedProperties := hgiven h.blockedProperties }

/-! ### What a tree answers -/

theorem unwanted_ne_ok {α : Type} (j : Json) (wanted : Wanted) (a : α) :
    j.unwanted wanted ≠ .ok a := by
  unfold unwanted
  split <;> nofun

theorem text_eq_ok_iff {j : Json} {s : String} : j.text = .ok s ↔ j = .string s := by
  cases j <;> simp [text, unwanted_ne_ok]

theorem elements_eq_ok_iff {j : Json} {items : List Json} :
    j.elements = .ok items ↔ j = .array items := by
  cases j <;> simp [elements, unwanted_ne_ok]

theorem entries_eq_ok_iff {j : Json} {members : List (Json × Json)} :
    j.entries = .ok members ↔ j = .object members := by
  cases j <;> simp [entries, unwanted_ne_ok]

theorem number32_eq_ok_iff {j : Json} {n : Nat} :
    j.number32 = .ok n ↔ j = .number (.natural n) ∧ n < twoTo 32 := by
  match j with
  | .number (.natural m) =>
    by_cases hm : m < twoTo 32
    · simp only [number32, if_pos hm, Except.ok.injEq, Json.number.injEq, Number.natural.injEq]
      exact ⟨fun h => ⟨h, h ▸ hm⟩, And.left⟩
    · simp only [number32, if_neg hm, reduceCtorEq, false_iff, Json.number.injEq,
        Number.natural.injEq, not_and]
      exact fun h => h ▸ hm
  | .number (.negative m) => simp [number32]
  | .number (.float minus x) => simp [number32, unwanted_ne_ok]
  | .cut | .null | .boolean _ | .string _ | .array _ | .object _ => simp [number32, unwanted_ne_ok]

theorem nothing_eq_ok_iff {j : Json} {rest : List (Json × Json)} :
    nothing j rest = .ok () ↔ j = .null ∧ rest = [] := by
  cases j <;> cases rest <;> simp [nothing, unwanted_ne_ok]

/-- A text is read if its tree is, and if nothing but space comes after its value. -/
theorem readText_eq_ok_iff {α : Type} {read : Json → Except ReadFault α} {text : String} {a : α} :
    readText read text = .ok a ↔ read (ofChars text.toList).1 = .ok a ∧
      ∃ rest, (ofChars text.toList).2 = some rest ∧ skipSpace rest = [] := by
  rw [readText]
  generalize ofChars text.toList = r
  obtain ⟨j, _ | rest⟩ := r
  · cases hj : read j <;> simp [hj]
  · by_cases hrest : skipSpace rest = [] <;> cases hj : read j <;> simp [hj, hrest]

/-! ### What is read from the tree of a value -/

variable {v : Value}

theorem tree_eq_null_iff : v.tree = .null ↔ v = .null := by
  cases v with
  | number l => cases h : Number.ofLiteral? l <;> simp [Value.tree, h]
  | _ => simp [Value.tree]

theorem tree_eq_string_iff {s : String} : v.tree = .string s ↔ v = .string s := by
  cases v with
  | number l => cases h : Number.ofLiteral? l <;> simp [Value.tree, h]
  | _ => simp [Value.tree]

theorem tree_eq_natural_iff {n : Nat} : v.tree = .number (.natural n) ↔
    ∃ l, v = .number l ∧ Number.ofLiteral? l = some (.natural n) := by
  cases v with
  | number l => cases h : Number.ofLiteral? l <;> simp [Value.tree, h]
  | _ => simp [Value.tree]

theorem tree_eq_array_iff {items : List Json} :
    v.tree = .array items ↔ ∃ vs, v = .array vs ∧ items = vs.map Value.tree := by
  cases v with
  | number l => cases h : Number.ofLiteral? l <;> simp [Value.tree, h]
  | array vs => simp [Value.tree, trees_eq_map, eq_comm]
  | _ => simp [Value.tree]

theorem tree_eq_object_iff {members : List (Json × Json)} :
    v.tree = .object members ↔
      ∃ ms, v = .object ms ∧ members = ms.map fun m => (.string m.1, m.2.tree) := by
  cases v with
  | number l => cases h : Number.ofLiteral? l <;> simp [Value.tree, h]
  | object ms => simp [Value.tree, memberTrees_eq_map, eq_comm]
  | _ => simp [Value.tree]

/-- What fits in 32 bits fits in 64. -/
theorem lt_twoTo_64 {n : Nat} (h : n < twoTo 32) : n < twoTo 64 := h.trans (by decide +kernel)

theorem number_tree_iff {n : Nat} : questions.number v.tree = .ok n ↔ v.IsNumber32 n := by
  change v.tree.number32 = _ ↔ _
  rw [number32_eq_ok_iff, tree_eq_natural_iff]
  refine and_congr_left fun hn => exists_congr fun l => and_congr_right fun _ => ?_
  rw [Number.ofLiteral?_eq_natural_iff, and_iff_left (lt_twoTo_64 hn)]

theorem text_tree_iff {s : String} : questions.text v.tree = .ok s ↔ v.IsString s :=
  text_eq_ok_iff.trans tree_eq_string_iff

/-- Elements are read one by one. -/
theorem readEach_trees_iff {α : Type} {read : Json → Except ReadFault α} {kind : Value → α → Prop}
    (hread : ∀ v a, read v.tree = .ok a ↔ kind v a) {i : Nat} {vs : List Value} {as : List α} :
    Questions.readEach read i (vs.map Value.tree) = .ok as ↔ List.Forall₂ kind vs as := by
  induction vs generalizing i as with
  | nil => simp [Questions.readEach, eq_comm]
  | cons v vs ih =>
    rw [List.map_cons, Questions.readEach, bind_eq_ok_iff, List.forall₂_cons_left_iff]
    simp only [placing_eq_ok_iff, hread, bind_eq_ok_iff, ih]
    constructor
    · rintro ⟨a, ha, rest, hrest, h⟩
      exact ⟨a, rest, ha, hrest, (Except.ok.inj h).symm⟩
    · rintro ⟨a, rest, ha, hrest, rfl⟩
      exact ⟨a, ha, rest, hrest, rfl⟩

/-- An array is read if all its elements are. -/
theorem readItems_tree_iff {α : Type} {read : Json → Except ReadFault α} {kind : Value → α → Prop}
    (hread : ∀ v a, read v.tree = .ok a ↔ kind v a) {as : List α} :
    questions.readItems read v.tree = .ok as ↔ v.IsArrayOf kind as := by
  rw [Questions.readItems, placing_eq_ok_iff, bind_eq_ok_iff]
  change (∃ items, v.tree.elements = .ok items ∧ _) ↔ _
  simp only [elements_eq_ok_iff, tree_eq_array_iff, Value.IsArrayOf]
  constructor
  · rintro ⟨items, ⟨vs, rfl, rfl⟩, h⟩
    exact ⟨vs, rfl, (readEach_trees_iff hread).1 h⟩
  · rintro ⟨vs, rfl, h⟩
    exact ⟨_, ⟨vs, rfl, rfl⟩, (readEach_trees_iff hread).2 h⟩

theorem readTexts_tree_iff {ss : List String} :
    questions.readTexts v.tree = .ok ss ↔ v.IsTexts ss :=
  readItems_tree_iff fun _ _ => text_tree_iff

theorem readWord_eq_ok_iff {α : Type} {words : List (String × α)} {c : Choice} {a : α} :
    readWord words c = .ok a ↔ words.lookup c.name = some a ∧ c.nothing = .ok () := by
  rw [readWord]
  cases words.lookup c.name with
  | none => simp
  | some b => cases c.nothing <;> simp

/-- A value gives a word if nothing comes with the word. -/
theorem choice_tree_iff {w : String} :
    (∃ c, questions.choice v.tree = .ok c ∧ c.name = w ∧ c.nothing = .ok ()) ↔ v.IsWord w := by
  match v with
  | .null | .boolean _ | .array _ | .object [] =>
    simp [questions, choice, Value.tree, Value.IsWord, memberTrees]
  | .number l =>
    cases h : Number.ofLiteral? l <;> simp [questions, choice, Value.tree, Value.IsWord, h]
  | .string s => simp [questions, choice, Value.tree, Value.IsWord]
  | .object ((key, v) :: rest) =>
    simp [questions, choice, Value.tree, Value.IsWord, memberTrees_eq_map, nothing_eq_ok_iff,
      tree_eq_null_iff, and_assoc]

/-- A word is read if it is one of those that are known. -/
theorem readWord_tree_iff {α : Type} {words : List (String × α)} {a : α} :
    (do readWord words (← questions.choice v.tree)) = .ok a ↔
      ∃ w, words.lookup w = some a ∧ v.IsWord w := by
  simp only [bind_eq_ok_iff, readWord_eq_ok_iff, ← choice_tree_iff]
  constructor
  · rintro ⟨c, hc, hlookup, hnothing⟩
    exact ⟨c.name, hlookup, c, hc, rfl, hnothing⟩
  · rintro ⟨_, hlookup, c, hc, rfl, hnothing⟩
    exact ⟨c, hc, hlookup, hnothing⟩

theorem lookup_modeWords_iff {w : String} {m : Mode} :
    modeWords.lookup w = some m ↔ w = m.label := by
  by_cases hstrict : w = "strict"
  · subst hstrict
    cases m <;> decide
  · by_cases hlegacy : w = "legacy"
    · subst hlegacy
      cases m <;> decide
    · have hnone : modeWords.lookup w = none := by
        simp [modeWords, Mode.label, List.lookup_cons, beq_false_of_ne hstrict,
          beq_false_of_ne hlegacy]
      cases m <;> simp [hnone, Mode.label, hstrict, hlegacy]

theorem lookup_presetWords_iff {w : String} {p : Preset} :
    presetWords.lookup w = some p ↔ w = p.label := by
  cases p
  by_cases hcms : w = "cms"
  · subst hcms
    decide
  · simp [presetWords, Preset.label, List.lookup_cons, beq_false_of_ne hcms, hcms]

theorem readMode_tree_iff {m : Mode} : questions.readMode v.tree = .ok m ↔ v.IsWord m.label := by
  rw [Questions.readMode, readWord_tree_iff]
  simp only [lookup_modeWords_iff, exists_eq_left]

theorem readPreset_tree_iff {p : Preset} :
    questions.readPreset v.tree = .ok p ↔ v.IsWord p.label := by
  rw [Questions.readPreset, readWord_tree_iff]
  simp only [lookup_presetWords_iff, exists_eq_left]

/-- Members are read in order into what was read before them. -/
theorem readLists_trees_iff {ms : List (String × Value)} {t t' : TypeLists} :
    questions.readLists (ms.map fun m => (.string m.1, m.2.tree)) t = .ok t' ↔
      ∃ entries : List (String × List String),
        List.Forall₂ (fun m e => m.1 = e.1 ∧ m.2.IsTexts e.2) ms entries ∧
          entries.foldl (fun lists entry => lists.insert entry.1 entry.2) t = t' := by
  induction ms generalizing t with
  | nil => simp [Questions.readLists]
  | cons m ms ih =>
    obtain ⟨name, v⟩ := m
    have hkey : questions.key .string (.string name) = .ok name := rfl
    rw [List.map_cons, Questions.readLists, hkey]
    change (placing _ (questions.readTexts v.tree) >>= _) = _ ↔ _
    simp only [bind_eq_ok_iff, placing_eq_ok_iff, readTexts_tree_iff, ih,
      List.forall₂_cons_left_iff]
    constructor
    · rintro ⟨texts, htexts, entries, hentries, h⟩
      exact ⟨(name, texts) :: entries, ⟨_, entries, ⟨rfl, htexts⟩, hentries, rfl⟩, h⟩
    · rintro ⟨_, ⟨⟨name', texts⟩, entries, ⟨hname, htexts⟩, hentries, rfl⟩, h⟩
      obtain rfl : name = name' := hname
      exact ⟨texts, htexts, entries, hentries, h⟩

theorem readTypeLists_tree_iff {t : TypeLists} :
    questions.readTypeLists v.tree = .ok t ↔ v.IsTypeLists t := by
  rw [Questions.readTypeLists, placing_eq_ok_iff, bind_eq_ok_iff]
  change (∃ members, v.tree.entries = .ok members ∧ _) ↔ _
  simp only [entries_eq_ok_iff, tree_eq_object_iff, Value.IsTypeLists, Value.IsObjectOf]
  constructor
  · rintro ⟨members, ⟨ms, rfl, rfl⟩, h⟩
    obtain ⟨entries, hentries, rfl⟩ := readLists_trees_iff.1 h
    exact ⟨entries, ⟨ms, rfl, hentries⟩, fun e => TypeLists.mem_ofList_iff⟩
  · rintro ⟨entries, ⟨ms, rfl, hentries⟩, hlast⟩
    have ht : TypeLists.ofList entries = t :=
      TypeLists.ext_mem fun e => TypeLists.mem_ofList_iff.trans (hlast e).symm
    exact ⟨_, ⟨ms, rfl, rfl⟩, readLists_trees_iff.2 ⟨entries, hentries, ht⟩⟩

/-! ### The document -/

/-- The value has the shape that a field wants, and this is what the field holds. -/
def Takes : (f : Field) → Value → f.Value → Prop
  | .version, v, n => v.IsNumber32 n
  | .mode, v, m => v.IsWord (Mode.label m)
  | .presets, v, ps => v.IsArrayOf (fun v (p : Preset) => v.IsWord p.label) ps
  | .blockedByType, v, t => v.IsTypeLists t
  | .trustedTypes, v, ss | .allowedMethods, v, ss | .blockedMethods, v, ss | .blockedTypes, v, ss
  | .blockedProperties, v, ss => v.IsTexts ss

/-- **A value is read for a field exactly if it has the shape that the field wants.** -/
theorem readValue_tree_iff {f : Field} {x : f.Value} :
    questions.readValue v.tree f = .ok x ↔ Takes f v x := by
  cases f with
  | version => exact number_tree_iff
  | mode => exact readMode_tree_iff
  | presets => exact readItems_tree_iff fun _ _ => readPreset_tree_iff
  | blockedByType => exact readTypeLists_tree_iff
  | _ => exact readTexts_tree_iff

theorem readable_of_isArrayOf {α : Type} {kind : Value → α → Prop} {as : List α}
    (hkind : ∀ v a, kind v a → v.readable = true) (h : v.IsArrayOf kind as) :
    v.readable = true := by
  obtain ⟨vs, rfl, hvs⟩ := h
  rw [Value.readable]
  induction hvs with
  | nil => rfl
  | cons ha _ ih => rw [allReadable, hkind _ _ ha, ih, Bool.and_self]

theorem readable_of_isWord {w : String} (h : v.IsWord w) : v.readable = true := by
  rcases h with rfl | rfl <;> rfl

theorem readable_of_isTexts {ss : List String} (h : v.IsTexts ss) : v.readable = true :=
  readable_of_isArrayOf (fun v s (hs : v = .string s) => hs ▸ rfl) h

theorem readable_of_isNumber32 {n : Nat} (h : v.IsNumber32 n) : v.readable = true := by
  obtain ⟨⟨l, rfl, hwrites⟩, hn⟩ := h
  rw [Value.readable, Number.ofLiteral?_eq_natural_iff.2 ⟨hwrites, lt_twoTo_64 hn⟩,
    Option.isSome_some]

/-- A value of a shape that a field wants has no number that is too large. -/
theorem readable_of_takes {f : Field} {x : f.Value} (h : Takes f v x) : v.readable = true := by
  cases f with
  | version => exact readable_of_isNumber32 h
  | mode => exact readable_of_isWord h
  | presets => exact readable_of_isArrayOf (fun _ _ => readable_of_isWord) h
  | blockedByType =>
    obtain ⟨entries, ⟨ms, rfl, hms⟩, -⟩ := h
    rw [Value.readable]
    induction hms with
    | nil => rfl
    | cons hm _ ih => rw [membersReadable, readable_of_isTexts hm.2, ih, Bool.and_self]
  | _ => exact readable_of_isTexts h

theorem given_iff {α : Type} {members : List (String × Value)} {name : String}
    {kind : Value → Prop} {x y : α} : Given members name kind (x = y) ↔
      (∃ v, (name, v) ∈ members ∧ kind v) ∨
        (name ∉ members.map Prod.fst ∧ some y = some x) := by
  rw [Given, Option.some.injEq, eq_comm (a := x)]

/-- The schema, said of all fields at once. -/
theorem describes_iff {members : List (String × Value)} {d : Document} :
    Describes members d ↔
      (members.map Prod.fst).Nodup ∧ (∀ m ∈ members, ∃ f : Field, f.label = m.1) ∧
        ∀ f : Field, (∃ v, (f.label, v) ∈ members ∧ Takes f v (d.get f)) ∨
          (f.label ∉ members.map Prod.fst ∧ f.default? = some (d.get f)) := by
  have hlabel : ∀ name, name ∈ Field.all.map Field.label ↔ ∃ f : Field, f.label = name := by
    intro name
    simp only [List.mem_map, Field.mem_all, true_and]
  constructor
  · intro h
    refine ⟨h.once, fun m hm => (hlabel m.1).1 (h.known m hm), fun f => ?_⟩
    cases f with
    | version => exact .inl h.version
    | mode => exact given_iff.1 h.mode
    | presets => exact given_iff.1 h.presets
    | trustedTypes => exact given_iff.1 h.trustedTypes
    | allowedMethods => exact given_iff.1 h.allowedMethods
    | blockedMethods => exact given_iff.1 h.blockedMethods
    | blockedByType => exact given_iff.1 h.blockedByType
    | blockedTypes => exact given_iff.1 h.blockedTypes
    | blockedProperties => exact given_iff.1 h.blockedProperties
  · rintro ⟨honce, hknown, hfields⟩
    exact {
      known := fun m hm => (hlabel m.1).2 (hknown m hm)
      once := honce
      version := (hfields .version).resolve_right fun h => nomatch h.2
      mode := given_iff.2 (hfields .mode)
      presets := given_iff.2 (hfields .presets)
      trustedTypes := given_iff.2 (hfields .trustedTypes)
      allowedMethods := given_iff.2 (hfields .allowedMethods)
      blockedMethods := given_iff.2 (hfields .blockedMethods)
      blockedByType := given_iff.2 (hfields .blockedByType)
      blockedTypes := given_iff.2 (hfields .blockedTypes)
      blockedProperties := given_iff.2 (hfields .blockedProperties) }

/-- Members that describe a policy have no number that is too large. -/
theorem Describes.readable {members : List (String × Value)} {d : Document}
    (h : Describes members d) : (Value.object members).readable = true := by
  obtain ⟨honce, hknown, hfields⟩ := describes_iff.1 h
  rw [Value.readable, membersReadable_eq_all, List.all_eq_true]
  rintro ⟨name, v⟩ hm
  obtain ⟨f, rfl⟩ := hknown _ hm
  rcases hfields f with ⟨w, hw, htakes⟩ | ⟨hnot, -⟩
  · have hsame := List.inj_on_of_nodup_map honce hw hm rfl
    obtain ⟨-, rfl⟩ := Prod.mk.inj hsame
    exact readable_of_takes htakes
  · exact absurd (List.mem_map_of_mem hm) hnot

/-- **From the tree of an object the document is read that its members describe.** -/
theorem read_tree_iff {members : List (String × Value)} {d : Document} :
    questions.read (Value.object members).tree = .ok d ↔ Describes members d := by
  have hkey : ∀ name, questions.key .fieldName (.string name) = .ok name := fun _ => rfl
  have hbody : questions.body (Value.object members).tree =
      .ok (.named ((members.map fun m => (m.1, m.2.tree)).map fun m => (.string m.1, m.2))) := by
    rw [Value.tree, memberTrees_eq_map, List.map_map]
    rfl
  have hkeys : (members.map fun m => (m.1, m.2.tree)).map Prod.fst = members.map Prod.fst := by
    rw [List.map_map]
    rfl
  have hnode : ∀ (f : Field), (∃ node, (f.label, node) ∈ members.map (fun m => (m.1, m.2.tree)) ∧
      questions.readValue node f = .ok (d.get f)) ↔
        ∃ v, (f.label, v) ∈ members ∧ Takes f v (d.get f) := by
    intro f
    constructor
    · rintro ⟨node, hm, hx⟩
      obtain ⟨⟨name, v⟩, hv, h⟩ := List.mem_map.1 hm
      obtain ⟨rfl, rfl⟩ := Prod.mk.inj h
      exact ⟨v, hv, readValue_tree_iff.1 hx⟩
    · rintro ⟨v, hv, htakes⟩
      exact ⟨v.tree, List.mem_map.2 ⟨_, hv, rfl⟩, readValue_tree_iff.2 htakes⟩
  rw [Questions.read_named_iff hkey hbody, describes_iff, hkeys]
  simp only [hnode, List.forall_mem_map]

/-- A text that holds a value is read if no number of it is too large and its tree is read. -/
theorem readText_iff_read_tree {α : Type} {read : Json → Except ReadFault α} {text : String}
    (h : v.WrittenIn text) {a : α} :
    readText read text = .ok a ↔ v.readable = true ∧ read v.tree = .ok a := by
  obtain ⟨after, hafter, hread⟩ := Value.reads_ofChars h
  rw [readText_eq_ok_iff]
  cases hreadable : v.readable with
  | true =>
    have hspace : skipSpace after = [] := by
      simpa [skipSpace] using skipSpace_blank_append hafter []
    rw [hreadable, reads_true] at hread
    rw [hread, and_iff_right rfl]
    exact and_iff_left ⟨after, rfl, hspace⟩
  | false =>
    rw [hreadable, reads_false] at hread
    refine iff_of_false ?_ fun h => Bool.false_ne_true h.1
    rintro ⟨-, rest, hrest, -⟩
    rw [hread] at hrest
    cases hrest

/-- A text that holds a value is read as a document if the tree of the value is. -/
theorem readDocument_iff_read_tree {text : String} (h : v.WrittenIn text) {d : Document} :
    readDocument text = .ok d ↔ v.readable = true ∧ questions.read v.tree = .ok d :=
  readText_iff_read_tree h

/-- **The reader accepts what the schema describes, and reads what it says.** -/
theorem readDocument_iff_describes {text : String} {members : List (String × Value)}
    (h : (Value.object members).WrittenIn text) {d : Document} :
    readDocument text = .ok d ↔ Describes members d := by
  rw [readDocument_iff_read_tree h, read_tree_iff]
  exact and_iff_right_of_imp Describes.readable

/-- What was to be loaded is no policy in JSON, and nothing is reported. -/
def Unreadable (loaded : Logged (Except Fault Settings)) : Prop :=
  ∃ why, loaded = .silent (.error (.badConfig (.unreadable "json" why)))

/-- A text that holds a document is loaded as the document is accepted. -/
theorem load_of_readDocument {text : String} {d : Document} (h : readDocument text = .ok d)
    (r : Registry) : Format.json.load text r = d.accept r :=
  Format.load_of_read (show Format.json.read text = .ok d from h) r

/-- A text that holds no document is unreadable. -/
theorem unreadable_of_forall_ne {text : String} (h : ∀ d, readDocument text ≠ .ok d)
    (r : Registry) : Unreadable (Format.json.load text r) := by
  rw [Format.load, Format.read]
  cases hread : readDocument text with
  | ok d => exact absurd hread (h d)
  | error f => exact ⟨f.message, rfl⟩

/-- **A policy in JSON is what the schema describes, in any order.** Of a text that holds an object
the document is read that the members describe, and loading goes on with that document; if they
describe none, the text is unreadable. Members in another order change nothing. -/
theorem load_json_iff_described {text : String} {members : List (String × Value)}
    (h : (Value.object members).WrittenIn text) :
    (∀ d, readDocument text = .ok d ↔ Describes members d) ∧
    (∀ d r, Describes members d → Format.json.load text r = d.accept r) ∧
    ((¬∃ d, Describes members d) → ∀ r, Unreadable (Format.json.load text r)) ∧
    ∀ (members' : List (String × Value)) (text' : String), members.Perm members' →
      (Value.object members').WrittenIn text' → ∀ r,
        Format.json.load text' r = Format.json.load text r ∨
          (Unreadable (Format.json.load text r) ∧ Unreadable (Format.json.load text' r)) := by
  have hread : ∀ d, readDocument text = .ok d ↔ Describes members d :=
    fun d => readDocument_iff_describes h
  have hunreadable : (¬∃ d, Describes members d) → ∀ r, Unreadable (Format.json.load text r) :=
    fun hnone => unreadable_of_forall_ne fun d hd => hnone ⟨d, (hread d).1 hd⟩
  have hload : ∀ d r, Describes members d → Format.json.load text r = d.accept r :=
    fun d r hd => load_of_readDocument ((hread d).2 hd) r
  refine ⟨hread, hload, hunreadable, fun members' text' hperm h' r => ?_⟩
  have hread' : ∀ d, readDocument text' = .ok d ↔ Describes members' d :=
    fun d => readDocument_iff_describes h'
  by_cases hsome : ∃ d, Describes members d
  · obtain ⟨d, hd⟩ := hsome
    have hd' : readDocument text' = .ok d := (hread' d).2 (hd.perm hperm)
    exact .inl ((load_of_readDocument hd' r).trans (hload d r hd).symm)
  · have hnone : ∀ d, readDocument text' ≠ .ok d :=
      fun d hd => hsome ⟨d, ((hread' d).1 hd).perm hperm.symm⟩
    exact .inr ⟨hunreadable hsome r, unreadable_of_forall_ne hnone r⟩

/-- A mode that is given as the key of an object, with an escape in the name of its member; and the
same two members the other way round. -/
theorem load_json_iff_described_twoMembers :
    let version : String × Value := ("version", .number ⟨false, ['1'], [], none⟩)
    let mode : String × Value := ("mode", .object [("legacy", .null)])
    let text := "\x7b \"version\": 1,\"m\\u006fde\":\x7b\"legacy\":null\x7d\x7d"
    let text' := "\x7b\"mode\":\x7b\"legacy\":null\x7d,\"version\":1\x7d"
    let d : Document := { version := 1, mode := .legacy }
    (Value.object [version, mode]).WrittenIn text ∧
      (Value.object [mode, version]).WrittenIn text' ∧
      Describes [version, mode] d ∧ Format.json.load text ⟨[]⟩ = d.accept ⟨[]⟩ ∧
      Format.json.load text' ⟨[]⟩ = d.accept ⟨[]⟩ := by
  intro version mode text text' d
  have hone : (⟨false, ['1'], [], none⟩ : Number.Literal).SpelledBy ['1'] :=
    Number.Literal.spelledBy_natural ⟨by decide, List.all_eq_true.1 rfl⟩ (by decide)
  have hversion : StringSpelledBy "version" "\"version\"".toList :=
    stringSpelledBy_self (by decide)
  have hplain : StringSpelledBy "mode" "\"mode\"".toList := stringSpelledBy_self (by decide)
  have hescape : CharSpelledBy 'o' "\\u006f".toList :=
    .unit (u := 0x6f) ⟨'0', '0', '6', 'f', rfl, by decide⟩ (by decide)
  have hend : CharsSpelledBy ['d', 'e'] ['d', 'e'] := charsSpelledBy_self (by decide)
  have hname : StringSpelledBy "mode" "\"m\\u006fde\"".toList :=
    ⟨_, ⟨_, _, .raw (by decide) (by decide) (by decide), ⟨_, _, hescape, hend, rfl⟩, rfl⟩, rfl⟩
  have hlegacy : (Value.object [("legacy", .null)]).SpelledBy "\x7b\"legacy\":null\x7d".toList :=
    ⟨_, rfl, .inr ⟨_, _, .self (stringSpelledBy_self (by decide)), .self rfl, .inl ⟨rfl, rfl⟩⟩⟩
  have hblank : Blank [' '] := by simp [Blank]
  have h : (Value.object [version, mode]).WrittenIn text :=
    .self ⟨_, by decide +kernel, .inr ⟨_, _, ⟨[' '], _, [], hblank, hversion, nofun, rfl⟩,
      ⟨[' '], _, [], hblank, hone, nofun, rfl⟩,
      .inr ⟨_, ⟨_, _, .self hname, .self hlegacy, .inl ⟨rfl, rfl⟩⟩, rfl⟩⟩⟩
  have h' : (Value.object [mode, version]).WrittenIn text' :=
    .self ⟨_, by decide +kernel, .inr ⟨_, _, .self hplain, .self hlegacy,
      .inr ⟨_, ⟨_, _, .self hversion, .self hone, .inl ⟨rfl, rfl⟩⟩, rfl⟩⟩⟩
  have hread : readDocument text = .ok d := by decide +kernel
  obtain ⟨hiff, hload, -, hperm⟩ := load_json_iff_described h
  have hd : Describes [version, mode] d := (hiff d).1 hread
  have haccept : Format.json.load text ⟨[]⟩ = d.accept ⟨[]⟩ := hload d ⟨[]⟩ hd
  have hreported : (d.accept ⟨[]⟩).events.length = 1 := by decide +kernel
  refine ⟨h, h', hd, haccept, ?_⟩
  rcases hperm [mode, version] text' (.swap _ _ _) h' ⟨[]⟩ with hsame | ⟨⟨why, hwhy⟩, -⟩
  · exact hsame.trans haccept
  · rw [haccept] at hwhy
    rw [hwhy] at hreported
    cases hreported

end Json
end TemplateSandbox
