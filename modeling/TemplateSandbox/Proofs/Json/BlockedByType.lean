/-
# Which methods blocked on a type count

A policy in JSON blocks methods on types under the names of the types. What is
written under a name counts if the name is not written again: of the entries with
one name, the last one takes the place of all before it. So every entry counts if
no name is repeated (`Json.decide_of_blockedByType`), and with a repeated name a
method that is listed can be open all the same
(`Json.not_decide_of_every_entry`).
-/

import TemplateSandbox.Proofs.Json.Schema
import TemplateSandbox.Proofs.Migration

namespace TemplateSandbox
namespace Json

open Document

/-- The value that a policy gives for the methods blocked on types: that of the member with the
name, or the seventh of a policy by position. -/
def Value.BlockedByType (v w : Value) : Prop :=
  (∃ ms, v = .object ms ∧ ("blocked_by_type", w) ∈ ms) ∨
    ∃ items, v = .array items ∧ items[6]? = some w

/-- What is read from that value is what the document holds. -/
theorem isTypeLists_of_read {v w : Value} {d : Document} (h : questions.read v.tree = .ok d)
    (hw : v.BlockedByType w) : w.IsTypeLists d.blockedByType := by
  rcases hw with ⟨ms, rfl, hm⟩ | ⟨items, rfl, hitem⟩
  · have hd : Describes ms d := read_tree_iff.1 h
    rcases hd.blockedByType with ⟨w', hm', hlists⟩ | ⟨hnot, -⟩
    · have hsame := List.inj_on_of_nodup_map hd.once hm' hm rfl
      obtain ⟨-, rfl⟩ := Prod.mk.inj hsame
      exact hlists
    · exact absurd (List.mem_map_of_mem hm) hnot
  · have hbody : questions.body (Value.array items).tree =
        .ok (.positional (items.map Value.tree)) := by
      rw [Value.tree, trees_eq_map]
      rfl
    have hzip : (Field.blockedByType, w.tree) ∈ Field.all.zip (items.map Value.tree) := by
      have hnode : (items.map Value.tree)[6]? = some w.tree := by
        rw [List.getElem?_map, hitem, Option.map_some]
      exact List.mem_of_getElem? (List.getElem?_zip_eq_some.2 ⟨rfl, hnode⟩)
    have hvalue := Questions.readValue_of_read_positional hbody h hzip
    exact readTypeLists_tree_iff.1 hvalue

/-- A method that is blocked on a type of the value is denied in either mode. -/
theorem verdict_ne_allowed_of_blockedForType {f : Findings} {mode : Mode} {t : Target} {m : String}
    (howned : ¬t.IsEngineOwned) (h : f.blockedForType = true) :
    f.verdict mode (.method t m) ≠ .allowed := by
  cases mode with
  | strict => simp [Findings.verdict, Findings.strictVerdict_eq_allowed_iff, howned, h]
  | legacy => simp [Findings.verdict, Findings.legacyVerdict_eq_allowed_iff, howned, h]

/-- A value is the object of one list of entries at most. -/
theorem Value.IsObjectOf.unique {w : Value} {entries entries' : List (String × List String)}
    (h : w.IsObjectOf Value.IsTexts entries) (h' : w.IsObjectOf Value.IsTexts entries') :
    entries = entries' := by
  obtain ⟨ms, rfl, hms⟩ := h
  obtain ⟨ms', hsame, hms'⟩ := h'
  obtain rfl := Value.object.inj hsame
  refine List.right_unique_forall₂' ?_ hms hms'
  rintro m ⟨name, texts⟩ ⟨name', texts'⟩ ⟨hname, htexts⟩ ⟨hname', htexts'⟩
  have hread := (readTexts_tree_iff.2 htexts).symm.trans (readTexts_tree_iff.2 htexts')
  rw [Prod.mk.injEq]
  exact ⟨hname.symm.trans hname', Except.ok.inj hread⟩

/-- What was loaded from a text was read from it and accepted. -/
theorem exists_accept_of_load {text : String} {r : Registry} {s : Settings}
    (h : (Format.json.load text r).value = .ok s) :
    ∃ d, readDocument text = .ok d ∧ (d.accept r).value = .ok s := by
  cases hread : readDocument text with
  | ok d => exact ⟨d, rfl, by rwa [load_of_readDocument hread] at h⟩
  | error f => simp [Format.load, Format.read, hread, Logged.silent] at h

/-! ### A type that is given twice -/

/-- Two entries for one type. -/
def twoEntriesByType : Value :=
  .object [("File", .array [.string "delete"]), ("File", .array [.string "save"])]

/-- A policy that trusts a type and blocks methods on it in two entries. -/
def twoEntries : Value :=
  .object [("version", .number ⟨false, ['1'], [], none⟩),
    ("trusted_types", .array [.string "File"]),
    ("blocked_by_type", twoEntriesByType)]

/-- The policy in writing. -/
def twoEntriesText : String :=
  "\x7b\"version\":1,\"trusted_types\":[\"File\"]," ++
    "\"blocked_by_type\":\x7b\"File\":[\"delete\"],\"File\":[\"save\"]\x7d\x7d"

theorem twoEntries_writtenIn : twoEntries.WrittenIn twoEntriesText := by
  have hone : (⟨false, ['1'], [], none⟩ : Number.Literal).SpelledBy ['1'] :=
    Number.Literal.spelledBy_natural ⟨by decide, List.all_eq_true.1 rfl⟩ (by decide)
  have hversion : StringSpelledBy "version" _ := stringSpelledBy_self (by decide)
  have htrusted : StringSpelledBy "trusted_types" _ := stringSpelledBy_self (by decide)
  have hbyType : StringSpelledBy "blocked_by_type" _ := stringSpelledBy_self (by decide)
  have hfile : StringSpelledBy "File" _ := stringSpelledBy_self (by decide)
  have hdelete : StringSpelledBy "delete" _ := stringSpelledBy_self (by decide)
  have hsave : StringSpelledBy "save" _ := stringSpelledBy_self (by decide)
  have harray : ∀ {t s}, StringSpelledBy t s →
      (Value.array [.string t]).SpelledBy ('[' :: (s ++ [']'])) :=
    fun h => ⟨_, rfl, .inr ⟨_, .self h, .inl ⟨rfl, rfl⟩⟩⟩
  have hentries : twoEntriesByType.SpelledBy _ :=
    ⟨_, rfl, .inr ⟨_, _, .self hfile, .self (harray hdelete),
      .inr ⟨_, ⟨_, _, .self hfile, .self (harray hsave), .inl ⟨rfl, rfl⟩⟩, rfl⟩⟩⟩
  exact .self ⟨_, by decide +kernel, .inr ⟨_, _, .self hversion, .self hone,
    .inr ⟨_, ⟨_, _, .self htrusted, .self (harray hfile),
      .inr ⟨_, ⟨_, _, .self hbyType, .self hentries, .inl ⟨rfl, rfl⟩⟩, rfl⟩⟩, rfl⟩⟩⟩

theorem twoEntries_blockedByType : twoEntries.BlockedByType twoEntriesByType :=
  .inl ⟨_, rfl, by simp [twoEntriesByType]⟩

theorem twoEntriesByType_isObjectOf :
    twoEntriesByType.IsObjectOf Value.IsTexts [("File", ["delete"]), ("File", ["save"])] := by
  have htexts : ∀ t, (Value.array [.string t]).IsTexts [t] := fun t => ⟨_, rfl, .cons rfl .nil⟩
  exact ⟨_, rfl, .cons ⟨rfl, htexts _⟩ (.cons ⟨rfl, htexts _⟩ .nil)⟩

/-- The type that is given twice. -/
def fileType : TypeTag := ⟨8, "app::File"⟩

/-- It is loaded, and only the second entry is left in the document. -/
theorem exists_load_twoEntries :
    ∃ s, (Format.json.load twoEntriesText ⟨[("File", fileType)]⟩).value = .ok s ∧
      Document.compile ⟨1, .strict, [], ["File"], [], [], .ofList [("File", ["save"])], [], []⟩
        ⟨[("File", fileType)]⟩ = .ok s := by
  have hread : readDocument twoEntriesText =
      .ok ⟨1, .strict, [], ["File"], [], [], .ofList [("File", ["save"])], [], []⟩ := by
    decide +kernel
  obtain ⟨s, hs⟩ := exists_accept_iff.2 (violations_eq_nil_iff.1 (by decide +kernel :
    violations ⟨1, .strict, [], ["File"], [], [], .ofList [("File", ["save"])], [], []⟩
      ⟨[("File", fileType)]⟩ = []))
  exact ⟨s, by rw [load_of_readDocument hread, hs], compile_of_accept hs⟩

/-- **An entry counts if it is the last one for its type.** What a loaded policy gives for the
methods blocked on types is an object of arrays of names. Each name in an entry that no later one
replaces, as none does if no type is given twice, is vetoed in any spelling on every value that is
an instance of the registered type and does not belong to the template engine. -/
theorem decide_of_blockedByType {text : String} {v w : Value} {r : Registry} {s : Settings}
    (hv : v.WrittenIn text) (hw : v.BlockedByType w)
    (h : (Format.json.load text r).value = .ok s) :
    (∃ entries, w.IsObjectOf Value.IsTexts entries) ∧
      ∀ entries : List (String × List String), w.IsObjectOf Value.IsTexts entries →
        ∀ e ∈ entries, LastFor e entries ∨ (entries.map Prod.fst).Nodup →
          ∃ k, r.find? e.1 = some k ∧ ∀ n ∈ e.2, ∀ m, SameName n m → ∀ t : Target, t.IsA k →
            ¬t.IsEngineOwned → (Sandbox.start s).value.decide (.method t m) ≠ .allowed := by
  obtain ⟨d, hread, haccept⟩ := exists_accept_of_load h
  obtain ⟨-, htree⟩ := (readDocument_iff_read_tree hv).1 hread
  obtain ⟨entries, hentries, hlast⟩ := isTypeLists_of_read htree hw
  refine ⟨⟨entries, hentries⟩, fun entries' hentries' e he hcounts => ?_⟩
  obtain rfl := hentries.unique hentries'
  have hheld : e ∈ d.blockedByType.entries := by
    rcases hcounts with hlastFor | hnodup
    · exact (hlast e).2 hlastFor
    · exact (hlast e).2 ((lastFor_iff_mem hnodup).2 he)
  have hacceptable : d.Acceptable r := exists_accept_iff.1 ⟨s, haccept⟩
  obtain ⟨k, hfind, hresolve⟩ := exists_find?_of_knows (hacceptable.byTypeKnown e hheld)
  refine ⟨k, hfind, fun n hn m hnm t ht howned => ?_⟩
  have hblocked : (d.findings r t m).blockedForType = true := by
    have hsaid : ∃ e ∈ d.blockedByType.entries,
        r.NamesTypeOf e.1 t ∧ ∃ n ∈ e.2, SameName n m :=
      ⟨e, hheld, ⟨k, hresolve, ht⟩, n, hn, hnm⟩
    exact decide_eq_true hsaid
  rw [decide_start (compile_of_accept haccept)]
  exact verdict_ne_allowed_of_blockedForType howned hblocked

/-- Of two entries for one type the second counts, in any spelling of the name. -/
theorem decide_of_blockedByType_twoEntries :
    ∃ s, (Format.json.load twoEntriesText ⟨[("File", fileType)]⟩).value = .ok s ∧
      (Sandbox.start s).value.decide (.method { type := fileType } "Save") ≠ .allowed := by
  obtain ⟨s, hs, -⟩ := exists_load_twoEntries
  obtain ⟨-, hentries⟩ := decide_of_blockedByType twoEntries_writtenIn twoEntries_blockedByType hs
  have hlast : LastFor ("File", ["save"]) [("File", ["delete"]), ("File", ["save"])] :=
    ⟨[("File", ["delete"])], [], rfl, List.not_mem_nil⟩
  obtain ⟨k, hk, hdenied⟩ := hentries _ twoEntriesByType_isObjectOf _ (by simp) (.inl hlast)
  obtain rfl : fileType = k := Option.some.inj hk
  exact ⟨s, hs, hdenied "save" (by simp) "Save" (by decide +kernel) _ (by decide) (by decide)⟩

/-- **Not every entry counts.** A method in the first of two entries for one type is open. -/
theorem not_decide_of_every_entry :
    ¬∀ (text : String) (v w : Value) (r : Registry) (s : Settings), v.WrittenIn text →
      v.BlockedByType w → (Format.json.load text r).value = .ok s →
        ∀ entries : List (String × List String), w.IsObjectOf Value.IsTexts entries →
          ∀ e ∈ entries, ∀ n ∈ e.2, ∀ k, r.find? e.1 = some k → ∀ t : Target, t.IsA k →
            ¬t.IsEngineOwned → (Sandbox.start s).value.decide (.method t n) ≠ .allowed := by
  intro hevery
  obtain ⟨s, hs, hcompile⟩ := exists_load_twoEntries
  have hdenied := hevery twoEntriesText twoEntries twoEntriesByType _ s twoEntries_writtenIn
    twoEntries_blockedByType hs _ twoEntriesByType_isObjectOf ("File", ["delete"]) (by simp)
    "delete" (by simp) fileType rfl { type := fileType } (by decide) (by decide)
  rw [decide_start hcompile] at hdenied
  exact hdenied (by decide +kernel)

end Json
end TemplateSandbox
