/-
# Of the entries for one type the last counts

`TypeLists` keep each type once, in the order of the names. Put together from
entries in any order, they hold the last entry for each type, and no other
(`TypeLists.mem_ofList_iff`). So of entries for different types none is lost, and
their order does not matter: lists with the same entries are the same
(`TypeLists.ext_mem`).
-/

import Mathlib.Data.List.Sort
import TemplateSandbox.Document

namespace TemplateSandbox

/-- An element put in its place takes the place of the one with its key, and of no other. -/
theorem Ascending.mem_insertByKey_iff {α : Type} {key : α → String} {xs : List α}
    (h : Ascending key xs) {a x : α} :
    x ∈ TemplateSandbox.insertByKey key a xs ↔ x = a ∨ (x ∈ xs ∧ key x ≠ key a) := by
  induction xs with
  | nil => simp [TemplateSandbox.insertByKey]
  | cons b rest ih =>
    obtain ⟨hb, hrest⟩ := List.pairwise_cons.1 h
    -- From an element on whose key is not below that of `a`, all later keys are above it.
    have hlater : ∀ y ∈ rest, ¬key b < key a → key y ≠ key a := by
      intro y hy hba hya
      exact hba (hya ▸ hb y hy)
    unfold TemplateSandbox.insertByKey
    split
    · rename_i hab
      have hba : ¬key b < key a := String.lt_asymm hab
      have hne : ∀ y ∈ b :: rest, key y ≠ key a :=
        List.forall_mem_cons.2 ⟨(String.ne_of_lt hab).symm, fun y hy => hlater y hy hba⟩
      rw [List.mem_cons, and_iff_left_of_imp (hne x)]
    · split
      · rename_i hba
        rw [List.mem_cons, ih hrest, List.mem_cons, or_left_comm, or_and_right]
        have hne : x = b → key x ≠ key a := fun hx => hx ▸ String.ne_of_lt hba
        rw [and_iff_left_of_imp hne]
      · rename_i hab hba
        have hkey : key b = key a := String.le_antisymm hab hba
        have hnot : ¬(x = b ∧ key x ≠ key a) := by
          rintro ⟨rfl, hne⟩
          exact hne hkey
        rw [List.mem_cons, List.mem_cons, or_and_right, or_iff_right hnot,
          and_iff_left_of_imp fun hx => hlater x hx hba]

/-- The entry is the last one for its type. -/
def LastFor (e : String × List String) (entries : List (String × List String)) : Prop :=
  ∃ before after, entries = before ++ e :: after ∧ e.1 ∉ after.map Prod.fst

theorem not_lastFor_nil (e : String × List String) : ¬LastFor e [] := by
  rintro ⟨before, after, h, -⟩
  simp at h

/-- An entry is the last one for its type if it is so among the others, or if it comes first and
no other is for its type. -/
theorem lastFor_cons_iff {e x : String × List String} {rest : List (String × List String)} :
    LastFor e (x :: rest) ↔ LastFor e rest ∨ (e = x ∧ e.1 ∉ rest.map Prod.fst) := by
  constructor
  · rintro ⟨before, after, h, hlast⟩
    cases before with
    | nil =>
      obtain ⟨rfl, rfl⟩ := List.cons.inj h
      exact .inr ⟨rfl, hlast⟩
    | cons y before =>
      obtain ⟨-, rfl⟩ := List.cons.inj h
      exact .inl ⟨before, after, rfl, hlast⟩
  · rintro (⟨before, after, rfl, hlast⟩ | ⟨rfl, hlast⟩)
    · exact ⟨x :: before, after, rfl, hlast⟩
    · exact ⟨[], rest, rfl, hlast⟩

/-- If no type has two entries, each entry is the last for its type. -/
theorem lastFor_iff_mem {e : String × List String} {entries : List (String × List String)}
    (h : (entries.map Prod.fst).Nodup) : LastFor e entries ↔ e ∈ entries := by
  induction entries with
  | nil => simp [not_lastFor_nil]
  | cons x rest ih =>
    obtain ⟨hx, hrest⟩ := List.nodup_cons.1 h
    rw [lastFor_cons_iff, ih hrest, List.mem_cons, or_comm]
    refine or_congr_left ⟨And.left, ?_⟩
    rintro rfl
    exact ⟨rfl, hx⟩

namespace TypeLists

/-- Lists with the same entries are the same. -/
theorem ext_mem {t t' : TypeLists} (h : ∀ e, e ∈ t.entries ↔ e ∈ t'.entries) : t = t' := by
  have hirrefl : Std.Irrefl fun a b : String × List String => a.1 < b.1 :=
    ⟨fun _ => String.lt_irrefl _⟩
  have hantisymm : Std.Antisymm fun a b : String × List String => a.1 < b.1 :=
    ⟨fun _ _ hab hba => absurd hba (String.lt_asymm hab)⟩
  have hentries : t.entries = t'.entries := t.ascending.eq_of_mem_iff t'.ascending h
  cases t
  cases t'
  congr

/-- Lists that go on from others hold the last entry for each type, and of the others what is for
no type of these. -/
theorem mem_foldl_insert_iff {e : String × List String} {entries : List (String × List String)}
    {t : TypeLists} :
    e ∈ (entries.foldl (fun lists entry => lists.insert entry.1 entry.2) t).entries ↔
      LastFor e entries ∨ (e ∈ t.entries ∧ e.1 ∉ entries.map Prod.fst) := by
  induction entries generalizing t with
  | nil => simp [not_lastFor_nil]
  | cons x rest ih =>
    rw [List.foldl_cons, ih, insert, t.ascending.mem_insertByKey_iff, lastFor_cons_iff,
      List.map_cons, List.mem_cons, not_or, or_assoc, or_and_right, and_assoc]

/-- **Lists hold the last entry for each type.** -/
theorem mem_ofList_iff {e : String × List String} {entries : List (String × List String)} :
    e ∈ (ofList entries).entries ↔ LastFor e entries := by
  rw [ofList, mem_foldl_insert_iff, empty]
  simp

end TypeLists
end TemplateSandbox
