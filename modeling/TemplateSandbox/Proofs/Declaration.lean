/-
# What a declaration opens

What a type declares open is read in two ways. `Capability.opens` passes over the
declared strings and compares each with a name character by character;
`Capability.grant` folds all of them into a set, in which a name is then looked
up (`Grant.covers`). Both give one answer (`Capability.opens_eq_covers`):

| declaration | is read as | opens a name |
| --- | --- | --- |
| `none` | `nothing` | never |
| `members names` | `only (setOf names)` | that one of `names` folds to |
| `any` | `everything` | always |

The set is a list that rises by code point, and there is one such list with given
elements (`MemberName.setOf_eq_iff`). So neither order, nor repetition, nor the
case of ASCII letters is left in it, and a list read twice stays as it is
(`MemberName.setOf_map_text`).
-/

import TemplateSandbox.Proofs.Sameness

namespace TemplateSandbox

/-! ### The order of texts -/

/-- The code points of a text. -/
def codePoints (s : String) : List Nat := s.toList.map Char.toNat

theorem map_toNat_lt_iff {cs ds : List Char} :
    cs.map Char.toNat < ds.map Char.toNat ↔ cs < ds := by
  induction cs generalizing ds with
  | nil => cases ds <;> simp
  | cons c cs ih =>
    cases ds with
    | nil => simp
    | cons d ds =>
      rw [List.map_cons, List.map_cons, List.cons_lt_cons_iff, List.cons_lt_cons_iff, ih,
        Char.toNat_inj]
      rfl

/-- Texts are compared by their code points, the first that differs deciding. -/
theorem codePoints_lt_iff {a b : String} : codePoints a < codePoints b ↔ a < b := by
  rw [codePoints, codePoints, map_toNat_lt_iff]
  rfl

/-! ### The set of some spellings -/

namespace MemberName

/-- The set of some spellings is the one ascending list of the names that they spell. -/
theorem setOf_eq_iff {raws : List String} {names : List MemberName} :
    setOf raws = names ↔
      (∀ n, n ∈ names ↔ ∃ s ∈ raws, fold s = n) ∧ Ascending text names := by
  constructor
  · rintro rfl
    exact ⟨fun n => mem_setOf_iff, ascending_sortByKey text _⟩
  · rintro ⟨hmem, hascending⟩
    refine (ascending_sortByKey text _).eq_of_mem_iff hascending fun n => ?_
    exact mem_setOf_iff.trans (hmem n).symm

/-- Listing the texts of a set gives the set again. -/
theorem setOf_map_text (raws : List String) : setOf ((setOf raws).map text) = setOf raws := by
  refine setOf_eq_iff.2 ⟨fun n => ?_, ascending_sortByKey text _⟩
  simp only [List.mem_map, exists_exists_and_eq_and, fold_text, exists_eq_right]

/-- A name is not twice in an ascending list. -/
theorem nodup_of_ascending {names : List MemberName} (h : Ascending text names) : names.Nodup := by
  refine List.Pairwise.imp ?_ h
  rintro m n hlt rfl
  exact String.lt_irrefl _ hlt

end MemberName

/-! ### The two ways of reading -/

namespace Capability

/-- The strings that a declaration lists. -/
def listed : Capability → List String
  | .members names => names
  | _ => []

theorem opens_eq_true_iff {k : Capability} {n : MemberName} :
    k.opens n = true ↔ k = .any ∨ ∃ s ∈ k.listed, MemberName.fold s = n := by
  cases k with
  | none => simp [opens, listed]
  | members names => simp [opens, listed, MemberName.spells_iff]
  | any => simp [opens]

theorem covers_grant_eq_true_iff {k : Capability} {n : MemberName} :
    k.grant.covers n = true ↔ k = .any ∨ ∃ s ∈ k.listed, MemberName.fold s = n := by
  cases k with
  | none => simp [grant, Grant.covers, listed]
  | members names => simp [grant, Grant.covers, listed, MemberName.mem_setOf_iff]
  | any => simp [grant, Grant.covers]

/-- **Looking a name up in the set is passing over the spellings.** -/
theorem opens_eq_covers (k : Capability) (n : MemberName) : k.opens n = k.grant.covers n :=
  Bool.eq_iff_iff.2 (opens_eq_true_iff.trans covers_grant_eq_true_iff.symm)

/-- A declaration is read as a set exactly if it lists names, and the set is theirs. -/
theorem grant_eq_only_iff {k : Capability} {names : List MemberName} :
    k.grant = .only names ↔ (∃ raws, k = .members raws) ∧ MemberName.setOf k.listed = names := by
  cases k <;> simp [grant, listed]

end Capability

/-- **A declaration opens the same by either way of reading**: everything, or the names that the
strings in it fold to. As a set it has exactly these names, each once and by code point; so lists
that name the same members in whatever order, spelling and repetition are read as one, and a list
is read as the one that has each of its names once. -/
theorem opens_eq_covers_and_grant_eq_only_iff (t : Target) :
    (∀ n : MemberName, t.capability.opens n = t.capability.grant.covers n ∧
      (t.capability.opens n = true ↔
        t.capability = .any ∨ ∃ s ∈ t.capability.listed, foldText s = n.text)) ∧
    (t.capability.grant = .nothing ↔ t.capability = .none) ∧
    (t.capability.grant = .everything ↔ t.capability = .any) ∧
    (∀ names : List MemberName, t.capability.grant = .only names ↔
      (∃ raws, t.capability = .members raws) ∧
        (∀ n, n ∈ names ↔ ∃ s ∈ t.capability.listed, foldText s = n.text) ∧
        names.Nodup ∧ names.Pairwise fun m n => codePoints m.text < codePoints n.text) ∧
    (∀ raws : List String,
      (Capability.members ((MemberName.setOf raws).map MemberName.text)).grant =
        (Capability.members raws).grant) ∧
    ∀ u : Target, t.capability.grant = u.capability.grant ↔ t.capability.Alike u.capability := by
  have hfold : ∀ {s : String} {n : MemberName}, foldText s = n.text ↔ MemberName.fold s = n := by
    intro s n
    rw [MemberName.ext_iff, MemberName.text_fold]
  simp only [hfold, codePoints_lt_iff]
  refine ⟨fun n => ⟨t.capability.opens_eq_covers n, Capability.opens_eq_true_iff⟩, ?_, ?_,
    fun names => ?_, fun raws => ?_, fun u => Capability.alike_iff_grant_eq.symm⟩
  · cases t.capability <;> simp [Capability.grant]
  · cases t.capability <;> simp [Capability.grant]
  · rw [Capability.grant_eq_only_iff, MemberName.setOf_eq_iff]
    refine and_congr_right fun _ => and_congr_right fun _ => ?_
    exact ⟨fun h => ⟨MemberName.nodup_of_ascending h, h⟩, And.right⟩
  · exact congrArg Grant.only (MemberName.setOf_map_text raws)

/-- The capital beyond ASCII is kept and comes after all small letters. -/
example : (Capability.members ["URL", "Été", "show", "url", "", "SHOW"]).grant =
    .only [.fold "", .fold "show", .fold "url", .fold "Été"] := by decide +kernel

end TemplateSandbox
