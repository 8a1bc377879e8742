/-
# Names by type

A map from types to sets of names. A type has at most one entry, since types are
compared by identity and `NamesByType` carries the proof that none of its keys
comes twice. A type may have an entry without any name, which `add` leaves behind
when it is given none: `find?` tells it from a type that has no entry, and no
question about a name does (`lists_add`).

Adding goes on from the entry of the type (`find?_add`), and two maps unite type by
type (`find?_union`), so a name that either of them lists is listed afterwards, and
no other (`lists_union`).
-/

import TemplateSandbox.ListSet
import TemplateSandbox.Name
import TemplateSandbox.TypeTag

namespace TemplateSandbox

/-- Sets of names by type: each type has one entry at most. -/
structure NamesByType where
  /-- The types with their names. -/
  entries : List (TypeTag × List MemberName)
  /-- No type has two entries. -/
  distinct : Distinct (entries.map Prod.fst)

namespace NamesByType

/-- The map without any entry. -/
def empty : NamesByType := ⟨[], .nil⟩

/-- The names in the entry of a type, if it has one. -/
def find? (m : NamesByType) (k : TypeTag) : Option (List MemberName) :=
  (m.entries.find? fun entry => entry.1 == k).map Prod.snd

/-- Whether `n` is listed for the type. -/
def lists (m : NamesByType) (k : TypeTag) (n : MemberName) : Bool :=
  (m.find? k).any fun names => names.contains n

/-- All names that are listed, entry by entry. -/
def all (m : NamesByType) : List MemberName := m.entries.flatMap Prod.snd

/-- Adds names to the entry of a type; a type without an entry gets one at the end. -/
def extend (k : TypeTag) (names : List MemberName) :
    List (TypeTag × List MemberName) → List (TypeTag × List MemberName)
  | [] => [(k, insertAll names [])]
  | entry :: rest =>
    if entry.1 == k then (entry.1, insertAll names entry.2) :: rest
    else entry :: extend k names rest

/-- What is true of a new entry, and of each old one before and after names are added to it, is
true of all entries. -/
theorem forall_mem_extend {p : TypeTag × List MemberName → Prop} {k : TypeTag}
    {names : List MemberName} {entries : List (TypeTag × List MemberName)}
    (hnew : p (k, insertAll names [])) (hold : ∀ entry ∈ entries, p entry)
    (hadd : ∀ entry ∈ entries, p (entry.1, insertAll names entry.2)) :
    ∀ entry ∈ extend k names entries, p entry := by
  induction entries with
  | nil => exact List.forall_mem_singleton.2 hnew
  | cons entry rest ih =>
    obtain ⟨hentry, hrest⟩ := List.forall_mem_cons.1 hold
    obtain ⟨haddEntry, haddRest⟩ := List.forall_mem_cons.1 hadd
    unfold extend
    split
    · exact List.forall_mem_cons.2 ⟨haddEntry, hrest⟩
    · exact List.forall_mem_cons.2 ⟨hentry, ih hrest haddRest⟩

/-- Adding to the entry of a type gives no type a second entry. -/
theorem distinct_extend {entries : List (TypeTag × List MemberName)}
    (h : Distinct (entries.map Prod.fst)) (k : TypeTag) (names : List MemberName) :
    Distinct ((extend k names entries).map Prod.fst) := by
  induction entries with
  | nil => exact List.pairwise_singleton _ _
  | cons entry rest ih =>
    obtain ⟨hentry, hrest⟩ := List.pairwise_cons.1 h
    have hlater := List.forall_mem_map.1 hentry
    unfold extend
    split
    · exact h
    · rename_i hk
      refine List.pairwise_cons.2 ⟨List.forall_mem_map.2 ?_, ih hrest⟩
      exact forall_mem_extend (Bool.eq_false_iff.2 hk) hlater hlater

/-- The map with names added to the entry of a type, which is made if there is none. -/
def add (m : NamesByType) (k : TypeTag) (names : List MemberName) : NamesByType :=
  ⟨extend k names m.entries, distinct_extend m.distinct k names⟩

/-- The map with the names of another one added, type by type. -/
def union (m other : NamesByType) : NamesByType :=
  other.entries.foldl (fun m entry => m.add entry.1 entry.2) m

/-- **Adding goes on from the entry of the type**, and leaves the others alone. -/
theorem find?_add (m : NamesByType) (k : TypeTag) (names : List MemberName) (l : TypeTag) :
    (m.add k names).find? l =
      if k == l then some (insertAll names ((m.find? l).getD [])) else m.find? l := by
  show ((extend k names m.entries).find? _).map Prod.snd =
    if k == l then some (insertAll names (((m.entries.find? _).map Prod.snd).getD []))
    else (m.entries.find? _).map Prod.snd
  induction m.entries with
  | nil => cases hkl : k == l <;> simp [extend, hkl]
  | cons entry rest ih =>
    unfold extend
    by_cases hk : (entry.1 == k) = true
    · -- The entry of `k`: it is the one of `l` exactly if `k` and `l` are one type.
      have hl : (entry.1 == l) = (k == l) := BEq.congr_left hk
      rw [if_pos hk]
      cases hkl : k == l <;> simp [hl, hkl]
    · rw [if_neg hk]
      cases hl : entry.1 == l with
      | false => simpa only [List.find?_cons, hl] using ih
      | true =>
        have hkl : (k == l) = false := by
          rw [← BEq.congr_right hl]
          exact Bool.eq_false_iff.2 fun h => hk (BEq.symm h)
        simp [hl, hkl]

/-- No later entry is for the type of the first one. -/
theorem find?_rest_eq_none {entry : TypeTag × List MemberName}
    {rest : List (TypeTag × List MemberName)} (h : Distinct ((entry :: rest).map Prod.fst))
    {k : TypeTag} (hk : (entry.1 == k) = true) : (rest.find? fun e => e.1 == k) = none := by
  have hlater := (List.pairwise_cons.1 h).1
  refine List.find?_eq_none.2 fun e he hek => ?_
  have hsame : (entry.1 == e.1) = true := BEq.trans hk (BEq.symm hek)
  exact Bool.eq_false_iff.1 (hlater e.1 (List.mem_map_of_mem he)) hsame

/-- The entry of a type is the one whose key is that type. -/
theorem find?_eq_some_iff {m : NamesByType} {k : TypeTag} {names : List MemberName} :
    m.find? k = some names ↔ ∃ entry ∈ m.entries, entry.1.id = k.id ∧ entry.2 = names := by
  obtain ⟨entries, distinct⟩ := m
  show (entries.find? _).map Prod.snd = some names ↔ ∃ entry ∈ entries, _
  induction entries with
  | nil => simp
  | cons entry rest ih =>
    have ih := ih (List.pairwise_cons.1 distinct).2
    cases hk : entry.1 == k with
    | false =>
      have hne : entry.1.id ≠ k.id := fun h => Bool.eq_false_iff.1 hk (TypeTag.beq_iff.2 h)
      simpa [hk, hne] using ih
    | true =>
      rw [find?_rest_eq_none distinct hk] at ih
      have hnone : ¬∃ e ∈ rest, e.1.id = k.id ∧ e.2 = names := fun h => nomatch ih.2 h
      simp only [List.find?_cons, hk, Option.map_some, Option.some.injEq, List.mem_cons,
        or_and_right, exists_or, exists_eq_left, TypeTag.beq_iff.1 hk, true_and, hnone, or_false]

/-- A name is listed for a type exactly if it is in an entry for it. -/
theorem lists_iff {m : NamesByType} {k : TypeTag} {n : MemberName} :
    m.lists k n = true ↔ ∃ entry ∈ m.entries, entry.1.id = k.id ∧ n ∈ entry.2 := by
  simp only [lists, Option.any_eq_true, find?_eq_some_iff, List.contains_iff_mem]
  constructor
  · rintro ⟨_, ⟨entry, hentry, hid, rfl⟩, hn⟩
    exact ⟨entry, hentry, hid, hn⟩
  · rintro ⟨entry, hentry, hid, hn⟩
    exact ⟨_, ⟨entry, hentry, hid, rfl⟩, hn⟩

/-- The map says one thing of one type, however its path is written. -/
theorem lists_congr (m : NamesByType) {k l : TypeTag} (h : k.id = l.id) (n : MemberName) :
    m.lists k n = m.lists l n := by
  rw [Bool.eq_iff_iff, lists_iff, lists_iff, h]

/-- All names are those that are listed for some type. -/
theorem mem_all_iff {m : NamesByType} {n : MemberName} :
    n ∈ m.all ↔ ∃ k, m.lists k n = true := by
  simp only [all, List.mem_flatMap, lists_iff]
  constructor
  · rintro ⟨entry, hentry, hn⟩
    exact ⟨entry.1, entry, hentry, rfl, hn⟩
  · rintro ⟨_, entry, hentry, _, hn⟩
    exact ⟨entry, hentry, hn⟩

/-- Adding lists the names given, and no others: adding none changes no answer. -/
theorem lists_add (m : NamesByType) (k : TypeTag) (names : List MemberName) (l : TypeTag)
    (n : MemberName) : (m.add k names).lists l n = (k == l && names.contains n || m.lists l n) := by
  rw [lists, lists, find?_add]
  cases k == l with
  | false => rfl
  | true =>
    show (insertAll names _).contains n = (names.contains n || _)
    rw [contains_insertAll]
    cases m.find? l <;> simp

/-- Adding entries of different types one by one goes on from the entry of each. -/
theorem find?_foldl_add {entries : List (TypeTag × List MemberName)}
    (h : Distinct (entries.map Prod.fst)) (m : NamesByType) (l : TypeTag) :
    (entries.foldl (fun m entry => m.add entry.1 entry.2) m).find? l =
      match (⟨entries, h⟩ : NamesByType).find? l with
      | some names => some (insertAll names ((m.find? l).getD []))
      | none => m.find? l := by
  induction entries generalizing m with
  | nil => rfl
  | cons entry rest ih =>
    rw [List.foldl_cons, ih (List.pairwise_cons.1 h).2, find?_add]
    cases hl : entry.1 == l with
    | false => simp [find?, hl]
    | true => simp [find?, hl, find?_rest_eq_none h hl]

/-- **Maps unite type by type.** -/
theorem find?_union (m other : NamesByType) (l : TypeTag) :
    (m.union other).find? l =
      match other.find? l with
      | some names => some (insertAll names ((m.find? l).getD []))
      | none => m.find? l :=
  find?_foldl_add other.distinct m l

/-- A union lists what either of the two lists. -/
theorem lists_union (m other : NamesByType) (l : TypeTag) (n : MemberName) :
    (m.union other).lists l n = (other.lists l n || m.lists l n) := by
  rw [lists, lists, lists, find?_union]
  cases other.find? l with
  | none => rfl
  | some names =>
    show (insertAll names _).contains n = (names.contains n || _)
    rw [contains_insertAll]
    cases m.find? l <;> simp

end NamesByType
end TemplateSandbox
