/-
# Lists kept in the order of their keys

A list whose elements have a text as key is *ascending* when the keys rise
strictly, so that no key occurs twice. `insertByKey` puts an element in its
place and takes the place of one with the same key; the list stays ascending
(`Ascending.insertByKey`).
-/

namespace TemplateSandbox

variable {α : Type}

/-- The keys rise strictly, by code point. -/
def Ascending (key : α → String) (xs : List α) : Prop :=
  xs.Pairwise fun a b => key a < key b

/-- Puts `a` in its place, instead of an element with the same key if there is one. -/
def insertByKey (key : α → String) (a : α) : List α → List α
  | [] => [a]
  | b :: rest =>
    if key a < key b then a :: b :: rest
    else if key b < key a then b :: insertByKey key a rest
    else a :: rest

theorem mem_of_mem_insertByKey {key : α → String} {a x : α} {xs : List α}
    (h : x ∈ insertByKey key a xs) : x = a ∨ x ∈ xs := by
  induction xs with
  | nil => simpa [insertByKey] using h
  | cons b rest ih =>
    unfold insertByKey at h
    split at h
    · simpa using h
    · split at h
      · rcases List.mem_cons.1 h with rfl | h
        · simp
        · rcases ih h with rfl | h <;> simp_all
      · rcases List.mem_cons.1 h with rfl | h <;> simp_all

/-- Where the key tells all elements apart, only `a` itself is replaced. -/
theorem mem_insertByKey_iff {key : α → String} (hkey : ∀ a b, key a = key b → a = b) {a x : α}
    {xs : List α} : x ∈ insertByKey key a xs ↔ x = a ∨ x ∈ xs := by
  refine ⟨mem_of_mem_insertByKey, ?_⟩
  induction xs with
  | nil => simp [insertByKey]
  | cons b rest ih =>
    intro h
    unfold insertByKey
    split
    · simpa using h
    · split
      · rcases h with rfl | h
        · exact List.mem_cons_of_mem _ (ih (.inl rfl))
        · rcases List.mem_cons.1 h with rfl | h
          · exact List.mem_cons_self
          · exact List.mem_cons_of_mem _ (ih (.inr h))
      · rename_i hab hba
        obtain rfl : a = b := hkey a b (String.le_antisymm hba hab)
        simpa using h

theorem Ascending.insertByKey {key : α → String} {xs : List α} (h : Ascending key xs) (a : α) :
    Ascending key (insertByKey key a xs) := by
  induction xs with
  | nil => simp [Ascending, TemplateSandbox.insertByKey]
  | cons b rest ih =>
    obtain ⟨hb, hrest⟩ := List.pairwise_cons.1 h
    unfold TemplateSandbox.insertByKey
    split
    · rename_i hab
      refine List.pairwise_cons.2 ⟨fun x hx => ?_, h⟩
      rcases List.mem_cons.1 hx with rfl | hx
      · exact hab
      · exact String.lt_trans hab (hb x hx)
    · split
      · rename_i hba
        refine List.pairwise_cons.2 ⟨fun x hx => ?_, ih hrest⟩
        rcases mem_of_mem_insertByKey hx with rfl | hx
        · exact hba
        · exact hb x hx
      · rename_i hab hba
        have hkey : key a = key b := String.le_antisymm hba hab
        exact List.pairwise_cons.2 ⟨fun x hx => hkey ▸ hb x hx, hrest⟩

/-- The elements of a list in ascending order; of those with one key the last is kept. -/
def sortByKey (key : α → String) (xs : List α) : List α :=
  xs.foldl (fun sorted a => insertByKey key a sorted) []

theorem ascending_sortByKey (key : α → String) (xs : List α) :
    Ascending key (sortByKey key xs) := by
  have step : ∀ sorted, Ascending key sorted →
      Ascending key (xs.foldl (fun sorted a => insertByKey key a sorted) sorted) := by
    induction xs with
    | nil => exact fun _ h => h
    | cons x rest ih => exact fun sorted h => ih _ (h.insertByKey x)
  exact step [] List.Pairwise.nil

/-- Where the key tells all elements apart, sorting keeps each of them. -/
theorem mem_sortByKey_iff {key : α → String} (hkey : ∀ a b, key a = key b → a = b) {x : α}
    {xs : List α} : x ∈ sortByKey key xs ↔ x ∈ xs := by
  have step : ∀ sorted : List α,
      x ∈ xs.foldl (fun sorted a => insertByKey key a sorted) sorted ↔ x ∈ xs ∨ x ∈ sorted := by
    induction xs with
    | nil => simp
    | cons a rest ih =>
      intro sorted
      rw [List.foldl_cons, ih, mem_insertByKey_iff hkey, List.mem_cons, or_left_comm, or_assoc]
  simpa [sortByKey] using step []

end TemplateSandbox
