/-
# Sets as lists

A set is kept as a list without repetition (`Distinct`) and is only ever asked for
membership. Elements are put in with `List.insert`, many at a time with
`insertAll`; the list stays distinct, and `contains_insertAll` is all there is to
know of the set.
-/

namespace TemplateSandbox

variable {α : Type} [BEq α]

/-- Adds the elements of `xs` to a list without repetition. -/
def insertAll (xs set : List α) : List α :=
  xs.foldl (fun set x => set.insert x) set

theorem contains_insert [EquivBEq α] (a x : α) (set : List α) :
    (set.insert x).contains a = (a == x || set.contains a) := by
  unfold List.insert
  split
  · rename_i h
    cases hax : a == x
    · simp
    · simp only [Bool.true_or]
      rw [List.contains_congr hax]
      simpa using h
  · simp [List.contains_cons]

/-- **Adding elements adds exactly these.** -/
theorem contains_insertAll [EquivBEq α] (a : α) (xs set : List α) :
    (insertAll xs set).contains a = (xs.contains a || set.contains a) := by
  induction xs generalizing set with
  | nil => simp [insertAll]
  | cons x rest ih =>
    show (insertAll rest (set.insert x)).contains a = _
    rw [ih, contains_insert, List.contains_cons]
    cases a == x <;> cases rest.contains a <;> simp

/-- No element of the list is equal to a later one, as sets compare them. -/
def Distinct (xs : List α) : Prop := xs.Pairwise fun a b => (a == b) = false

namespace Distinct

variable {xs : List α}

theorem nil : Distinct ([] : List α) := List.Pairwise.nil

theorem insert (h : Distinct xs) (x : α) : Distinct (xs.insert x) := by
  unfold List.insert
  split
  · exact h
  · rename_i hnew
    refine List.pairwise_cons.2 ⟨fun y hy => Bool.eq_false_iff.2 fun hxy => hnew ?_, h⟩
    exact List.contains_iff_exists_mem_beq.2 ⟨y, hy, hxy⟩

theorem insertAll (h : Distinct xs) (ys : List α) : Distinct (insertAll ys xs) := by
  induction ys generalizing xs with
  | nil => exact h
  | cons y rest ih => exact ih (h.insert y)

end Distinct
end TemplateSandbox
