/-
# The names of types

A type is shown by what stands after the last `::` of its path (`shortName`):

| path | is shown |
| --- | --- |
| with type arguments (`<`), or of an interface (`dyn …`) | whole |
| without `::` | whole |
| any other | from its last `::` on |

Separators may overlap: there are two in `a:::b`. The last one is the one after
whose first colon no other begins (`afterLastSeparator?_eq_some_iff`), so a segment
never starts with a colon. It has no separator either, and therefore the name of a
name is the name itself.
-/

import TemplateSandbox.TypeTag
import Mathlib.Data.List.Infix

namespace TemplateSandbox

/-! ### The last separator -/

/-- There is a `::` among the characters. -/
def Separated (cs : List Char) : Prop := [':', ':'] <:+: cs

instance (cs : List Char) : Decidable (Separated cs) :=
  inferInstanceAs (Decidable ([':', ':'] <:+: cs))

theorem not_separated_nil : ¬Separated [] := by
  intro h
  cases List.eq_nil_of_infix_nil h

/-- A separator starts with the first character, or there is one after it. -/
theorem separated_cons_iff {c : Char} {cs : List Char} :
    Separated (c :: cs) ↔ (c = ':' ∧ cs.head? = some ':') ∨ Separated cs := by
  have hhead : [':'] <+: cs ↔ cs.head? = some ':' := by
    cases cs with
    | nil => simp
    | cons d ds => simp [List.cons_prefix_cons, eq_comm]
  rw [Separated, List.infix_cons_iff, List.cons_prefix_cons, hhead, eq_comm (a := ':')]
  rfl

/-- The last separator is the one found further on, or else the one that starts here. -/
theorem afterLastSeparator?_cons (c : Char) (rest : List Char) :
    afterLastSeparator? (c :: rest) = (afterLastSeparator? rest).or
      (if c = ':' ∧ rest.head? = some ':' then some rest.tail else none) := by
  rw [afterLastSeparator?.eq_def]
  dsimp only
  cases afterLastSeparator? rest with
  | some tail => rfl
  | none =>
    dsimp only [Option.none_or]
    split
    · rfl
    · rename_i hother
      -- The first two characters are no separator, or the match would have ended before.
      refine (if_neg ?_).symm
      rintro ⟨rfl, hhead⟩
      obtain ⟨tail, rfl⟩ := List.head?_eq_some_iff.1 hhead
      exact hother tail rfl rfl

/-- No last separator is found exactly if there is none. -/
theorem afterLastSeparator?_eq_none_iff {cs : List Char} :
    afterLastSeparator? cs = none ↔ ¬Separated cs := by
  induction cs with
  | nil => exact iff_of_true rfl not_separated_nil
  | cons c rest ih =>
    rw [afterLastSeparator?_cons, Option.or_eq_none_iff, ih, separated_cons_iff, not_or, and_comm]
    refine and_congr_left fun _ => ?_
    split <;> simp [*]

/-- **The last separator is cut off with all that stands before it.** No other begins after its
first colon, so it is the last one also where separators overlap. -/
theorem afterLastSeparator?_eq_some_iff {cs tail : List Char} :
    afterLastSeparator? cs = some tail ↔
      (∃ front, cs = front ++ ':' :: ':' :: tail) ∧ ¬Separated (':' :: tail) := by
  constructor
  · intro h
    induction cs with
    | nil => cases h
    | cons c rest ih =>
      rw [afterLastSeparator?_cons, Option.or_eq_some_iff] at h
      rcases h with hlater | ⟨hnone, hhere⟩
      · obtain ⟨⟨front, rfl⟩, hlast⟩ := ih hlater
        exact ⟨⟨c :: front, rfl⟩, hlast⟩
      · obtain ⟨⟨rfl, hhead⟩, htail⟩ := Option.ite_none_right_eq_some.1 hhere
        obtain ⟨more, rfl⟩ := List.head?_eq_some_iff.1 hhead
        obtain rfl : more = tail := Option.some.inj htail
        exact ⟨⟨[], rfl⟩, afterLastSeparator?_eq_none_iff.1 hnone⟩
  · rintro ⟨⟨front, rfl⟩, hlast⟩
    induction front with
    | nil =>
      have hnone : afterLastSeparator? (':' :: tail) = none :=
        afterLastSeparator?_eq_none_iff.2 hlast
      rw [List.nil_append, afterLastSeparator?_cons, hnone]
      rfl
    | cons c front ih =>
      rw [List.cons_append, afterLastSeparator?_cons, ih]
      rfl

/-! ### Names -/

/-- The path is shown whole. -/
def ShownWhole (path : String) : Prop :=
  '<' ∈ path.toList ∨ ['d', 'y', 'n', ' '] <+: path.toList ∨ ¬Separated path.toList

instance (path : String) : Decidable (ShownWhole path) := inferInstanceAs (Decidable (_ ∨ _))

/-- The name is what stands after the last `::` of the path. -/
def LastSegment (path name : String) : Prop :=
  (∃ front, path = front ++ "::" ++ name) ∧ ¬Separated name.toList ∧ name.toList.head? ≠ some ':'

/-- Of the characters of a path, a last segment is what stands after the last separator. -/
theorem lastSegment_iff {path name : String} :
    LastSegment path name ↔ afterLastSeparator? path.toList = some name.toList := by
  have hfront : (∃ front, path = front ++ "::" ++ name) ↔
      ∃ front, path.toList = front ++ ':' :: ':' :: name.toList := by
    have hchars : ∀ front : String, path = front ++ "::" ++ name ↔
        path.toList = front.toList ++ ':' :: ':' :: name.toList := by
      intro front
      rw [← String.toList_inj, String.toList_append, String.toList_append, List.append_assoc]
      rfl
    constructor
    · rintro ⟨front, h⟩
      exact ⟨front.toList, (hchars front).1 h⟩
    · rintro ⟨front, h⟩
      refine ⟨String.ofList front, (hchars _).2 ?_⟩
      rw [String.toList_ofList, h]
  rw [afterLastSeparator?_eq_some_iff, LastSegment, hfront, separated_cons_iff, not_or, and_comm
    (a := ¬Separated _)]
  simp only [true_and]

/-- What stands after the last separator ends the path. -/
theorem LastSegment.suffix {path name : String} (h : LastSegment path name) :
    name.toList <:+ path.toList := by
  obtain ⟨⟨front, rfl⟩, -⟩ := h
  rw [String.toList_append]
  exact List.suffix_append _ _

theorem shortName_eq_self {path : String} (h : ShownWhole path) : shortName path = path := by
  unfold shortName
  split
  · rfl
  · rename_i hcut
    simp only [Bool.or_eq_true, decide_eq_true_eq, List.isPrefixOf_iff_prefix, not_or] at hcut
    have hnone : ¬Separated path.toList := (h.resolve_left hcut.1).resolve_left hcut.2
    rw [afterLastSeparator?_eq_none_iff.2 hnone]

/-- A path that is not shown whole is shown by its last segment. -/
theorem lastSegment_shortName {path : String} (h : ¬ShownWhole path) :
    LastSegment path (shortName path) := by
  obtain ⟨harguments, h⟩ := not_or.1 h
  obtain ⟨hinterface, hseparated⟩ := not_or.1 h
  obtain ⟨tail, htail⟩ : ∃ tail, afterLastSeparator? path.toList = some tail :=
    Option.ne_none_iff_exists'.1 fun hnone => hseparated (afterLastSeparator?_eq_none_iff.1 hnone)
  have hshort : shortName path = String.ofList tail := by
    rw [shortName, if_neg, htail]
    simp [harguments, List.isPrefixOf_iff_prefix, hinterface]
  rw [lastSegment_iff, hshort, String.toList_ofList, htail]

/-- A path has one last segment at most. -/
theorem LastSegment.unique {path name name' : String} (h : LastSegment path name)
    (h' : LastSegment path name') : name = name' := by
  have hsame : some name.toList = some name'.toList :=
    (lastSegment_iff.1 h).symm.trans (lastSegment_iff.1 h')
  exact String.toList_inj.1 (Option.some.inj hsame)

/-- A last segment is shown whole: it has no separator of its own. -/
theorem LastSegment.shownWhole {path name : String} (h : LastSegment path name) :
    ShownWhole name := .inr (.inr h.2.1)

/-- **Every path has a well-formed name.** The name ends the path. It is the whole path if that has
type arguments, belongs to an interface or has no separator; else it is what stands after the last
separator, and nothing else is. The name of a name is the name itself. -/
theorem shortName_wellFormed (path : String) :
    (shortName path).toList <:+ path.toList ∧
    (ShownWhole path → shortName path = path) ∧
    (¬ShownWhole path → LastSegment path (shortName path) ∧
      ∀ name, LastSegment path name → name = shortName path) ∧
    shortName (shortName path) = shortName path := by
  by_cases h : ShownWhole path
  · have hself : shortName path = path := shortName_eq_self h
    refine ⟨?_, fun _ => hself, fun hnot => absurd h hnot, ?_⟩
    · rw [hself]
    · rw [hself, hself]
  · have hlast : LastSegment path (shortName path) := lastSegment_shortName h
    exact ⟨hlast.suffix, fun hwhole => absurd hwhole h,
      fun _ => ⟨hlast, fun _ hname => hname.unique hlast⟩, shortName_eq_self hlast.shownWhole⟩

/-- Two separators that overlap before what reads as an interface, a path that ends in separators,
and one with a separator among its type arguments. -/
theorem shortName_wellFormed_colons :
    ¬ShownWhole "a:::dyn B" ∧ LastSegment "a:::dyn B" "dyn B" ∧ shortName "a:::dyn B" = "dyn B" ∧
      ¬ShownWhole "a:::" ∧ LastSegment "a:::" "" ∧ shortName "a:::" = "" ∧
      ShownWhole "b::Vec<a::B>" ∧ shortName "b::Vec<a::B>" = "b::Vec<a::B>" := by
  have hdyn : ¬ShownWhole "a:::dyn B" := by decide
  have hcolons : ¬ShownWhole "a:::" := by decide
  have harguments : ShownWhole "b::Vec<a::B>" := by decide
  have hinterface : LastSegment "a:::dyn B" "dyn B" := ⟨⟨"a:", rfl⟩, by decide, by decide⟩
  have hempty : LastSegment "a:::" "" := ⟨⟨"a:", rfl⟩, by decide, by decide⟩
  obtain ⟨-, -, hcut, -⟩ := shortName_wellFormed "a:::dyn B"
  obtain ⟨-, -, hcut', -⟩ := shortName_wellFormed "a:::"
  exact ⟨hdyn, hinterface, ((hcut hdyn).2 _ hinterface).symm, hcolons, hempty,
    ((hcut' hcolons).2 _ hempty).symm, harguments, (shortName_wellFormed _).2.1 harguments⟩

end TemplateSandbox
