/-
# Texts are read into the trees of their values

A text that spells a value is read into the tree of the value, to the end of its
spelling (`Json.Value.readBack`). There is one way to fall short: a number that is
too large for the reader breaks a text off, though the grammar has nothing
against it. Of a value with such a number it is only said that the text breaks
off (`Json.Reads`).

The readers have fuel for the characters ahead. A value needs twice the length
of its spelling: one step for the value, and one for each element or member,
which has a comma of its own.
-/

import Mathlib.Data.List.TakeWhile
import TemplateSandbox.Json.Tree
import TemplateSandbox.Proofs.Json.Scalars

namespace TemplateSandbox
namespace Json

/-! ### The tree of a value -/

mutual

/-- The tree of a value, with a cut for a number that is too large. -/
def Value.tree : Value → Json
  | .null => .null
  | .boolean b => .boolean b
  | .number l => (Number.ofLiteral? l).elim .cut .number
  | .string s => .string s
  | .array items => .array (trees items)
  | .object members => .object (memberTrees members)

/-- The trees of some elements. -/
def trees : List Value → List Json
  | [] => []
  | v :: rest => v.tree :: trees rest

/-- The trees of some members. -/
def memberTrees : List (String × Value) → List (Json × Json)
  | [] => []
  | (key, v) :: rest => (.string key, v.tree) :: memberTrees rest

end

mutual

/-- No number of the value is too large. -/
def Value.readable : Value → Bool
  | .null | .boolean _ | .string _ => true
  | .number l => (Number.ofLiteral? l).isSome
  | .array items => allReadable items
  | .object members => membersReadable members

/-- No number of the elements is too large. -/
def allReadable : List Value → Bool
  | [] => true
  | v :: rest => v.readable && allReadable rest

/-- No number of the members is too large. -/
def membersReadable : List (String × Value) → Bool
  | [] => true
  | (_, v) :: rest => v.readable && membersReadable rest

end

theorem trees_eq_map (vs : List Value) : trees vs = vs.map Value.tree := by
  induction vs with
  | nil => rfl
  | cons v rest ih => rw [trees, ih, List.map_cons]

theorem memberTrees_eq_map (ms : List (String × Value)) :
    memberTrees ms = ms.map fun m => (.string m.1, m.2.tree) := by
  induction ms with
  | nil => rfl
  | cons m rest ih => rw [memberTrees, ih, List.map_cons]

theorem membersReadable_eq_all (ms : List (String × Value)) :
    membersReadable ms = ms.all fun m => m.2.readable := by
  induction ms with
  | nil => rfl
  | cons m rest ih => rw [membersReadable, ih, List.all_cons]

/-- The reader gives this and the text after it, if all is readable; else the text breaks off. -/
def Reads {α : Type} (r : Partial α) (readable : Bool) (a : α) (rest : List Char) : Prop :=
  if readable then r = (a, some rest) else r.2 = none

@[simp] theorem reads_true {α : Type} {r : Partial α} {a : α} {rest : List Char} :
    Reads r true a rest ↔ r = (a, some rest) := Iff.rfl

@[simp] theorem reads_false {α : Type} {r : Partial α} {a : α} {rest : List Char} :
    Reads r false a rest ↔ r.2 = none := Iff.rfl

/-- What is made of what was read in one way breaks off where that does. -/
theorem Reads.map {α β : Type} {r : Partial α} {b : Bool} {a : α} {rest : List Char}
    (h : Reads r b a rest) (f : α → β) : Reads (f r.1, r.2) b (f a) rest := by
  cases b with
  | true => rw [reads_true.1 h, reads_true]
  | false => exact h

/-! ### Space -/

theorem isSpace_iff {c : Char} : isSpace c = true ↔ c = ' ' ∨ c = '\n' ∨ c = '\t' ∨ c = '\r' := by
  simp [isSpace, or_assoc]

/-- Space at the front of a text is passed over. -/
theorem skipSpace_blank_append {b : List Char} (hb : Blank b) (s : List Char) :
    skipSpace (b ++ s) = skipSpace s :=
  List.dropWhile_append_of_pos fun c hc => isSpace_iff.2 (hb c hc)

/-- A text that starts with something else has no space to pass over. -/
theorem skipSpace_cons {c : Char} (hc : isSpace c = false) (s : List Char) :
    skipSpace (c :: s) = c :: s := by
  simp [skipSpace, hc]

/-- Space before a value does not count. -/
theorem value_blank_append {b : List Char} (hb : Blank b) (fuel : Nat) (s : List Char) :
    value fuel (b ++ s) = value fuel s := by
  cases fuel with
  | zero => rw [value, value]
  | succ fuel => rw [value, value, skipSpace_blank_append hb]

theorem value_skipSpace (fuel : Nat) (s : List Char) : value fuel (skipSpace s) = value fuel s := by
  have hblank : Blank (s.takeWhile isSpace) := fun c hc => isSpace_iff.1 (List.mem_takeWhile_imp hc)
  have hs := value_blank_append hblank fuel (skipSpace s)
  rw [skipSpace, List.takeWhile_append_dropWhile] at hs
  exact hs.symm

theorem items_skipSpace (fuel : Nat) (s : List Char) : items fuel (skipSpace s) = items fuel s := by
  cases fuel with
  | zero => rw [items, items]
  | succ fuel => rw [items, items, value_skipSpace]

theorem members_skipSpace (fuel : Nat) (s : List Char) :
    members fuel (skipSpace s) = members fuel s := by
  cases fuel with
  | zero => rw [members, members]
  | succ fuel => rw [members, members, value_skipSpace]

/-- Space ends a number, and so does what ends it after the space. -/
theorem ends_blank_append {b rest : List Char} (hb : Blank b) (hrest : Number.Ends rest) :
    Number.Ends (b ++ rest) := by
  cases b with
  | nil => exact hrest
  | cons c b =>
    intro d hd
    obtain rfl : c = d := Option.some.inj hd
    rcases hb c List.mem_cons_self with rfl | rfl | rfl | rfl <;> decide

/-! ### How values start -/

/-- The character is no space, and it closes nothing: a value may start with it. -/
def Opens (c : Char) : Prop := isSpace c = false ∧ c ≠ ']' ∧ c ≠ '\x7d'

instance (c : Char) : Decidable (Opens c) :=
  inferInstanceAs (Decidable (isSpace c = false ∧ c ≠ ']' ∧ c ≠ '\x7d'))

theorem opens_of_isDigit {c : Char} (h : Text.isDigit c = true) : Opens c := by
  refine ⟨?_, ne_of_isDigit h (by decide), ne_of_isDigit h (by decide)⟩
  rw [← Bool.not_eq_true, isSpace_iff]
  rintro (rfl | rfl | rfl | rfl) <;> exact absurd h (by decide)

/-- A number starts with a sign or a digit. -/
theorem cons_of_numberSpelledBy {l : Number.Literal} {s : List Char} (h : l.SpelledBy s) :
    ∃ c more, s = c :: more ∧ (c = '-' ∨ Text.isDigit c = true) := by
  obtain ⟨⟨hne, hdigits⟩, -, f, p, -, -, rfl⟩ := h
  cases l.minus with
  | true => exact ⟨_, _, rfl, .inl rfl⟩
  | false =>
    obtain ⟨d, ds, hwhole⟩ := List.exists_cons_of_ne_nil hne
    rw [hwhole]
    exact ⟨d, _, rfl, .inr (hdigits d (hwhole ▸ List.mem_cons_self))⟩

theorem cons_of_spelledBy {v : Value} {core : List Char} (h : v.SpelledBy core) :
    ∃ c more, core = c :: more ∧ Opens c := by
  match v, h with
  | .null, h => exact ⟨_, _, h, by decide⟩
  | .boolean true, h => exact ⟨_, _, h, by decide⟩
  | .boolean false, h => exact ⟨_, _, h, by decide⟩
  | .string t, ⟨inner, _, h⟩ => exact ⟨_, _, h, by decide⟩
  | .array items, ⟨inner, h, _⟩ => exact ⟨_, _, h, by decide⟩
  | .object ms, ⟨inner, h, _⟩ => exact ⟨_, _, h, by decide⟩
  | .number l, h =>
    obtain ⟨c, more, hs, hminus | hdigit⟩ := cons_of_numberSpelledBy h
    · exact ⟨c, more, hs, hminus ▸ by decide⟩
    · exact ⟨c, more, hs, opens_of_isDigit hdigit⟩

/-- After any space, a padded text starts as its core does. -/
theorem skipSpace_of_padded {core : List Char → Prop} {s : List Char} (h : Padded core s)
    (hcore : ∀ s, core s → ∃ c more, s = c :: more ∧ Opens c) (rest : List Char) :
    ∃ c more, skipSpace (s ++ rest) = c :: more ∧ Opens c := by
  obtain ⟨before, inner, after, hbefore, hinner, -, rfl⟩ := h
  obtain ⟨c, more, rfl, hc⟩ := hcore inner hinner
  refine ⟨c, more ++ (after ++ rest), ?_, hc⟩
  rw [List.append_assoc, List.append_assoc, skipSpace_blank_append hbefore, List.cons_append,
    skipSpace_cons hc.1]

theorem skipSpace_of_itemsSpelledBy {vs : List Value} {s : List Char} (h : ItemsSpelledBy vs s)
    (rest : List Char) : ∃ c more, skipSpace (s ++ rest) = c :: more ∧ Opens c := by
  match vs, h with
  | v :: _, ⟨one, hone, hs⟩ =>
    rcases hs with ⟨-, rfl⟩ | ⟨more, -, rfl⟩
    · exact skipSpace_of_padded hone (fun _ => cons_of_spelledBy) rest
    · rw [List.append_assoc]
      exact skipSpace_of_padded hone (fun _ => cons_of_spelledBy) _

theorem skipSpace_of_membersSpelledBy {ms : List (String × Value)} {s : List Char}
    (h : MembersSpelledBy ms s) (rest : List Char) :
    ∃ c more, skipSpace (s ++ rest) = c :: more ∧ Opens c := by
  have hname : ∀ (t : String) (s : List Char), StringSpelledBy t s →
      ∃ c more, s = c :: more ∧ Opens c := by
    rintro t s ⟨inner, -, rfl⟩
    exact ⟨_, _, rfl, by decide⟩
  match ms, h with
  | (key, v) :: _, ⟨name, one, hkey, _, hs⟩ =>
    rcases hs with ⟨-, rfl⟩ | ⟨more, -, rfl⟩
    all_goals
      rw [List.append_assoc]
      exact skipSpace_of_padded hkey (hname key) _

/-! ### One token -/

theorem value_number {c : Char} (h : c = '-' ∨ Text.isDigit c = true) (fuel : Nat) (s : List Char) :
    value (fuel + 1) (c :: s) = numberHead (c :: s) := by
  have hspace : isSpace c = false := by
    rcases h with rfl | h
    · decide
    · exact (opens_of_isDigit h).1
  rw [value, skipSpace_cons hspace]
  -- No other value starts as a number does.
  split
  case h_7 => rfl
  all_goals
    rename_i heq
    obtain ⟨rfl, -⟩ := List.cons.inj heq
    exact absurd h (by decide)

/-- A spelled number is read, if it is not too large. -/
theorem reads_number {l : Number.Literal} {core rest : List Char} (h : l.SpelledBy core)
    (hrest : Number.Ends rest) (fuel : Nat) :
    Reads (value (fuel + 1) (core ++ rest)) (Value.number l).readable (Value.number l).tree
      rest := by
  have hread : Number.read? (core ++ rest) =
      (Number.ofLiteral? l).map fun n => (n, rest) := by
    rw [Number.read?, Number.literal?_of_spelledBy h hrest, Option.bind_some]
  obtain ⟨c, more, rfl, hc⟩ := cons_of_numberSpelledBy h
  rw [List.cons_append] at hread ⊢
  rw [value_number hc, numberHead, hread, Value.tree, Value.readable, Reads]
  cases Number.ofLiteral? l <;> rfl

/-- After its opening quote, a spelled string is read to its end. -/
theorem stringTail_of_charsSpelledBy {t : String} {s : List Char} (h : CharsSpelledBy t.toList s)
    (rest : List Char) : stringTail (s ++ '"' :: rest) = (.string t, some rest) := by
  rw [stringTail, decode_of_charsSpelledBy h]
  simp

/-- A spelled string is read, whatever follows. -/
theorem value_of_stringSpelledBy {t : String} {core : List Char} (h : StringSpelledBy t core)
    (fuel : Nat) (rest : List Char) : value (fuel + 1) (core ++ rest) = (.string t, some rest) := by
  obtain ⟨inner, hinner, rfl⟩ := h
  have hquote : isSpace '"' = false := by decide
  rw [List.append_assoc, List.cons_append, value, skipSpace_cons hquote]
  exact stringTail_of_charsSpelledBy hinner rest

/-- The name of a member is read up to the colon, space apart. -/
theorem value_of_padded_string {t : String} {name : List Char}
    (h : Padded (StringSpelledBy t) name) (fuel : Nat) (rest : List Char) :
    ∃ u, value (fuel + 1) (name ++ ':' :: rest) = (.string t, some u) ∧
      skipSpace u = ':' :: rest := by
  obtain ⟨before, core, after, hbefore, hcore, hafter, rfl⟩ := h
  refine ⟨after ++ ':' :: rest, ?_, ?_⟩
  · rw [List.append_assoc, List.append_assoc, value_blank_append hbefore,
      value_of_stringSpelledBy hcore]
  · rw [skipSpace_blank_append hafter, skipSpace_cons (by decide)]

/-! ### Arrays and objects -/

theorem value_array_nil {s rest : List Char} (h : skipSpace s = ']' :: rest) (fuel : Nat) :
    value (fuel + 1) ('[' :: s) = (.array [], some rest) := by
  have hopen : isSpace '[' = false := by decide
  rw [value, skipSpace_cons hopen]
  simp [h]

theorem value_array_cons {c : Char} {s more : List Char} (h : skipSpace s = c :: more)
    (hc : Opens c) (fuel : Nat) :
    value (fuel + 1) ('[' :: s) = (.array (items fuel s).1, (items fuel s).2) := by
  have hopen : isSpace '[' = false := by decide
  have hitems : items fuel (c :: more) = items fuel s := h ▸ items_skipSpace fuel s
  rw [value, skipSpace_cons hopen]
  simp [h, hc.2.1, hitems]

theorem value_object_nil {s rest : List Char} (h : skipSpace s = '\x7d' :: rest) (fuel : Nat) :
    value (fuel + 1) ('\x7b' :: s) = (.object [], some rest) := by
  have hopen : isSpace '\x7b' = false := by decide
  rw [value, skipSpace_cons hopen]
  simp [h]

theorem value_object_cons {c : Char} {s more : List Char} (h : skipSpace s = c :: more)
    (hc : Opens c) (fuel : Nat) :
    value (fuel + 1) ('\x7b' :: s) = (.object (members fuel s).1, (members fuel s).2) := by
  have hopen : isSpace '\x7b' = false := by decide
  have hmembers : members fuel (c :: more) = members fuel s := h ▸ members_skipSpace fuel s
  rw [value, skipSpace_cons hopen]
  simp [h, hc.2.2, hmembers]

section

variable {fuel : Nat} {s t u rest more : List Char} {key : String} {v : Json} {b b' : Bool}

theorem items_of_cut (h : (value fuel s).2 = none) : (items (fuel + 1) s).2 = none := by
  obtain ⟨v, hv⟩ : ∃ v, value fuel s = (v, none) := ⟨_, Prod.ext rfl h⟩
  rw [items, hv]

/-- The last element, and the end of the array. -/
theorem reads_items_last (hv : Reads (value fuel s) b v t) (ht : skipSpace t = ']' :: rest) :
    Reads (items (fuel + 1) s) b [v] rest := by
  cases b with
  | true => simp [items, reads_true.1 hv, ht]
  | false => exact items_of_cut hv

/-- An element, and those after it. -/
theorem reads_items_more {vs : List Json} (hv : Reads (value fuel s) b v t)
    (ht : skipSpace t = ',' :: more) (hvs : Reads (items fuel more) b' vs rest) :
    Reads (items (fuel + 1) s) (b && b') (v :: vs) rest := by
  cases b with
  | true =>
    have hmore := hvs.map (v :: ·)
    simpa [items, reads_true.1 hv, ht] using hmore
  | false => exact items_of_cut hv

theorem members_of_cut (hs : value fuel s = (.string key, some t)) (ht : skipSpace t = ':' :: u)
    (h : (value fuel u).2 = none) : (members (fuel + 1) s).2 = none := by
  obtain ⟨v, hv⟩ : ∃ v, value fuel u = (v, none) := ⟨_, Prod.ext rfl h⟩
  simp [members, hs, ht, hv]

/-- The last member, and the end of the object. -/
theorem reads_members_last {w : List Char} (hs : value fuel s = (.string key, some t))
    (ht : skipSpace t = ':' :: u) (hv : Reads (value fuel u) b v w)
    (hw : skipSpace w = '\x7d' :: rest) :
    Reads (members (fuel + 1) s) b [(.string key, v)] rest := by
  cases b with
  | true => simp [members, hs, ht, reads_true.1 hv, hw]
  | false => exact members_of_cut hs ht hv

/-- A member, and those after it. -/
theorem reads_members_more {w : List Char} {ms : List (Json × Json)}
    (hs : value fuel s = (.string key, some t)) (ht : skipSpace t = ':' :: u)
    (hv : Reads (value fuel u) b v w) (hw : skipSpace w = ',' :: more)
    (hms : Reads (members fuel more) b' ms rest) :
    Reads (members (fuel + 1) s) (b && b') ((.string key, v) :: ms) rest := by
  cases b with
  | true =>
    have hmore := hms.map ((.string key, v) :: ·)
    simpa [members, hs, ht, reads_true.1 hv, hw] using hmore
  | false => exact members_of_cut hs ht hv

end

/-- The character ends whatever value stands before it: it is no space, and goes on with no
number. -/
def Closes (c : Char) : Prop :=
  isSpace c = false ∧ Text.isDigit c = false ∧ c ≠ '.' ∧ c ≠ 'e' ∧ c ≠ 'E'

instance (c : Char) : Decidable (Closes c) :=
  inferInstanceAs (Decidable (isSpace c = false ∧ Text.isDigit c = false ∧ c ≠ '.' ∧ c ≠ 'e' ∧
    c ≠ 'E'))

theorem Closes.ends {c : Char} (h : Closes c) (rest : List Char) : Number.Ends (c :: rest) := by
  intro d hd
  obtain rfl := Option.some.inj hd
  exact h.2

/-! ### Values, by their kinds -/

namespace Value

/-- Each spelling of the value is read into its tree, whatever ends it. -/
def ReadBack (v : Value) : Prop :=
  ∀ (core rest : List Char) (fuel : Nat), v.SpelledBy core → Number.Ends rest →
    2 * core.length ≤ fuel → Reads (value fuel (core ++ rest)) v.readable v.tree rest

/-- With space around it, a value that is read back is read up to what closes it, space apart. -/
theorem ReadBack.padded {v : Value} (hv : v.ReadBack) {c : Char} {one : List Char} {fuel : Nat}
    (h : Padded (fun core => v.SpelledBy core) one) (hc : Closes c)
    (hfuel : 2 * one.length ≤ fuel) (rest : List Char) :
    ∃ t, Reads (value fuel (one ++ c :: rest)) v.readable v.tree t ∧ skipSpace t = c :: rest := by
  obtain ⟨before, core, after, hbefore, hcore, hafter, rfl⟩ := h
  have hends : Number.Ends (after ++ c :: rest) := ends_blank_append hafter (hc.ends rest)
  refine ⟨after ++ c :: rest, ?_, ?_⟩
  · rw [List.append_assoc, List.append_assoc, value_blank_append hbefore]
    refine hv _ _ _ hcore hends ?_
    simp only [List.length_append] at hfuel
    omega
  · rw [skipSpace_blank_append hafter, skipSpace_cons hc.1]

/-- A value that does not start with space is spelled by no empty text, so it has fuel. -/
theorem exists_fuel {v : Value} {core : List Char} {fuel : Nat} (h : v.SpelledBy core)
    (hfuel : 2 * core.length ≤ fuel) : ∃ n, fuel = n + 1 ∧ 2 * core.length ≤ n + 1 := by
  obtain ⟨c, more, rfl, -⟩ := cons_of_spelledBy h
  rw [List.length_cons] at hfuel ⊢
  exact ⟨fuel - 1, by omega, by omega⟩

theorem readBack_null : null.ReadBack := by
  intro core rest fuel h _ hfuel
  obtain ⟨fuel, rfl, -⟩ := exists_fuel h hfuel
  obtain rfl := h
  rfl

theorem readBack_boolean (b : Bool) : (boolean b).ReadBack := by
  intro core rest fuel h _ hfuel
  obtain ⟨fuel, rfl, -⟩ := exists_fuel h hfuel
  cases b with
  | true =>
    obtain rfl := h
    rfl
  | false =>
    obtain rfl := h
    rfl

theorem readBack_number (l : Number.Literal) : (number l).ReadBack := by
  intro core rest fuel h hrest hfuel
  obtain ⟨fuel, rfl, -⟩ := exists_fuel h hfuel
  exact reads_number h hrest fuel

theorem readBack_string (t : String) : (string t).ReadBack := by
  intro core rest fuel h _ hfuel
  obtain ⟨fuel, rfl, -⟩ := exists_fuel h hfuel
  exact value_of_stringSpelledBy h fuel rest

end Value

/-- Elements that are read back are read together, to the end of their array. -/
theorem reads_items {vs : List Value} (hvs : ∀ v ∈ vs, v.ReadBack) {s : List Char} {fuel : Nat}
    (h : ItemsSpelledBy vs s) (hfuel : 2 * s.length + 1 ≤ fuel) (rest : List Char) :
    Reads (items fuel (s ++ ']' :: rest)) (allReadable vs) (trees vs) rest := by
  induction vs generalizing s fuel with
  | nil => exact h.elim
  | cons v vs ih =>
    obtain ⟨hv, hvs⟩ := List.forall_mem_cons.1 hvs
    obtain ⟨fuel, rfl⟩ : ∃ n, fuel = n + 1 := ⟨fuel - 1, by omega⟩
    obtain ⟨one, hone, ⟨rfl, rfl⟩ | ⟨more, hmore, rfl⟩⟩ := h
    · have hroom : 2 * s.length ≤ fuel := by omega
      obtain ⟨t, hread, ht⟩ := hv.padded (c := ']') hone (by decide) hroom rest
      rw [allReadable, allReadable, Bool.and_true]
      exact reads_items_last hread ht
    · simp only [List.length_append, List.length_cons] at hfuel
      have hroom : 2 * one.length ≤ fuel := by omega
      obtain ⟨t, hread, ht⟩ := hv.padded (c := ',') hone (by decide) hroom (more ++ ']' :: rest)
      rw [List.append_assoc, List.cons_append]
      exact reads_items_more hread ht (ih hvs hmore (by omega))

/-- Members whose values are read back are read together, to the end of their object. -/
theorem reads_members {ms : List (String × Value)} (hms : ∀ m ∈ ms, m.2.ReadBack) {s : List Char}
    {fuel : Nat} (h : MembersSpelledBy ms s) (hfuel : 2 * s.length + 1 ≤ fuel) (rest : List Char) :
    Reads (members fuel (s ++ '\x7d' :: rest)) (membersReadable ms) (memberTrees ms) rest := by
  induction ms generalizing s fuel with
  | nil => exact h.elim
  | cons m ms ih =>
    obtain ⟨key, v⟩ := m
    obtain ⟨hv, hms⟩ := List.forall_mem_cons.1 hms
    obtain ⟨name, one, hname, hone, ⟨rfl, rfl⟩ | ⟨more, hmore, rfl⟩⟩ := h
    · simp only [List.length_append, List.length_cons] at hfuel
      obtain ⟨fuel, rfl⟩ : ∃ n, fuel = n + 2 := ⟨fuel - 2, by omega⟩
      rw [List.append_assoc, List.cons_append]
      obtain ⟨u, hkey, hu⟩ := value_of_padded_string hname fuel (one ++ '\x7d' :: rest)
      have hroom : 2 * one.length ≤ fuel + 1 := by omega
      obtain ⟨t, hread, ht⟩ := hv.padded (c := '\x7d') hone (by decide) hroom rest
      rw [membersReadable, membersReadable, Bool.and_true]
      exact reads_members_last hkey hu hread ht
    · simp only [List.length_append, List.length_cons] at hfuel
      obtain ⟨fuel, rfl⟩ : ∃ n, fuel = n + 2 := ⟨fuel - 2, by omega⟩
      rw [List.append_assoc, List.cons_append, List.append_assoc, List.cons_append]
      obtain ⟨u, hkey, hu⟩ :=
        value_of_padded_string hname fuel (one ++ ',' :: (more ++ '\x7d' :: rest))
      have hroom : 2 * one.length ≤ fuel + 1 := by omega
      obtain ⟨t, hread, ht⟩ :=
        hv.padded (c := ',') hone (by decide) hroom (more ++ '\x7d' :: rest)
      exact reads_members_more hkey hu hread ht (ih hms hmore (by omega))

namespace Value

theorem readBack_array {vs : List Value} (hvs : ∀ v ∈ vs, v.ReadBack) : (array vs).ReadBack := by
  intro core rest fuel h _ hfuel
  obtain ⟨fuel, rfl, hfuel⟩ := exists_fuel h hfuel
  obtain ⟨inner, rfl, ⟨rfl, hblank⟩ | hitems⟩ := h
  · have hclose : skipSpace (inner ++ ']' :: rest) = ']' :: rest := by
      rw [skipSpace_blank_append hblank, skipSpace_cons (by decide)]
    rw [List.cons_append, List.append_assoc]
    exact value_array_nil hclose fuel
  · obtain ⟨c, more, hs, hc⟩ := skipSpace_of_itemsSpelledBy hitems (']' :: rest)
    simp only [List.length_append, List.length_cons, List.length_nil] at hfuel
    rw [List.cons_append, List.append_assoc, List.singleton_append,
      value_array_cons hs hc]
    exact (reads_items hvs hitems (by omega) rest).map Json.array

theorem readBack_object {ms : List (String × Value)} (hms : ∀ m ∈ ms, m.2.ReadBack) :
    (object ms).ReadBack := by
  intro core rest fuel h _ hfuel
  obtain ⟨fuel, rfl, hfuel⟩ := exists_fuel h hfuel
  obtain ⟨inner, rfl, ⟨rfl, hblank⟩ | hmembers⟩ := h
  · have hclose : skipSpace (inner ++ '\x7d' :: rest) = '\x7d' :: rest := by
      rw [skipSpace_blank_append hblank, skipSpace_cons (by decide)]
    rw [List.cons_append, List.append_assoc]
    exact value_object_nil hclose fuel
  · obtain ⟨c, more, hs, hc⟩ := skipSpace_of_membersSpelledBy hmembers ('\x7d' :: rest)
    simp only [List.length_append, List.length_cons, List.length_nil] at hfuel
    rw [List.cons_append, List.append_assoc, List.singleton_append,
      value_object_cons hs hc]
    exact (reads_members hms hmembers (by omega) rest).map Json.object

mutual

/-- **Each spelling of a value is read into its tree**, if no number of it is too large. -/
theorem readBack : ∀ v : Value, v.ReadBack
  | null => readBack_null
  | boolean b => readBack_boolean b
  | number l => readBack_number l
  | string t => readBack_string t
  | array vs => readBack_array (readBack_each vs)
  | object ms => readBack_object (readBack_eachMember ms)

theorem readBack_each : ∀ vs : List Value, ∀ v ∈ vs, v.ReadBack
  | [], _, h => absurd h List.not_mem_nil
  | v :: vs, w, h => by
    rcases List.mem_cons.1 h with h | h
    · exact h ▸ readBack v
    · exact readBack_each vs w h

theorem readBack_eachMember : ∀ ms : List (String × Value), ∀ m ∈ ms, m.2.ReadBack
  | [], _, h => absurd h List.not_mem_nil
  | (_, v) :: ms, m, h => by
    rcases List.mem_cons.1 h with h | h
    · exact h ▸ readBack v
    · exact readBack_eachMember ms m h

end

/-- **A text that holds a value is read into its tree**, and nothing but space is left. -/
theorem reads_ofChars {v : Value} {text : String} (h : v.WrittenIn text) :
    ∃ after, Blank after ∧ Reads (ofChars text.toList) v.readable v.tree after := by
  obtain ⟨before, core, after, hbefore, hcore, hafter, htext⟩ := h
  refine ⟨after, hafter, ?_⟩
  have hends : Number.Ends (after ++ []) := ends_blank_append hafter nofun
  rw [List.append_nil] at hends
  rw [ofChars, htext, List.append_assoc, value_blank_append hbefore]
  refine readBack v _ _ _ hcore hends ?_
  simp only [List.length_append]
  omega

end Value
end Json
end TemplateSandbox
