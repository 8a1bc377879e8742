/-
# Strings and numbers are read back

Whatever follows a spelled character, `decode` reads the character and goes on
(`decode_of_charSpelledBy`), so a spelled string is read to its closing quote.

A number has no end of its own. It is read back if what follows does not go on
with it (`Number.Ends`), as what may follow a value in a text never does. The
literal that is read is a natural number exactly if it is written as one and
fits in 64 bits (`Number.ofLiteral?_eq_natural_iff`).
-/

import TemplateSandbox.Json.Quoted
import TemplateSandbox.Proofs.Json.Grammar

namespace TemplateSandbox
namespace Json

/-! ### Strings -/

/-- A spelled character is read, whatever follows. -/
theorem decode_of_charSpelledBy {c : Char} {s : List Char} (h : CharSpelledBy c s)
    (more : List Char) : decode (s ++ more) = (decode more).map fun r => (c :: r.1, r.2) := by
  cases h with
  | raw hquote hescape hcontrol =>
    simp [decode, hescape, Nat.not_lt.2 hcontrol]
  | @letter e _ h =>
    simp only [shortEscapes, List.mem_cons, Prod.mk.injEq, List.not_mem_nil, or_false] at h
    rcases h with ⟨rfl, rfl⟩ | ⟨rfl, rfl⟩ | ⟨rfl, rfl⟩ | ⟨rfl, rfl⟩ | ⟨rfl, rfl⟩ | ⟨rfl, rfl⟩ |
      ⟨rfl, rfl⟩ | ⟨rfl, rfl⟩ <;> simp [decode, shortEscape?]
  | @unit u _ h hwhole =>
    obtain ⟨a, b, c, d, rfl, hu⟩ := h
    have hhigh : isHighHalf u = false := by simp [isHighHalf]; omega
    have hlow : isLowHalf u = false := by simp [isLowHalf]; omega
    simp [decode, unit?, hu, hhigh, hlow]
  | @pair u v _ _ hu hv hfirst hsecond =>
    obtain ⟨a, b, c, d, rfl, hu⟩ := hu
    obtain ⟨a', b', c', d', rfl, hv⟩ := hv
    have hhigh : isHighHalf u = true := by simp [isHighHalf, hfirst]
    have hlow : isLowHalf v = true := by simp [isLowHalf, hsecond]
    simp [decode, unit?, hu, hv, hhigh, hlow, joinHalves]

/-- Spelled characters are read up to the quote that closes them. -/
theorem decode_of_charsSpelledBy {cs s : List Char} (h : CharsSpelledBy cs s) (rest : List Char) :
    decode (s ++ '"' :: rest) = some (cs, rest) := by
  induction cs generalizing s with
  | nil =>
    obtain rfl : s = [] := h
    simp [decode]
  | cons c cs ih =>
    obtain ⟨one, more, hone, hmore, rfl⟩ := h
    rw [List.append_assoc, decode_of_charSpelledBy hone, ih hmore]
    rfl

/-! ### The parts of a number -/

/-- No digit is a character that is none. -/
theorem ne_of_isDigit {c d : Char} (hc : Text.isDigit c = true) (hd : Text.isDigit d = false) :
    c ≠ d := by
  rintro rfl
  rw [hc] at hd
  cases hd

namespace Number

/-- What follows a number does not go on with it. -/
def Ends (rest : List Char) : Prop :=
  ∀ c ∈ rest.head?, Text.isDigit c = false ∧ c ≠ '.' ∧ c ≠ 'e' ∧ c ≠ 'E'

/-- A run of digits is read up to what is no digit. -/
theorem digits_append {ds rest : List Char} (hds : ∀ c ∈ ds, Text.isDigit c = true)
    (hrest : ∀ c ∈ rest.head?, Text.isDigit c = false) : digits (ds ++ rest) = (ds, rest) := by
  have hstop : rest.takeWhile Text.isDigit = [] ∧ rest.dropWhile Text.isDigit = rest := by
    cases rest with
    | nil => simp
    | cons c rest => simp [hrest c rfl]
  rw [digits, List.takeWhile_append_of_pos hds, List.dropWhile_append_of_pos hds, hstop.1, hstop.2,
    List.append_nil]

/-- A spelled fraction is read up to what is neither digit nor point. -/
theorem fraction?_of_spelledBy {f s rest : List Char} (h : FractionSpelledBy f s)
    (hrest : ∀ c ∈ rest.head?, Text.isDigit c = false ∧ c ≠ '.') :
    fraction? (s ++ rest) = some (f, rest) := by
  rcases h with ⟨rfl, rfl⟩ | ⟨⟨hne, hds⟩, rfl⟩
  · cases rest with
    | nil => rfl
    | cons c rest => simp [fraction?, (hrest c rfl).2]
  · rw [List.cons_append, fraction?, digits_append hds fun c hc => (hrest c hc).1]
    simp [hne]

/-- The digits of a spelled power of ten are read up to what is no digit. -/
theorem powerDigits?_of_digits {ds rest : List Char} (down : Bool) (h : Digits ds)
    (hrest : ∀ c ∈ rest.head?, Text.isDigit c = false) :
    powerDigits? down (ds ++ rest) = some (some (down, ds), rest) := by
  rw [powerDigits?, digits_append h.2 hrest]
  simp [h.1]

/-- A spelled power of ten is read up to what is neither digit nor letter of a power. -/
theorem power?_of_spelledBy {p : Option (Bool × List Char)} {s rest : List Char}
    (h : PowerSpelledBy p s) (hrest : Ends rest) : power? (s ++ rest) = some (p, rest) := by
  match p, h with
  | none, h =>
    obtain rfl : s = [] := h
    cases rest with
    | nil => rfl
    | cons c rest =>
      obtain ⟨-, -, he, hE⟩ := hrest c rfl
      simp [power?, he, hE]
  | some (down, ds), ⟨hds, letter, sign, hletter, hsign, hs⟩ =>
    subst hs
    have hread := powerDigits?_of_digits down hds fun c hc => (hrest c hc).1
    cases down with
    | true =>
      obtain rfl : sign = ['-'] := hsign
      rcases hletter with rfl | rfl <;> exact hread
    | false =>
      rcases hsign with rfl | rfl
      -- Without a sign the first digit could be taken for one, but no digit is one.
      · obtain ⟨hne, hdigits⟩ := hds
        cases ds with
        | nil => exact absurd rfl hne
        | cons d ds =>
          have hd : Text.isDigit d = true := hdigits d List.mem_cons_self
          have hplus : d ≠ '+' := ne_of_isDigit hd (by decide)
          have hminus : d ≠ '-' := ne_of_isDigit hd (by decide)
          rcases hletter with rfl | rfl <;> simpa [power?, hplus, hminus] using hread
      · rcases hletter with rfl | rfl <;> exact hread

/-- A power of ten and what follows it start with neither digit nor point. -/
theorem stop_of_powerSpelledBy {p : Option (Bool × List Char)} {s rest : List Char}
    (h : PowerSpelledBy p s) (hrest : Ends rest) :
    ∀ c ∈ (s ++ rest).head?, Text.isDigit c = false ∧ c ≠ '.' := by
  intro c hc
  match p, h with
  | none, h =>
    obtain rfl : s = [] := h
    exact ⟨(hrest c hc).1, (hrest c hc).2.1⟩
  | some _, ⟨_, letter, _, hletter, _, hs⟩ =>
    subst hs
    obtain rfl : letter = c := Option.some.inj hc
    rcases hletter with rfl | rfl <;> decide

/-- A fraction and what follows it start with no digit. -/
theorem stop_of_fractionSpelledBy {f s rest : List Char} (h : FractionSpelledBy f s)
    (hrest : ∀ c ∈ rest.head?, Text.isDigit c = false) :
    ∀ c ∈ (s ++ rest).head?, Text.isDigit c = false := by
  intro c hc
  rcases h with ⟨-, rfl⟩ | ⟨-, rfl⟩
  · exact hrest c hc
  · obtain rfl : '.' = c := Option.some.inj hc
    decide

/-- A sign before digits is seen and taken off; without one, the digits stay. -/
theorem sign_before_digits (minus : Bool) {ds : List Char} (h : Digits ds) (rest : List Char) :
    let s := (if minus then ['-'] else []) ++ (ds ++ rest)
    (s.head? == some '-') = minus ∧ (if minus then s.tail else s) = ds ++ rest := by
  obtain ⟨hne, hdigits⟩ := h
  cases minus with
  | true => simp
  | false =>
    cases ds with
    | nil => exact absurd rfl hne
    | cons d ds =>
      have hminus : d ≠ '-' := ne_of_isDigit (hdigits d List.mem_cons_self) (by decide)
      simp [hminus]

/-- **A spelled number is read up to what does not go on with it.** -/
theorem literal?_of_spelledBy {l : Literal} {s rest : List Char} (h : l.SpelledBy s)
    (hrest : Ends rest) : literal? (s ++ rest) = some (l, rest) := by
  obtain ⟨hdigits, hzero, f, p, hf, hp, rfl⟩ := h
  have hpower : power? (p ++ rest) = some (l.power, rest) := power?_of_spelledBy hp hrest
  have hfraction : fraction? (f ++ (p ++ rest)) = some (l.fraction, p ++ rest) :=
    fraction?_of_spelledBy hf (stop_of_powerSpelledBy hp hrest)
  have hwhole : digits (l.whole ++ (f ++ (p ++ rest))) = (l.whole, f ++ (p ++ rest)) :=
    digits_append hdigits.2
      (stop_of_fractionSpelledBy hf fun c hc => (stop_of_powerSpelledBy hp hrest c hc).1)
  have hzero : ¬(l.whole.head? = some '0' ∧ 1 < l.whole.length) := by
    rintro ⟨hhead, hlength⟩
    rw [hzero hhead] at hlength
    exact absurd hlength (by decide)
  obtain ⟨hminus, htail⟩ := sign_before_digits l.minus hdigits (f ++ (p ++ rest))
  simp only [List.append_assoc]
  rw [literal?, hminus, htail, hwhole]
  simp [hdigits.1, hzero, hfraction, hpower]

/-! ### Natural numbers -/

/-- Taking one more digit only makes a number larger. -/
theorem le_foldl_digits (n : Nat) (ds : List Char) :
    n ≤ ds.foldl (fun n c => n * 10 + (c.toNat - 48)) n := by
  induction ds generalizing n with
  | nil => exact Nat.le_refl n
  | cons d ds ih =>
    have hnext := ih (n * 10 + (d.toNat - 48))
    rw [List.foldl_cons]
    omega

/-- All digits are taken exactly if the number that they write fits in 64 bits. -/
theorem absorb_eq_iff {n m : Nat} {ds : List Char} (hn : n < twoTo 64) :
    absorb n ds = (m, ds.length) ↔
      ds.foldl (fun n c => n * 10 + (c.toNat - 48)) n = m ∧ m < twoTo 64 := by
  induction ds generalizing n with
  | nil =>
    simp only [absorb, List.length_nil, List.foldl_nil, Prod.mk.injEq, and_true]
    exact ⟨fun h => ⟨h, h ▸ hn⟩, And.left⟩
  | cons d ds ih =>
    have hle := le_foldl_digits (n * 10 + (d.toNat - 48)) ds
    rw [absorb, List.foldl_cons, List.length_cons]
    by_cases hnext : n * 10 + (d.toNat - 48) < twoTo 64
    · rw [if_pos hnext, ← ih hnext, Prod.ext_iff, Prod.ext_iff]
      simp
    · rw [if_neg hnext]
      simp only [Prod.mk.injEq]
      omega

/-- No more digits are taken than there are. -/
theorem absorb_snd_le (n : Nat) (ds : List Char) : (absorb n ds).2 ≤ ds.length := by
  induction ds generalizing n with
  | nil => exact Nat.le_refl 0
  | cons d ds ih =>
    have hrest := ih (n * 10 + (d.toNat - 48))
    rw [absorb]
    split <;> simp only [List.length_cons] <;> omega

/-- **A literal stands for a natural number exactly if it writes one that fits in 64 bits.** -/
theorem ofLiteral?_eq_natural_iff {l : Literal} {n : Nat} :
    ofLiteral? l = some (.natural n) ↔ l.Writes n ∧ n < twoTo 64 := by
  have hzero : 0 < twoTo 64 := Nat.two_pow_pos 64
  constructor
  · intro h
    have hle := absorb_snd_le 0 l.whole
    rw [ofLiteral?] at h
    dsimp only at h
    split at h
    · rename_i hinteger
      simp only [Bool.and_eq_true, decide_eq_true_eq, List.isEmpty_iff,
        Option.isNone_iff_eq_none] at hinteger
      obtain ⟨⟨⟨hdropped, hfraction⟩, hpower⟩, -⟩ := hinteger
      cases hminus : l.minus with
      | true => simp [hminus] at h
      | false =>
        have hn : (absorb 0 l.whole).1 = n := by simpa [hminus] using h
        have hall : absorb 0 l.whole = (n, l.whole.length) := Prod.ext hn (by dsimp only; omega)
        obtain ⟨hwhole, hfits⟩ := (absorb_eq_iff hzero).1 hall
        exact ⟨⟨hminus, hfraction, hpower, hwhole⟩, hfits⟩
    · obtain ⟨power, -, hfloat⟩ := Option.bind_eq_some_iff.1 h
      obtain ⟨x, -, hx⟩ := Option.map_eq_some_iff.1 hfloat
      cases hx
  · rintro ⟨⟨hminus, hfraction, hpower, hwhole⟩, hfits⟩
    have hall : absorb 0 l.whole = (n, l.whole.length) := (absorb_eq_iff hzero).2 ⟨hwhole, hfits⟩
    simp [ofLiteral?, hall, hminus, hfraction, hpower, fits]

end Number
end Json
end TemplateSandbox
