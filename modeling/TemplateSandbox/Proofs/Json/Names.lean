/-
# Names in JSON

A name goes out as the string of its folded text and comes back folded again
(`Json.readName_roundTrip`). Both ways go through the spellings of strings.

| step | what it does | what is known of it |
| --- | --- | --- |
| `encode` | writes one spelling of a string | `writtenIn_encode` |
| `decode` | reads every spelling, and nothing else | `decode_eq_some_iff` |
| `readName` | folds the string that is read | `readName_eq_ok_iff` |

So it does not count how a capital is spelled in a text: as itself, or by a unit. It
is folded after it was read, and two texts are read as one name exactly if their
strings spell one name.
-/

import TemplateSandbox.Proofs.Folding
import TemplateSandbox.Proofs.Json.Schema

namespace TemplateSandbox
namespace Json

open Document

/-! ### Strings that are written -/

/-- A control character is spelled by its unit. -/
theorem charSpelledBy_hexPair {c : Char} (h : c.toNat < 0x20) :
    CharSpelledBy c (['\\', 'u', '0', '0'] ++ hexPair c.toNat) := by
  have hdigits : ∀ n < 0x20, Text.natOfDigits? 16 ('0' :: '0' :: hexPair n) = some n := by decide
  have hunit : UnitSpelledBy c.toNat (['\\', 'u', '0', '0'] ++ hexPair c.toNat) :=
    ⟨_, _, _, _, rfl, hdigits _ h⟩
  have hspelled := CharSpelledBy.unit hunit (.inl (h.trans (by decide)))
  rwa [Char.ofNat_toNat] at hspelled

/-- A character is written in one of the ways to spell it. -/
theorem charSpelledBy_encodeChar (c : Char) : CharSpelledBy c (encodeChar c) := by
  -- A character that is written by one letter is one of those that have such a letter.
  have hletter : ∀ {d e : Char}, c = d → (e, d) ∈ shortEscapes → CharSpelledBy c ['\\', e] := by
    rintro d e rfl h
    exact .letter h
  unfold encodeChar
  split_ifs with hquote hescape hb hf hn hr ht hcontrol
  · exact hletter hquote (by decide)
  · exact hletter hescape (by decide)
  · exact hletter hb (by decide)
  · exact hletter hf (by decide)
  · exact hletter hn (by decide)
  · exact hletter hr (by decide)
  · exact hletter ht (by decide)
  · exact charSpelledBy_hexPair hcontrol
  · exact .raw hquote hescape (Nat.not_lt.1 hcontrol)

theorem charsSpelledBy_flatMap_encodeChar (cs : List Char) :
    CharsSpelledBy cs (cs.flatMap encodeChar) := by
  induction cs with
  | nil => rfl
  | cons c cs ih =>
    exact ⟨encodeChar c, cs.flatMap encodeChar, charSpelledBy_encodeChar c, ih, List.flatMap_cons⟩

/-- **What is written for a string holds the string.** -/
theorem writtenIn_encode (s : String) : (Value.string s).WrittenIn (encode s) := by
  refine .self ⟨s.toList.flatMap encodeChar, charsSpelledBy_flatMap_encodeChar s.toList, ?_⟩
  rw [encode, String.toList_ofList]

/-! ### Strings that are read -/

theorem mem_shortEscapes_of_shortEscape? {e c : Char} (h : shortEscape? e = some c) :
    (e, c) ∈ shortEscapes := by
  unfold shortEscape? at h
  split at h <;> cases h <;> decide

/-- These characters and the text after them are what is read, and their spelling ends with a
quote. -/
def SpelledBefore (read : List Char × List Char) (s : List Char) : Prop :=
  ∃ inner, CharsSpelledBy read.1 inner ∧ s = inner ++ '"' :: read.2

/-- One more spelled character stands before what is read after it. -/
theorem spelledBefore_of_map {c : Char} {one more : List Char} {read : List Char × List Char}
    (hone : CharSpelledBy c one) (ih : ∀ {r}, decode more = some r → SpelledBefore r more)
    (h : (decode more).map (fun r => (c :: r.1, r.2)) = some read) :
    SpelledBefore read (one ++ more) := by
  obtain ⟨r, hr, rfl⟩ := Option.map_eq_some_iff.1 h
  obtain ⟨inner, hinner, hmore⟩ := ih hr
  refine ⟨one ++ inner, ⟨one, inner, hone, hinner, rfl⟩, ?_⟩
  rw [List.append_assoc, ← hmore]

/-- What is read was spelled. -/
theorem spelledBefore_of_decode {s : List Char} {read : List Char × List Char}
    (h : decode s = some read) : SpelledBefore read s := by
  fun_induction decode s generalizing read
  case case2 rest =>
    -- The closing quote.
    obtain rfl := Option.some.inj h
    exact ⟨[], rfl, rfl⟩
  case case5 a b c d u hu hhigh e f g i rest v hv hlow ih =>
    -- A pair of units.
    simp only [isHighHalf, isLowHalf, Bool.and_eq_true, decide_eq_true_eq] at hhigh hlow
    exact spelledBefore_of_map
      (.pair ⟨a, b, c, d, rfl, hu⟩ ⟨e, f, g, i, rfl, hv⟩ hhigh hlow) ih h
  case case9 a b c d rest u hu hhigh hlow ih =>
    -- One unit.
    simp only [isHighHalf, isLowHalf, Bool.and_eq_true, decide_eq_true_eq] at hhigh hlow
    exact spelledBefore_of_map (.unit ⟨a, b, c, d, rfl, hu⟩ (by omega)) ih h
  case case11 e rest _ c hc ih =>
    -- One letter.
    exact spelledBefore_of_map (.letter (mem_shortEscapes_of_shortEscape? hc)) ih h
  case case13 c rest hquote _ _ hplain ih =>
    -- The character itself.
    simp only [Bool.or_eq_true, decide_eq_true_eq, not_or, Nat.not_lt] at hplain
    exact spelledBefore_of_map (.raw hquote hplain.1 hplain.2) ih h
  -- Everything else is refused.
  all_goals cases h

/-- **A string is read exactly if it is spelled**, and it is read up to the quote that closes it. -/
theorem decode_eq_some_iff {s : List Char} {read : List Char × List Char} :
    decode s = some read ↔ SpelledBefore read s := by
  refine ⟨spelledBefore_of_decode, ?_⟩
  rintro ⟨inner, hinner, rfl⟩
  exact decode_of_charsSpelledBy hinner read.2

/-- A value that is read as a string starts with a quote. -/
theorem stringTail_of_value {fuel : Nat} {s : List Char} {t : String} {rest : Option (List Char)}
    (h : value fuel s = (.string t, rest)) :
    ∃ tail, skipSpace s = '"' :: tail ∧ stringTail tail = (.string t, rest) := by
  have hword : ∀ {spelling : List Char} {v : Json} {tail : List Char}, v ≠ .string t →
      word spelling v tail ≠ (.string t, rest) := by
    intro spelling v tail hv hword
    rw [word] at hword
    split_ifs at hword
    · exact hv (Prod.mk.inj hword).1
    · cases hword
  cases fuel with
  | zero => cases h
  | succ fuel =>
    rw [value] at h
    split at h
    case h_1 tail hquote => exact ⟨tail, hquote, h⟩
    case h_2 => split at h <;> cases h
    case h_3 => split at h <;> cases h
    case h_4 | h_5 | h_6 => exact absurd h (hword nofun)
    case h_7 =>
      rw [numberHead] at h
      split at h <;> cases h

/-- What is read as a string is decoded after its opening quote. -/
theorem decode_of_value {fuel : Nat} {s rest : List Char} {t : String}
    (h : value fuel s = (.string t, some rest)) :
    ∃ tail, skipSpace s = '"' :: tail ∧ decode tail = some (t.toList, rest) := by
  obtain ⟨tail, hquote, htail⟩ := stringTail_of_value h
  refine ⟨tail, hquote, ?_⟩
  rw [stringTail] at htail
  split at htail
  case h_1 cs after hdecode =>
    obtain ⟨hcs, hafter⟩ := Prod.mk.inj htail
    obtain rfl := Json.string.inj hcs
    obtain rfl := Option.some.inj hafter
    rw [hdecode, String.toList_ofList]
  case h_2 => cases htail

/-- What `skipSpace` takes away is space. -/
theorem exists_blank_append (s : List Char) :
    ∃ before, Blank before ∧ s = before ++ skipSpace s := by
  refine ⟨s.takeWhile isSpace, fun c hc => ?_, List.takeWhile_append_dropWhile.symm⟩
  have hspace : isSpace c = true := List.mem_takeWhile_imp hc
  simpa [isSpace, or_assoc] using hspace

/-- Nothing is left of a text but space. -/
theorem blank_of_skipSpace_eq_nil {s : List Char} (h : skipSpace s = []) : Blank s := by
  obtain ⟨before, hbefore, hs⟩ := exists_blank_append s
  rw [h, List.append_nil] at hs
  rwa [hs]

/-- A text holds the string that is decoded after its quote, if there is only space around. -/
theorem writtenIn_of_decode {s text : String} {before tail rest : List Char}
    (h : decode tail = some (s.toList, rest)) (htext : text.toList = before ++ '"' :: tail)
    (hbefore : Blank before) (hrest : Blank rest) : (Value.string s).WrittenIn text := by
  obtain ⟨inner, hinner, rfl⟩ := decode_eq_some_iff.1 h
  refine ⟨before, '"' :: inner ++ ['"'], rest, hbefore, ⟨inner, hinner, rfl⟩, hrest, ?_⟩
  rw [htext, List.append_assoc, List.append_assoc]
  rfl

/-- A text that is read as a string holds the string. -/
theorem writtenIn_of_ofChars {text t : String} {rest : List Char}
    (h : ofChars text.toList = (.string t, some rest)) (hrest : skipSpace rest = []) :
    (Value.string t).WrittenIn text := by
  obtain ⟨tail, hquote, hdecode⟩ := decode_of_value h
  obtain ⟨before, hbefore, htext⟩ := exists_blank_append text.toList
  rw [hquote] at htext
  exact writtenIn_of_decode hdecode htext hbefore (blank_of_skipSpace_eq_nil hrest)

/-! ### Names -/

/-- **A text is read as a name exactly if it holds a string**, and the name is what the string folds
to. -/
theorem readName_eq_ok_iff {text : String} {n : MemberName} :
    readName text = .ok n ↔ ∃ s, (Value.string s).WrittenIn text ∧ MemberName.fold s = n := by
  have hfold : ∀ {j : Json}, (questions.text j).map .fold = .ok n ↔
      ∃ s, j = .string s ∧ MemberName.fold s = n := by
    intro j
    constructor
    · intro h
      cases htext : questions.text j with
      | ok s =>
        rw [htext] at h
        exact ⟨s, text_eq_ok_iff.1 htext, Except.ok.inj h⟩
      | error f =>
        rw [htext] at h
        cases h
    · rintro ⟨s, rfl, rfl⟩
      rfl
  constructor
  · intro h
    obtain ⟨hread, rest, hrest, hblank⟩ := readText_eq_ok_iff.1 h
    obtain ⟨s, hs, hn⟩ := hfold.1 hread
    exact ⟨s, writtenIn_of_ofChars (Prod.ext hs hrest) hblank, hn⟩
  · rintro ⟨s, hs, hn⟩
    exact (readText_iff_read_tree hs).2 ⟨rfl, hfold.2 ⟨s, rfl, hn⟩⟩

/-- A text that holds a string is read as the name that the string spells. -/
theorem readName_of_writtenIn {s text : String} (h : (Value.string s).WrittenIn text) :
    readName text = .ok (.fold s) := readName_eq_ok_iff.2 ⟨s, h, rfl⟩

/-- A name that was written is read back. -/
theorem readName_encode (n : MemberName) : readName (encode n.text) = .ok n := by
  rw [readName_of_writtenIn (writtenIn_encode n.text), MemberName.fold_text]

/-- The name that a text holds, written anew. -/
def rewriteName (text : String) : Except ReadFault String :=
  (readName text).map fun n => encode n.text

theorem rewriteName_of_writtenIn {s text : String} (h : (Value.string s).WrittenIn text) :
    rewriteName text = .ok (encode (foldText s)) := by
  rw [rewriteName, readName_of_writtenIn h]
  rfl

/-- Two names are written alike only if they are one. -/
theorem encode_text_inj {m n : MemberName} : encode m.text = encode n.text ↔ m = n := by
  refine ⟨fun h => ?_, fun h => h ▸ rfl⟩
  have hread : (.ok m : Except ReadFault MemberName) = .ok n := by
    rw [← readName_encode m, ← readName_encode n, h]
  exact Except.ok.inj hread

/-- **Names come back as they went out, and every name that comes in is folded.** A text that holds
a string, however it spells its characters, is read as the name that the string folds to; from no
other text a name is read. What is written for a name is read as that name. So a name that was read,
written anew and read again is the same name, in the same writing. Two texts are read as one name
exactly if their strings spell one name, and exactly then the name is written alike. -/
theorem readName_roundTrip {s s' text text' : String} (h : (Value.string s).WrittenIn text)
    (h' : (Value.string s').WrittenIn text') :
    readName text = .ok (.fold s) ∧
    (∀ other n, readName other = .ok n → NoCapital n.text ∧
      ∃ t, (Value.string t).WrittenIn other ∧ MemberName.fold t = n) ∧
    (∀ n : MemberName, readName (encode n.text) = .ok n) ∧
    (∃ anew, rewriteName text = .ok anew ∧ readName anew = readName text ∧
      rewriteName anew = .ok anew) ∧
    (readName text = readName text' ↔ SameName s s') ∧
    (rewriteName text = rewriteName text' ↔ SameName s s') := by
  have hread : readName text = .ok (.fold s) := readName_of_writtenIn h
  have hanew : (Value.string (foldText s)).WrittenIn (encode (foldText s)) :=
    writtenIn_encode (foldText s)
  refine ⟨hread, fun other n hn => ?_, readName_encode, ⟨_, rewriteName_of_writtenIn h, ?_, ?_⟩,
    ?_, ?_⟩
  · exact ⟨foldText_eq_self_iff.1 n.folded, readName_eq_ok_iff.1 hn⟩
  · exact (readName_encode (.fold s)).trans hread.symm
  · rw [rewriteName_of_writtenIn hanew, foldText_foldText]
  · rw [hread, readName_of_writtenIn h', Except.ok.injEq, MemberName.fold_eq_fold_iff]
  · rw [rewriteName_of_writtenIn h, rewriteName_of_writtenIn h', Except.ok.injEq,
      ← MemberName.fold_eq_fold_iff]
    exact encode_text_inj (m := .fold s) (n := .fold s')

/-- Capitals that are spelled by units, a line feed, and a capital beyond the basic plane that is
none of the alphabet; and the same name with other capitals, other escapes and space around it. -/
theorem readName_roundTrip_units :
    let text := "\"\\u0042indEven\\u0054\\n\\ud835\\udd38\""
    let text' := " \"bINDeVENT\\u000A𝔸\"\t"
    (Value.string "BindEvenT\n𝔸").WrittenIn text ∧ (Value.string "bINDeVENT\n𝔸").WrittenIn text' ∧
      readName text = .ok (.fold "bindevent\n𝔸") ∧ readName text' = readName text ∧
      rewriteName text' = .ok "\"bindevent\\n𝔸\"" := by
  intro text text'
  have hdecode : decode "\\u0042indEven\\u0054\\n\\ud835\\udd38\"".toList =
      some ("BindEvenT\n𝔸".toList, []) := by decide +kernel
  have hdecode' : decode "bINDeVENT\\u000A𝔸\"\t".toList = some ("bINDeVENT\n𝔸".toList, ['\t']) := by
    decide +kernel
  have h : (Value.string "BindEvenT\n𝔸").WrittenIn text :=
    writtenIn_of_decode hdecode (show _ = [] ++ _ by decide +kernel) (by simp [Blank])
      (by simp [Blank])
  have h' : (Value.string "bINDeVENT\n𝔸").WrittenIn text' :=
    writtenIn_of_decode hdecode' (show _ = [' '] ++ _ by decide +kernel) (by simp [Blank])
      (by simp [Blank])
  have hname : SameName "BindEvenT\n𝔸" "bINDeVENT\n𝔸" := by
    rw [← MemberName.fold_eq_fold_iff]
    decide +kernel
  obtain ⟨hread, -, -, -, hsame, hwritten⟩ := readName_roundTrip h h'
  refine ⟨h, h', ?_, (hsame.2 hname).symm, ?_⟩
  · rw [hread]
    decide +kernel
  · rw [← hwritten.2 hname]
    decide +kernel

end Json
end TemplateSandbox
