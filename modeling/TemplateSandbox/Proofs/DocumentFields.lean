/-
# Reading the fields of a document

A document is given by name, as a list of members, or by position, as a list of
values in the order of the fields. Nine slots are filled on the way through the
list, each from a value of its own shape.

What is read by name does not depend on the way: every member names a field, no
field is named twice, the value of each named field is read, and a field that is
not named has its default (`Document.Questions.read_named_iff`). By position each
value is read for its field (`Document.Questions.readValue_of_read_positional`).

So that one statement serves all nine fields, a slot is a field with what is in
it (`Slots.get`, `Slots.set`), and what is in it has a type that goes by the field
(`Field.Value`).
-/

import TemplateSandbox.Document.Reading

namespace TemplateSandbox
namespace Document

/-! ### Fields and what they hold -/

/-- What a field holds. -/
def Field.Value : Field → Type
  | .version => Nat
  | .mode => Mode
  | .presets => List Preset
  | .blockedByType => TypeLists
  | .trustedTypes | .allowedMethods | .blockedMethods | .blockedTypes | .blockedProperties =>
    List String

/-- What a field holds if it is not given. -/
def Field.default? : (f : Field) → Option f.Value
  | .version => none
  | .mode => some Mode.strict
  | .presets => some ([] : List Preset)
  | .blockedByType => some TypeLists.empty
  | .trustedTypes | .allowedMethods | .blockedMethods | .blockedTypes | .blockedProperties =>
    some ([] : List String)

/-- What a field of a document holds. -/
def get (d : Document) : (f : Field) → f.Value
  | .version => d.version
  | .mode => d.mode
  | .presets => d.presets
  | .trustedTypes => d.trustedTypes
  | .allowedMethods => d.allowedMethods
  | .blockedMethods => d.blockedMethods
  | .blockedByType => d.blockedByType
  | .blockedTypes => d.blockedTypes
  | .blockedProperties => d.blockedProperties

/-- A document is what its fields hold. -/
theorem ext_get {d d' : Document} (h : ∀ f, d.get f = d'.get f) : d = d' := by
  have hmk : ∀ d : Document, d = ⟨d.get .version, d.get .mode, d.get .presets,
      d.get .trustedTypes, d.get .allowedMethods, d.get .blockedMethods, d.get .blockedByType,
      d.get .blockedTypes, d.get .blockedProperties⟩ := fun _ => rfl
  rw [hmk d, hmk d', funext h]

theorem Field.label_of_ofLabel? {name : String} {f : Field} (h : ofLabel? name = some f) :
    f.label = name := by
  simpa using List.find?_some h

/-- The names tell the fields apart. -/
theorem Field.label_inj {f g : Field} : f.label = g.label ↔ f = g := by
  constructor
  · intro h
    have hsome := ofLabel?_label f
    rw [h, ofLabel?_label] at hsome
    exact (Option.some.inj hsome).symm
  · rintro rfl
    rfl

namespace Slots

/-- What is in the slot of a field. -/
def get (s : Slots) : (f : Field) → Option f.Value
  | .version => s.version
  | .mode => s.mode
  | .presets => s.presets
  | .trustedTypes => s.trustedTypes
  | .allowedMethods => s.allowedMethods
  | .blockedMethods => s.blockedMethods
  | .blockedByType => s.blockedByType
  | .blockedTypes => s.blockedTypes
  | .blockedProperties => s.blockedProperties

/-- The slots with something put into that of a field. -/
def set (s : Slots) : (f : Field) → f.Value → Slots
  | .version, x => { s with version := some x }
  | .mode, x => { s with mode := some x }
  | .presets, x => { s with presets := some x }
  | .trustedTypes, x => { s with trustedTypes := some x }
  | .allowedMethods, x => { s with allowedMethods := some x }
  | .blockedMethods, x => { s with blockedMethods := some x }
  | .blockedByType, x => { s with blockedByType := some x }
  | .blockedTypes, x => { s with blockedTypes := some x }
  | .blockedProperties, x => { s with blockedProperties := some x }

/-- The slots with these contents. -/
def ofGet (g : (f : Field) → Option f.Value) : Slots where
  version := g .version
  mode := g .mode
  presets := g .presets
  trustedTypes := g .trustedTypes
  allowedMethods := g .allowedMethods
  blockedMethods := g .blockedMethods
  blockedByType := g .blockedByType
  blockedTypes := g .blockedTypes
  blockedProperties := g .blockedProperties

@[simp] theorem get_ofGet (g : (f : Field) → Option f.Value) (f : Field) :
    (ofGet g).get f = g f := by
  cases f <;> rfl

@[simp] theorem get_empty (f : Field) : ({} : Slots).get f = none := by
  cases f <;> rfl

@[simp] theorem get_set_self (s : Slots) (f : Field) (x : f.Value) :
    (s.set f x).get f = some x := by
  cases f <;> rfl

theorem get_set_of_ne (s : Slots) {f g : Field} (x : f.Value) (h : g ≠ f) :
    (s.set f x).get g = s.get g := by
  cases f <;> cases g <;> first | rfl | exact absurd rfl h

theorem holds_eq (s : Slots) (f : Field) : s.holds f = (s.get f).isSome := by
  cases f <;> rfl

/-- Slots are what is in them. -/
theorem ext_get {s s' : Slots} (h : ∀ f, s.get f = s'.get f) : s = s' := by
  have hofGet : ∀ s : Slots, s = ofGet s.get := fun _ => rfl
  rw [hofGet s, hofGet s', funext h]

/-- Slots make a document of what is in them, and of the default of each slot that is empty. -/
theorem document?_eq_some_iff {s : Slots} {d : Document} :
    s.document? = some d ↔ ∀ f, (s.get f).or f.default? = some (d.get f) := by
  constructor
  · intro h f
    obtain ⟨version, hversion, rfl⟩ := Option.map_eq_some_iff.1 h
    cases f
    case version => exact (Option.or_none).trans hversion
    all_goals exact Option.or_some
  · intro h
    have hversion : s.version = some d.version := Option.or_none.symm.trans (h .version)
    rw [document?, hversion, Option.map_some]
    refine congrArg some (Document.ext_get fun f => ?_)
    have hf := h f
    cases f
    case version => rfl
    all_goals exact Option.some.inj (Option.or_some.symm.trans hf)

end Slots

/-! ### Reading fields -/

theorem placing_eq_ok_iff {α : Type} {move : ReadFault → ReadFault} {x : Except ReadFault α}
    {a : α} : placing move x = .ok a ↔ x = .ok a := by
  cases x <;> simp [placing]

/-- A step that goes on from another is taken if that one is. -/
theorem bind_eq_ok_iff {α β : Type} {x : Except ReadFault α} {f : α → Except ReadFault β} {b : β} :
    x >>= f = .ok b ↔ ∃ a, x = .ok a ∧ f a = .ok b := by
  cases x with
  | ok a => exact ⟨fun h => ⟨a, rfl, h⟩, fun ⟨_, ha, h⟩ => Except.ok.inj ha ▸ h⟩
  | error fault => exact ⟨nofun, nofun⟩

namespace Questions

variable {N : Type} (q : Questions N)

/-- Reads the value of one field. -/
def readValue (node : N) : (f : Field) → Except ReadFault f.Value
  | .version => q.number node
  | .mode => q.readMode node
  | .presets => q.readItems q.readPreset node
  | .blockedByType => q.readTypeLists node
  | .trustedTypes | .allowedMethods | .blockedMethods | .blockedTypes | .blockedProperties =>
    q.readTexts node

/-- To read a field is to read its value into its slot. -/
theorem readField_eq (node : N) (s : Slots) (f : Field) :
    q.readField node s f = (do return s.set f (← q.readValue node f)) := by
  cases f <;> rfl

/-! ### Fields by name -/

/-- What was read of a field: the value of its member, or what was in its slot before. -/
def Filled (ms : List (String × N)) (before after : Slots) (f : Field) : Prop :=
  (∃ node x, (f.label, node) ∈ ms ∧ q.readValue node f = .ok x ∧ after.get f = some x) ∨
    (f.label ∉ ms.map Prod.fst ∧ after.get f = before.get f)

variable {q} {mk : String → N} (hkey : ∀ name, q.key .fieldName (mk name) = .ok name)
include hkey

theorem readNamed_cons_of_unknown {name : String} (hname : Field.ofLabel? name = none) (node : N)
    (rest : List (N × N)) (s : Slots) :
    q.readNamed ((mk name, node) :: rest) s = .error ⟨.unknownField name, none⟩ := by
  simp only [readNamed, hkey, bind, Except.bind, hname]

theorem readNamed_cons_of_known {name : String} {f : Field} (hname : Field.ofLabel? name = some f)
    (node : N) (rest : List (N × N)) (s : Slots) :
    q.readNamed ((mk name, node) :: rest) s =
      if s.holds f then .error ⟨.duplicateField f, none⟩
      else placing (.under (q.step (mk name))) (q.readField node s f) >>= q.readNamed rest := by
  simp only [readNamed, hkey, bind, Except.bind, hname]

/-- A member is read if it names a field whose slot is empty and its value can be read: the value
goes into the slot. -/
theorem readNamed_cons_iff {name : String} {node : N} {rest : List (N × N)} {s s' : Slots} :
    q.readNamed ((mk name, node) :: rest) s = .ok s' ↔
      ∃ (f : Field) (x : f.Value), f.label = name ∧ s.get f = none ∧ q.readValue node f = .ok x ∧
        q.readNamed rest (s.set f x) = .ok s' := by
  constructor
  · intro h
    cases hname : Field.ofLabel? name with
    | none =>
      rw [readNamed_cons_of_unknown hkey hname] at h
      cases h
    | some f =>
      rw [readNamed_cons_of_known hkey hname] at h
      split at h
      · cases h
      · rename_i hempty
        obtain ⟨t, ht, hrest⟩ := bind_eq_ok_iff.1 h
        rw [placing_eq_ok_iff, readField_eq] at ht
        obtain ⟨x, hx, htx⟩ := bind_eq_ok_iff.1 ht
        obtain rfl := Except.ok.inj htx
        rw [Slots.holds_eq, Option.not_isSome_iff_eq_none] at hempty
        exact ⟨f, x, Field.label_of_ofLabel? hname, hempty, hx, hrest⟩
  · rintro ⟨f, x, rfl, hempty, hx, hrest⟩
    have hnot : ¬s.holds f = true := by simp [Slots.holds_eq, hempty]
    have hread : q.readField node s f = .ok (s.set f x) := by
      rw [readField_eq, hx]
      rfl
    rw [readNamed_cons_of_known hkey (Field.ofLabel?_label f), if_neg hnot, hread]
    exact hrest

omit hkey in
/-- Slots that something was put into are filled from the members after that one. -/
theorem filled_cons_iff {f g : Field} {x : f.Value} {node : N} {ms : List (String × N)}
    {s s' : Slots} (hfresh : f.label ∉ ms.map Prod.fst) (hx : q.readValue node f = .ok x) :
    Filled q ((f.label, node) :: ms) s s' g ↔ Filled q ms (s.set f x) s' g := by
  have hnode : ∀ node', (f.label, node') ∉ ms := fun node' hm => hfresh (List.mem_map_of_mem hm)
  by_cases hgf : g = f
  · subst hgf
    constructor
    · rintro (⟨node', x', hm, hx', hafter⟩ | ⟨hnot, -⟩)
      · rcases List.mem_cons.1 hm with hhead | hm
        · obtain ⟨-, rfl⟩ := Prod.mk.inj hhead
          obtain rfl := Except.ok.inj (hx.symm.trans hx')
          exact .inr ⟨hfresh, hafter.trans (s.get_set_self g x).symm⟩
        · exact absurd hm (hnode node')
      · exact absurd List.mem_cons_self hnot
    · rintro (⟨node', -, hm, -⟩ | ⟨-, hafter⟩)
      · exact absurd hm (hnode node')
      · exact .inl ⟨node, x, List.mem_cons_self, hx, hafter.trans (s.get_set_self g x)⟩
  · have hlabel : g.label ≠ f.label := fun h => hgf (Field.label_inj.1 h)
    simp [Filled, hlabel, s.get_set_of_ne x hgf]

/-- **Members are read if each names another field, with an empty slot, and all values can be
read.** Then the slots of the fields that are named are filled, and the others stay. -/
theorem readNamed_iff {ms : List (String × N)} {s s' : Slots} :
    q.readNamed (ms.map fun m => (mk m.1, m.2)) s = .ok s' ↔
      (ms.map Prod.fst).Nodup ∧ (∀ m ∈ ms, ∃ f : Field, f.label = m.1 ∧ s.get f = none) ∧
        ∀ f, Filled q ms s s' f := by
  induction ms generalizing s with
  | nil =>
    have hslots : s = s' ↔ ∀ f, s'.get f = s.get f :=
      ⟨fun h f => h ▸ rfl, fun h => Slots.ext_get fun f => (h f).symm⟩
    simpa [readNamed, Filled] using hslots
  | cons m ms ih =>
    obtain ⟨name, node⟩ := m
    rw [List.map_cons, readNamed_cons_iff hkey, List.map_cons, List.nodup_cons]
    constructor
    · rintro ⟨f, x, rfl, hempty, hx, hrest⟩
      obtain ⟨hnodup, hknown, hfilled⟩ := ih.1 hrest
      -- The slot of `f` is taken now, so no later member names `f`.
      have hother : ∀ g : Field, (s.set f x).get g = none → g ≠ f := by
        rintro g hg rfl
        rw [Slots.get_set_self] at hg
        cases hg
      have hfresh : f.label ∉ ms.map Prod.fst := by
        intro hf
        obtain ⟨m, hm, hlabel⟩ := List.mem_map.1 hf
        obtain ⟨g, hg, hget⟩ := hknown m hm
        exact hother g hget (Field.label_inj.1 (hg.trans hlabel))
      refine ⟨⟨hfresh, hnodup⟩, List.forall_mem_cons.2 ⟨⟨f, rfl, hempty⟩, fun m hm => ?_⟩,
        fun g => (filled_cons_iff hfresh hx).2 (hfilled g)⟩
      obtain ⟨g, hg, hget⟩ := hknown m hm
      exact ⟨g, hg, (s.get_set_of_ne x (hother g hget)).symm.trans hget⟩
    · rintro ⟨⟨hfresh, hnodup⟩, hknown, hfilled⟩
      obtain ⟨⟨f, rfl, hempty⟩, hlater⟩ := List.forall_mem_cons.1 hknown
      obtain ⟨x, hx⟩ : ∃ x, q.readValue node f = .ok x := by
        rcases hfilled f with ⟨node', x, hm, hx, -⟩ | ⟨hnot, -⟩
        · rcases List.mem_cons.1 hm with hhead | hm
          · obtain ⟨-, rfl⟩ := Prod.mk.inj hhead
            exact ⟨x, hx⟩
          · exact absurd (List.mem_map_of_mem hm) hfresh
        · exact absurd List.mem_cons_self hnot
      refine ⟨f, x, rfl, hempty, hx, ih.2 ⟨hnodup, fun m hm => ?_,
        fun g => (filled_cons_iff hfresh hx).1 (hfilled g)⟩⟩
      obtain ⟨g, hg, hget⟩ := hlater m hm
      have hne : g ≠ f := by
        rintro rfl
        exact hfresh (List.mem_map.2 ⟨m, hm, hg.symm⟩)
      exact ⟨g, hg, (s.get_set_of_ne x hne).trans hget⟩

/-- **A document that is given by name is read field by field.** Every member names a field and no
two the same one; each field that is named holds the value of its member, and each other one its
default. -/
theorem read_named_iff {node : N} {ms : List (String × N)} {d : Document}
    (hbody : q.body node = .ok (.named (ms.map fun m => (mk m.1, m.2)))) :
    q.read node = .ok d ↔
      (ms.map Prod.fst).Nodup ∧ (∀ m ∈ ms, ∃ f : Field, f.label = m.1) ∧
        ∀ f : Field, (∃ node, (f.label, node) ∈ ms ∧ q.readValue node f = .ok (d.get f)) ∨
          (f.label ∉ ms.map Prod.fst ∧ f.default? = some (d.get f)) := by
  have hread : q.read node = .ok d ↔
      ∃ s, q.readNamed (ms.map fun m => (mk m.1, m.2)) {} = .ok s ∧ s.document? = some d := by
    rw [read, placing_eq_ok_iff, hbody]
    change (q.readNamed _ {} >>= _) = _ ↔ _
    rw [bind_eq_ok_iff]
    refine exists_congr fun s => and_congr_right fun _ => ?_
    cases s.document? <;> simp [pure, Except.pure]
  rw [hread]
  simp only [readNamed_iff hkey, Slots.document?_eq_some_iff, Slots.get_empty, and_true]
  constructor
  · rintro ⟨s, ⟨hnodup, hknown, hfilled⟩, hdocument⟩
    refine ⟨hnodup, hknown, fun f => ?_⟩
    have hf := hdocument f
    rcases hfilled f with ⟨node, x, hm, hx, hget⟩ | ⟨hnot, hget⟩
    · rw [hget, Option.some_or] at hf
      exact .inl ⟨node, hm, Option.some.inj hf ▸ hx⟩
    · rw [hget, Slots.get_empty, Option.none_or] at hf
      exact .inr ⟨hnot, hf⟩
  · rintro ⟨hnodup, hknown, hfields⟩
    refine ⟨.ofGet fun f => if f.label ∈ ms.map Prod.fst then some (d.get f) else none,
      ⟨hnodup, hknown, fun f => ?_⟩, fun f => ?_⟩
    · rcases hfields f with ⟨node, hm, hx⟩ | ⟨hnot, -⟩
      · have hnamed : f.label ∈ ms.map Prod.fst := List.mem_map_of_mem hm
        exact .inl ⟨node, d.get f, hm, hx, by rw [Slots.get_ofGet, if_pos hnamed]⟩
      · exact .inr ⟨hnot, by rw [Slots.get_ofGet, if_neg hnot, Slots.get_empty]⟩
    · rcases hfields f with ⟨node, hm, -⟩ | ⟨hnot, hdefault⟩
      · have hnamed : f.label ∈ ms.map Prod.fst := List.mem_map_of_mem hm
        rw [Slots.get_ofGet, if_pos hnamed, Option.some_or]
      · rw [Slots.get_ofGet, if_neg hnot, Option.none_or, hdefault]

/-! ### Fields by position -/

omit hkey

/-- Values by position fill the slots of their fields, and no others. -/
theorem get_of_readPositional {fields : List Field} {nodes : List N} {s s' : Slots}
    (h : q.readPositional fields nodes s = .ok s') (hnodup : fields.Nodup) :
    (∀ f ∉ fields, s'.get f = s.get f) ∧
      ∀ f node, (f, node) ∈ fields.zip nodes →
        ∃ x, q.readValue node f = .ok x ∧ s'.get f = some x := by
  induction fields generalizing nodes s with
  | nil =>
    cases nodes with
    | nil =>
      obtain rfl := Except.ok.inj h
      exact ⟨fun _ _ => rfl, fun _ _ h => absurd h List.not_mem_nil⟩
    | cons => cases h
  | cons f fields ih =>
    obtain ⟨hf, hnodup⟩ := List.nodup_cons.1 hnodup
    cases nodes with
    | nil =>
      obtain rfl := Except.ok.inj h
      exact ⟨fun _ _ => rfl, fun _ _ h => absurd h List.not_mem_nil⟩
    | cons node rest =>
      obtain ⟨t, ht, hrest⟩ := bind_eq_ok_iff.1 h
      rw [readField_eq] at ht
      obtain ⟨x, hx, htx⟩ := bind_eq_ok_iff.1 ht
      obtain rfl := Except.ok.inj htx
      obtain ⟨hother, hfilled⟩ := ih hrest hnodup
      constructor
      · intro g hg
        obtain ⟨hne, hg⟩ := not_or.1 (mt List.mem_cons.2 hg)
        rw [hother g hg, s.get_set_of_ne x hne]
      · intro g node' hm
        rcases List.mem_cons.1 hm with hhead | hm
        · obtain ⟨rfl, rfl⟩ := Prod.mk.inj hhead
          exact ⟨x, hx, by rw [hother _ hf, Slots.get_set_self]⟩
        · exact hfilled g node' hm

/-- **A document that is given by position holds in each field the value at its position.** -/
theorem readValue_of_read_positional {node : N} {nodes : List N} {d : Document}
    (hbody : q.body node = .ok (.positional nodes)) (h : q.read node = .ok d) {f : Field}
    {value : N} (hf : (f, value) ∈ Field.all.zip nodes) :
    q.readValue value f = .ok (d.get f) := by
  rw [read, placing_eq_ok_iff, hbody] at h
  change (q.readPositional Field.all nodes {} >>= _) = _ at h
  obtain ⟨s, hs, hd⟩ := bind_eq_ok_iff.1 h
  have hdocument : s.document? = some d := by
    cases hs : s.document? with
    | none => simp [hs] at hd
    | some d' => simpa [hs, pure, Except.pure] using hd
  obtain ⟨-, hfilled⟩ := get_of_readPositional hs (by decide)
  obtain ⟨x, hx, hget⟩ := hfilled f value hf
  have hvalue := Slots.document?_eq_some_iff.1 hdocument f
  rw [hget, Option.some_or, Option.some.injEq] at hvalue
  rw [hx, hvalue]

end Questions
end Document
end TemplateSandbox
