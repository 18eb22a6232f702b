import TapeMachine.Proofs.Shell.Conversion
import TapeMachine.Proofs.Tape.Ranges
import TapeMachine.Shell.Tap

/-! Exactly the values without an unsupported part have an image in the shell.
A conversion looks at the parts of a value, at their parts, and so on, but not into values that are
of the shell already. It fails with the first unsupported value it comes to, and if there is none it
mirrors the value: numbers exactly, sequences item by item, mappings and records as dictionaries.
-/

namespace TapeMachine.Shell

namespace Datum

-----------------------------------------------------------------------------------------
-- What a conversion looks at
-----------------------------------------------------------------------------------------

/-- The values whose images the image of a value is made of: items, keys and the values under them,
public fields, and what is referred to. A value of the shell has no parts.
-/
def parts : Datum → List Datum
  | sequence items => items
  | mapping entries => entries.flatMap fun entry => [entry.1, entry.2]
  | record fields => (fields.filter (isPublic ·.1)).map (·.2)
  | reference target => [target]
  | _ => []

/-- A value is found in another one by going from parts to parts. -/
inductive Reaches : Datum → Datum → Prop
  | here (datum) : Reaches datum datum
  | part {datum part inner} (member : part ∈ datum.parts) (below : Reaches part inner)
    : Reaches datum inner

section

variable {datum part inner : Datum} {image : Value} {cause : Unsupported}

theorem mem_parts_mapping {entries : List (Datum × Datum)}
    : part ∈ (mapping entries).parts ↔ ∃ entry ∈ entries, part = entry.1 ∨ part = entry.2 := by
  simp [parts]

theorem mem_parts_record {fields : List (String × Datum)}
    : part ∈ (record fields).parts
      ↔ ∃ field ∈ fields, isPublic field.1 = true ∧ part = field.2 := by
  simp only [parts, List.mem_map, List.mem_filter, and_assoc, eq_comm]

/-- The mapping as which a record is shown has the names of the public fields as parts as well. -/
theorem mem_parts_publicEntries {fields : List (String × Datum)}
    : part ∈ (mapping (publicEntries fields)).parts
      ↔ ∃ field ∈ fields, isPublic field.1 = true ∧ (part = text field.1 ∨ part = field.2) := by
  simp only [mem_parts_mapping, publicEntries, List.mem_map, List.mem_filter]
  constructor
  · rintro ⟨_, ⟨field, ⟨member, shown⟩, rfl⟩, same⟩
    exact ⟨field, member, shown, same⟩
  · rintro ⟨field, member, shown, same⟩
    exact ⟨_, ⟨field, ⟨member, shown⟩, rfl⟩, same⟩

theorem sizeOf_lt_of_mem_parts (member : part ∈ datum.parts)
    : sizeOf part < sizeOf datum := by
  cases datum with
  | sequence items =>
      have below := List.sizeOf_lt_of_mem (show part ∈ items from member)
      rw [sequence.sizeOf_spec]
      omega
  | mapping entries =>
      obtain ⟨⟨key, value⟩, found, same⟩ := mem_parts_mapping.mp member
      have below := List.sizeOf_lt_of_mem found
      rw [mapping.sizeOf_spec]
      rcases same with rfl | rfl <;> simp at below ⊢ <;> omega
  | record fields =>
      obtain ⟨⟨name, value⟩, found, _, rfl⟩ := mem_parts_record.mp member
      have below := List.sizeOf_lt_of_mem found
      rw [record.sizeOf_spec]
      simp at below ⊢
      omega
  | reference target =>
      rw [List.mem_singleton.mp member, reference.sizeOf_spec]
      omega
  | _ => simp [parts] at member

/-- Induction over a value: what holds of a value if it holds of its parts holds of all values. -/
theorem induction {motive : Datum → Prop}
    (step : ∀ datum, (∀ part ∈ datum.parts, motive part) → motive datum)
    (datum : Datum)
    : motive datum := by
  apply step
  intro part member
  have smaller := sizeOf_lt_of_mem_parts member
  exact induction step part
termination_by sizeOf datum

-----------------------------------------------------------------------------------------
-- Which conversions fail
-----------------------------------------------------------------------------------------

theorem ConvertsTo.parts_mapping {entries : List (Datum × Datum)}
    (converts : (mapping entries).ConvertsTo image) (member : part ∈ (mapping entries).parts)
    : ∃ image, part.ConvertsTo image := by
  obtain ⟨images, entriesConvert, _⟩ := toValue_mapping_eq_ok_iff.mp converts
  obtain ⟨entry, found, same⟩ := mem_parts_mapping.mp member
  obtain ⟨pair, key, value⟩ := exists_of_forall₂ entriesConvert found
  rcases same with rfl | rfl
  · exact ⟨pair.1, key⟩
  · exact ⟨pair.2, value⟩

/-- The parts of a value that has an image have images. -/
theorem ConvertsTo.parts (converts : datum.ConvertsTo image) (member : part ∈ datum.parts)
    : ∃ image, part.ConvertsTo image := by
  cases datum with
  | sequence items =>
      obtain ⟨images, found, _⟩ := bind_eq_ok_iff.mp converts
      exact exists_of_forall₂ (toValues_eq_ok_iff.mp found) member
  | mapping entries => exact converts.parts_mapping member
  | record fields =>
      rw [ConvertsTo, toValue_record] at converts
      obtain ⟨field, found, shown, same⟩ := mem_parts_record.mp member
      apply ConvertsTo.parts_mapping converts
      exact mem_parts_publicEntries.mpr ⟨field, found, shown, Or.inr same⟩
  | reference target =>
      rw [List.mem_singleton.mp member]
      exact ⟨image, converts⟩
  | _ => simp [Datum.parts] at member

theorem exists_of_mapping_eq_error {entries : List (Datum × Datum)}
    (failed : (mapping entries).toValue = .error cause)
    : ∃ part ∈ (mapping entries).parts, part.toValue = .error cause := by
  rw [toValue, bind_eq_error_iff] at failed
  rcases failed with failed | ⟨_, _, failed⟩
  · obtain ⟨entry, member, failed | failed⟩ := exists_of_toEntries_eq_error failed
    · exact ⟨entry.1, mem_parts_mapping.mpr ⟨entry, member, Or.inl rfl⟩, failed⟩
    · exact ⟨entry.2, mem_parts_mapping.mpr ⟨entry, member, Or.inr rfl⟩, failed⟩
  · cases failed

/-- A conversion that fails has come to an unsupported value, or failed at a part. -/
theorem cases_of_toValue_eq_error (failed : datum.toValue = .error cause)
    : datum = unsupported cause.typeName ∨ ∃ part ∈ datum.parts, part.toValue = .error cause := by
  cases datum with
  | sequence items =>
      rw [toValue, bind_eq_error_iff] at failed
      rcases failed with failed | ⟨_, _, failed⟩
      · exact Or.inr (exists_of_toValues_eq_error failed)
      · cases failed
  | mapping entries => exact Or.inr (exists_of_mapping_eq_error failed)
  | record fields =>
      rw [toValue_record] at failed
      obtain ⟨part, member, failed⟩ := exists_of_mapping_eq_error failed
      obtain ⟨field, found, shown, rfl | rfl⟩ := mem_parts_publicEntries.mp member
      · -- the name of a field is a text, whose conversion does not fail
        cases failed
      · exact Or.inr ⟨_, mem_parts_record.mpr ⟨field, found, shown, rfl⟩, failed⟩
  | reference target => exact Or.inr ⟨target, List.mem_singleton_self _, failed⟩
  | unsupported typeName =>
      rw [← Except.error.inj failed]
      exact Or.inl rfl
  | _ => cases failed

/-- The unsupported value that a conversion fails with is in the value; by induction over it. -/
theorem reaches_of_toValue_eq_error (failed : datum.toValue = .error cause)
    : datum.Reaches (unsupported cause.typeName) := by
  induction datum using Datum.induction with
  | step datum ih =>
      rcases cases_of_toValue_eq_error failed with rfl | ⟨part, member, failed⟩
      · exact .here _
      · exact .part member (ih part member failed)

/-- All that is found in a value with an image has an image; by induction on the way to it. -/
theorem Reaches.converts (reaches : datum.Reaches inner) (converts : datum.ConvertsTo image)
    : ∃ image, inner.ConvertsTo image := by
  induction reaches generalizing image with
  | here datum => exact ⟨image, converts⟩
  | part member _ ih =>
      obtain ⟨found, partConverts⟩ := converts.parts member
      exact ih partConverts

theorem toValue_error_iff
    : (∃ cause, datum.toValue = .error cause)
      ↔ ∃ typeName, datum.Reaches (unsupported typeName) := by
  constructor
  · rintro ⟨cause, failed⟩
    exact ⟨cause.typeName, reaches_of_toValue_eq_error failed⟩
  · rintro ⟨typeName, reaches⟩
    cases result : datum.toValue with
    | error cause => exact ⟨cause, rfl⟩
    | ok image =>
        obtain ⟨_, converts⟩ := reaches.converts result
        cases converts

end

end Datum

-----------------------------------------------------------------------------------------
-- What images look like
-----------------------------------------------------------------------------------------

/-- The number itself, by its own width. -/
def Whole.amount : Whole → Int
  | .int8 value => value.toInt
  | .int16 value => value.toInt
  | .int32 value => value.toInt
  | .int64 value => value.toInt
  | .uint8 value => value.toNat
  | .uint16 value => value.toNat
  | .uint32 value => value.toNat
  | .uint64 value => value.toNat

/-- Widening keeps every number. -/
theorem Whole.reading_eq (whole : Whole) : whole.reading = whole.amount := by
  cases whole <;> simp [reading, amount]

namespace Datum

/-- An image shows what there is in a value. -/
inductive Mirrored : Datum → Value → Prop
  | nothing : Mirrored nothing .none
  | noReference : Mirrored noReference .none
  | bool (value) : Mirrored (bool value) (.bool value)
  | int (whole) : Mirrored (int whole) (.int whole.amount)
  | float (value) : Mirrored (float value) (.float value)
  | text (value) : Mirrored (text value) (.text value)
  | bytes (content) : Mirrored (bytes content) (.list (content.map fun byte => .int byte.toNat))
  | sequence {items images} (mirrored : List.Forall₂ Mirrored items images)
    : Mirrored (sequence items) (.list images)
  | mapping {entries images dict}
    (keys : List.Forall₂ Mirrored (entries.map (·.1)) (images.map (·.1)))
    (values : List.Forall₂ Mirrored (entries.map (·.2)) (images.map (·.2)))
    (gathers : Gathers images dict)
    : Mirrored (mapping entries) (.dict dict)
  | record {fields image} (mirrored : Mirrored (mapping (publicEntries fields)) image)
    : Mirrored (record fields) image
  | reference {target image} (mirrored : Mirrored target image)
    : Mirrored (reference target) image
  | function (identity) : Mirrored (function identity) (.function "" identity)
  | shell (value) : Mirrored (shell value) value

variable {datum : Datum} {image : Value}

theorem forall₂_mirrored {items : List Datum} {images : List Value}
    (converts : List.Forall₂ ConvertsTo items images)
    (mirrored : ∀ item ∈ items, ∀ image, item.ConvertsTo image → item.Mirrored image)
    : List.Forall₂ Mirrored items images :=
  ((List.forall₂_and_left _ _).mpr ⟨mirrored, converts⟩).imp fun _ image both => both.1 image both.2

theorem mirrored_mapping {entries : List (Datum × Datum)}
    (mirrored
      : ∀ part ∈ (Datum.mapping entries).parts,
          ∀ image, part.ConvertsTo image → part.Mirrored image)
    (converts : (Datum.mapping entries).ConvertsTo image)
    : (Datum.mapping entries).Mirrored image := by
  obtain ⟨images, entriesConvert, rfl⟩ := toValue_mapping_eq_ok_iff.mp converts
  refine .mapping (forall₂_mirrored ?_ ?_) (forall₂_mirrored ?_ ?_) (gathers_gather images)
  · rw [List.forall₂_map_left_iff, List.forall₂_map_right_iff]
    exact entriesConvert.imp fun _ _ both => both.1
  · intro key member
    obtain ⟨entry, found, rfl⟩ := List.mem_map.mp member
    exact mirrored _ (mem_parts_mapping.mpr ⟨entry, found, Or.inl rfl⟩)
  · rw [List.forall₂_map_left_iff, List.forall₂_map_right_iff]
    exact entriesConvert.imp fun _ _ both => both.2
  · intro value member
    obtain ⟨entry, found, rfl⟩ := List.mem_map.mp member
    exact mirrored _ (mem_parts_mapping.mpr ⟨entry, found, Or.inr rfl⟩)

/-- The image of a value mirrors it; by induction over the value. -/
theorem ConvertsTo.mirrored (converts : datum.ConvertsTo image) : datum.Mirrored image := by
  induction datum using Datum.induction generalizing image with
  | step datum ih =>
      have below : ∀ part ∈ datum.parts, ∀ image, part.ConvertsTo image → part.Mirrored image :=
        fun part member _ converts => ih part member converts
      cases datum with
      | sequence items =>
          obtain ⟨images, found, same⟩ := bind_eq_ok_iff.mp converts
          rw [← Except.ok.inj same]
          exact .sequence (forall₂_mirrored (toValues_eq_ok_iff.mp found) below)
      | mapping entries => exact mirrored_mapping below converts
      | record fields =>
          rw [ConvertsTo, toValue_record] at converts
          refine .record (mirrored_mapping ?_ converts)
          intro part member image partConverts
          obtain ⟨field, found, shown, rfl | rfl⟩ := mem_parts_publicEntries.mp member
          · rw [← Except.ok.inj partConverts]
            exact .text field.1
          · exact below _ (mem_parts_record.mpr ⟨field, found, shown, rfl⟩) image partConverts
      | reference target => exact .reference (below target (List.mem_singleton_self _) _ converts)
      | int whole =>
          rw [← Except.ok.inj converts, whole.reading_eq]
          exact .int whole
      | unsupported typeName => cases converts
      | _ =>
          rw [← Except.ok.inj converts]
          constructor

end Datum

-----------------------------------------------------------------------------------------
-- Named values, and those of a machine
-----------------------------------------------------------------------------------------

/-- Each of some named values is mirrored by the value of the same name. -/
def NamesMirrored (named : List (String × Datum)) (globals : Globals) : Prop :=
  List.Forall₂ (fun datum image => datum.1 = image.1 ∧ datum.2.Mirrored image.2) named globals

theorem toGlobals_of_converts {named : List (String × Datum)}
    (converts : ∀ datum ∈ named, ∃ image, datum.2.ConvertsTo image)
    : ∃ globals, toGlobals named = .ok globals ∧ NamesMirrored named globals := by
  induction named with
  | nil => exact ⟨[], rfl, .nil⟩
  | cons datum rest ih =>
      rw [List.forall_mem_cons] at converts
      obtain ⟨⟨image, first⟩, others⟩ := converts
      obtain ⟨globals, found, mirrored⟩ := ih others
      refine ⟨(datum.1, image) :: globals, ?_, .cons ⟨rfl, first.mirrored⟩ mirrored⟩
      rw [toGlobals, first, found]
      rfl

theorem registers_convert (view : MachineView)
    : ∀ datum ∈ registers view, ∃ image, datum.2.ConvertsTo image := by
  have numbers (starts : List Nat)
      : ∃ images,
          toValues (starts.map fun start => .int (.int64 (.ofNat start))) = .ok images := by
    induction starts with
    | nil => exact ⟨[], rfl⟩
    | cons start rest ih =>
        obtain ⟨images, found⟩ := ih
        exact ⟨_, by rw [List.map_cons, toValues, found]; rfl⟩
  obtain ⟨images, found⟩ := numbers view.loops
  simp only [registers, List.forall_mem_cons]
  refine ⟨⟨_, rfl⟩, ⟨_, rfl⟩, ⟨_, rfl⟩, ⟨.list images, ?_⟩, ⟨_, rfl⟩, ⟨_, rfl⟩, ⟨_, rfl⟩, ⟨_, rfl⟩,
    ⟨_, rfl⟩, ⟨_, rfl⟩, by simp⟩
  rw [Datum.ConvertsTo, Datum.toValue, found]
  rfl

/-- Nothing that the shell is given of a machine is lost. -/
theorem toGlobals_tapData (m : Machine)
    : toGlobals (tapData m) = .ok (tapGlobals m) ∧ NamesMirrored (tapData m) (tapGlobals m) := by
  have converts : ∀ datum ∈ tapData m, ∃ image, datum.2.ConvertsTo image := by
    intro datum member
    rw [tapData, List.mem_mergeSort, List.mem_append] at member
    rcases member with register | function
    · exact registers_convert m.view datum register
    · simp only [List.mem_cons, List.not_mem_nil, or_false] at function
      rcases function with rfl | rfl <;> exact ⟨_, rfl⟩
  obtain ⟨globals, found, mirrored⟩ := toGlobals_of_converts converts
  have same : tapGlobals m = globals := by rw [tapGlobals, found]
  rw [same]
  exact ⟨found, mirrored⟩

/-- The window that a machine shows is never refused, not even where it wraps. -/
theorem range?_window (m : Machine)
    : m.tape.range? (m.address - windowRadius) (m.address + windowRadius)
      = some m.view.window := by
  have width : m.address + windowRadius - (m.address - windowRadius) = 16 := by
    unfold windowRadius
    grind
  have narrow
      : Tape.rangeTooWide (m.address - windowRadius) (m.address + windowRadius) = false := by
    rw [Tape.rangeTooWide, width]
    decide
  simp [Machine.view, Tape.range?_eq, narrow]

/-- What comes of converting a value. -/
structure Datum.ConversionLaws (datum : Datum) : Prop where
  /-- It fails exactly if there is an unsupported value in the value. -/
  fails_iff
    : (∃ cause, datum.toValue = .error cause)
      ↔ ∃ typeName, datum.Reaches (.unsupported typeName)
  /-- What is reported is such a value, by the name of its type. -/
  told
    : ∀ cause,
        datum.toValue = .error cause
        → datum.Reaches (.unsupported cause.typeName)
          ∧ cause.message = "unsupported type for starlark: " ++ cause.typeName
  /-- Otherwise there is an image, and it mirrors the value. -/
  returns
    : (¬∃ typeName, datum.Reaches (.unsupported typeName))
      → ∃ image, datum.toValue = .ok image ∧ datum.Mirrored image

/-- What comes of showing a machine: its window is copied, and its registers are mirrored, by
themselves and beside the functions that read the tape.
-/
structure ShowsMachine (m : Machine) : Prop where
  window
    : m.tape.range? (m.address - windowRadius) (m.address + windowRadius) = some m.view.window
  registers
    : ∃ globals,
        toGlobals (registers m.view) = .ok globals ∧ NamesMirrored (registers m.view) globals
  tap : toGlobals (tapData m) = .ok (tapGlobals m) ∧ NamesMirrored (tapData m) (tapGlobals m)

/-- Every value is converted exactly or refused for an unsupported value in it, and what a machine
shows is never refused.
-/
theorem conversion_exact (datum : Datum) (m : Machine) : datum.ConversionLaws ∧ ShowsMachine m := by
  refine ⟨⟨datum.toValue_error_iff, ?_, ?_⟩, ?_⟩
  · intro cause failed
    exact ⟨datum.reaches_of_toValue_eq_error failed, rfl⟩
  · intro supported
    cases result : datum.toValue with
    | error cause => exact absurd (datum.toValue_error_iff.mp ⟨cause, result⟩) supported
    | ok image => exact ⟨image, rfl, Datum.ConvertsTo.mirrored result⟩
  · exact ⟨range?_window m, toGlobals_of_converts (registers_convert m.view), toGlobals_tapData m⟩

end TapeMachine.Shell
