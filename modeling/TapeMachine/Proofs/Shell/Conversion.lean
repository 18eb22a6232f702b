import Mathlib.Data.List.Forall2
import TapeMachine.Proofs.Shell.Dictionaries
import TapeMachine.Shell.Datum

/-! What becomes of mappings in the shell.
The keys and the values of a mapping have images of their own, and these are gathered in a
dictionary. An image that cannot be a key is lost with its value, and of keys with the same image
only the last one keeps its value.
-/

namespace TapeMachine.Shell

section Sequencing

variable {α β : Type} {first : Except Unsupported α} {next : α → Except Unsupported β}

theorem bind_eq_ok_iff {result : β}
    : (first >>= next) = .ok result ↔ ∃ found, first = .ok found ∧ next found = .ok result := by
  cases first <;> simp [bind, Except.bind]

theorem bind_eq_error_iff {cause : Unsupported}
    : (first >>= next) = .error cause
      ↔ first = .error cause ∨ ∃ found, first = .ok found ∧ next found = .error cause := by
  cases first <;> simp [bind, Except.bind]

end Sequencing

theorem exists_of_forall₂ {α β : Type} {relation : α → β → Prop} {front : List α} {back : List β}
    (related : List.Forall₂ relation front back) {a : α} (member : a ∈ front)
    : ∃ b, relation a b := by
  induction related with
  | nil => simp at member
  | cons first _ ih =>
      rcases List.mem_cons.mp member with rfl | member
      · exact ⟨_, first⟩
      · exact ih member

/-- A value has an image. -/
def Datum.ConvertsTo (datum : Datum) (image : Value) : Prop :=
  datum.toValue = .ok image

/-- A key and the value under it have images. -/
def EntryConverts (entry : Datum × Datum) (image : Value × Value) : Prop :=
  entry.1.ConvertsTo image.1 ∧ entry.2.ConvertsTo image.2

-----------------------------------------------------------------------------------------
-- Several values, one after the other
-----------------------------------------------------------------------------------------

theorem toValues_eq_ok_iff {items : List Datum} {images : List Value}
    : toValues items = .ok images ↔ List.Forall₂ Datum.ConvertsTo items images := by
  induction items generalizing images with
  | nil => simp [toValues, eq_comm]
  | cons item rest ih =>
      simp only [toValues, bind_eq_ok_iff, List.forall₂_cons_left_iff, ih]
      constructor
      · rintro ⟨image, converts, others, rest, same⟩
        exact ⟨image, others, converts, rest, (Except.ok.inj same).symm⟩
      · rintro ⟨image, others, converts, rest, rfl⟩
        exact ⟨image, converts, others, rest, rfl⟩

theorem exists_of_toValues_eq_error {items : List Datum} {cause : Unsupported}
    (failed : toValues items = .error cause)
    : ∃ item ∈ items, item.toValue = .error cause := by
  induction items with
  | nil => simp [toValues] at failed
  | cons item rest ih =>
      simp only [toValues, bind_eq_error_iff] at failed
      rcases failed with failed | ⟨image, _, failed | ⟨images, _, failed⟩⟩
      · exact ⟨item, List.mem_cons_self, failed⟩
      · obtain ⟨other, member, failed⟩ := ih failed
        exact ⟨other, List.mem_cons_of_mem _ member, failed⟩
      · cases failed

theorem toEntries_eq_ok_iff {dict result : List (Value × Value)} {entries : List (Datum × Datum)}
    : toEntries dict entries = .ok result
      ↔ ∃ images, List.Forall₂ EntryConverts entries images ∧ gather dict images = result := by
  induction entries generalizing dict with
  | nil => simp [toEntries, gather]
  | cons entry rest ih =>
      simp only [toEntries, bind_eq_ok_iff, List.forall₂_cons_left_iff, ih]
      constructor
      · rintro ⟨key, keyConverts, value, valueConverts, images, others, gathered⟩
        have converts : EntryConverts entry (key, value) := ⟨keyConverts, valueConverts⟩
        exact ⟨(key, value) :: images, ⟨(key, value), images, converts, others, rfl⟩, gathered⟩
      · rintro ⟨_, ⟨⟨key, value⟩, images, ⟨keyConverts, valueConverts⟩, others, rfl⟩, gathered⟩
        exact ⟨key, keyConverts, value, valueConverts, images, others, gathered⟩

theorem exists_of_toEntries_eq_error {dict : List (Value × Value)} {entries : List (Datum × Datum)}
    {cause : Unsupported} (failed : toEntries dict entries = .error cause)
    : ∃ entry ∈ entries, entry.1.toValue = .error cause ∨ entry.2.toValue = .error cause := by
  induction entries generalizing dict with
  | nil => simp [toEntries] at failed
  | cons entry rest ih =>
      simp only [toEntries, bind_eq_error_iff] at failed
      rcases failed with failed | ⟨key, _, failed | ⟨value, _, failed⟩⟩
      · exact ⟨entry, List.mem_cons_self, Or.inl failed⟩
      · exact ⟨entry, List.mem_cons_self, Or.inr failed⟩
      · obtain ⟨other, member, failed⟩ := ih failed
        exact ⟨other, List.mem_cons_of_mem _ member, failed⟩

/-- The public fields of a record, as entries of a mapping. -/
def publicEntries (fields : List (String × Datum)) : List (Datum × Datum) :=
  (fields.filter (isPublic ·.1)).map fun field => (.text field.1, field.2)

theorem toFields_eq (dict : List (Value × Value)) (fields : List (String × Datum))
    : toFields dict fields = toEntries dict (publicEntries fields) := by
  induction fields generalizing dict with
  | nil => rfl
  | cons field rest ih =>
      rw [toFields]
      by_cases shown : isPublic field.1 = true
      · have front : publicEntries (field :: rest)
            = (.text field.1, field.2) :: publicEntries rest := by
          simp [publicEntries, shown]
        rw [if_pos shown, front, toEntries, Datum.toValue]
        simp only [ih]
        rfl
      · have front : publicEntries (field :: rest) = publicEntries rest := by
          simp [publicEntries, shown]
        rw [if_neg shown, front, ih]

/-- A record is shown as the mapping that takes the names of its public fields to their values. -/
theorem toValue_record (fields : List (String × Datum))
    : (Datum.record fields).toValue = (Datum.mapping (publicEntries fields)).toValue := by
  rw [Datum.toValue, Datum.toValue, toFields_eq]

theorem toValue_mapping_eq_ok_iff {entries : List (Datum × Datum)} {image : Value}
    : (Datum.mapping entries).toValue = .ok image
      ↔ ∃ images, List.Forall₂ EntryConverts entries images ∧ .dict (gather [] images) = image := by
  simp only [Datum.toValue, bind_eq_ok_iff, toEntries_eq_ok_iff]
  constructor
  · rintro ⟨dict, ⟨images, converts, rfl⟩, same⟩
    exact ⟨images, converts, Except.ok.inj same⟩
  · rintro ⟨images, converts, rfl⟩
    exact ⟨gather [] images, ⟨images, converts, rfl⟩, rfl⟩

-----------------------------------------------------------------------------------------
-- Which mappings lose nothing
-----------------------------------------------------------------------------------------

/-- The image of a value, if it has one, may be a key. -/
def Datum.mayBeKey : Datum → Bool
  | .bytes _ => false
  | .sequence _ => false
  | .mapping _ => false
  | .record _ => false
  | .reference target => target.mayBeKey
  | .shell value => value.isKey
  | _ => true

theorem Datum.ConvertsTo.isKey_eq {datum : Datum} {image : Value}
    (converts : datum.ConvertsTo image)
    : image.isKey = datum.mayBeKey := by
  match datum with
  | .reference target =>
      have below : target.ConvertsTo image := converts
      exact below.isKey_eq
  | .sequence items =>
      obtain ⟨images, _, same⟩ := bind_eq_ok_iff.mp converts
      rw [← Except.ok.inj same]
      rfl
  | .mapping entries =>
      obtain ⟨images, _, rfl⟩ := toValue_mapping_eq_ok_iff.mp converts
      rfl
  | .record fields =>
      rw [Datum.ConvertsTo, toValue_record] at converts
      obtain ⟨images, _, rfl⟩ := toValue_mapping_eq_ok_iff.mp converts
      rfl
  | .unsupported _ => cases converts
  | .nothing | .bool _ | .int _ | .float _ | .text _ | .bytes _ | .noReference | .function _
  | .shell _ =>
      obtain rfl := Except.ok.inj converts
      rfl

variable {entries : List (Datum × Datum)} {images : List (Value × Value)}

theorem wellKeyed_iff (converts : List.Forall₂ EntryConverts entries images)
    : WellKeyed images ↔ (∀ entry ∈ entries, entry.1.mayBeKey = true) ∧ DistinctKeys images := by
  have keys : (∀ image ∈ images, image.1.isKey = true)
      ↔ ∀ entry ∈ entries, entry.1.mayBeKey = true := by
    induction converts with
    | nil => simp
    | cons first _ ih =>
        rw [List.forall_mem_cons, List.forall_mem_cons, first.1.isKey_eq]
        exact and_congr_right fun _ => ih
  rw [← keys]
  exact WellKeyed.iff_and

/-- A mapping all of whose keys and values have images becomes the dictionary that is built up from
these. It keeps all entries exactly if every key may be one in the shell and no two keys have the
same image there.
-/
theorem mapping_gathers (converts : List.Forall₂ EntryConverts entries images)
    : ∃ dict,
        (Datum.mapping entries).ConvertsTo (.dict dict)
        ∧ Gathers images dict
        ∧ (Keeps images dict
          ↔ (∀ entry ∈ entries, entry.1.mayBeKey = true) ∧ DistinctKeys images) := by
  have gathers := gathers_gather images
  refine ⟨gather [] images, toValue_mapping_eq_ok_iff.mpr ⟨images, converts, rfl⟩, gathers, ?_⟩
  rw [gathers.keeps_iff, wellKeyed_iff converts]

/-- One and the same number in two widths, a sequence, and a text. -/
def mixedKeys : List (Datum × Datum) :=
  [(.int (.int8 1), .text "signed"), (.int (.uint64 1), .text "unsigned"), (.sequence [], .nothing),
    (.text "kept", .bool true)]

theorem mapping_gathers_mixedKeys
    : ∃ images dict,
        List.Forall₂ EntryConverts mixedKeys images
        ∧ (Datum.mapping mixedKeys).ConvertsTo (.dict dict)
        ∧ findValue dict (.int 1) = some (.text "unsigned")
        ∧ ¬Keeps images dict := by
  have converts : List.Forall₂ EntryConverts mixedKeys
      [(.int 1, .text "signed"), (.int 1, .text "unsigned"), (.list [], .none),
        (.text "kept", .bool true)] :=
    .cons ⟨rfl, rfl⟩ (.cons ⟨rfl, rfl⟩ (.cons ⟨rfl, rfl⟩ (.cons ⟨rfl, rfl⟩ .nil)))
  obtain ⟨dict, becomes, gathers, keeps⟩ := mapping_gathers converts
  refine ⟨_, dict, converts, becomes, ?_, ?_⟩
  · rw [gathers.found]
    rfl
  · intro kept
    have fine := (keeps.mp kept).1 (.sequence [], .nothing) (by simp [mixedKeys])
    contradiction

/-- A sequence among the keys. -/
def sequenceKey : List (Datum × Datum) :=
  [(.sequence [.int (.int64 1)], .int (.int64 1)), (.text "kept", .int (.int64 2))]

/-- What is under a sequence is lost, though its value has an image. -/
theorem sequenceKey_loses
    : (Datum.mapping sequenceKey).toValue = .ok (.dict [(.text "kept", .int 2)])
      ∧ ¬∀ entries images,
          List.Forall₂ EntryConverts entries images
          → ∃ dict, (Datum.mapping entries).ConvertsTo (.dict dict) ∧ Keeps images dict := by
  have becomes : (Datum.mapping sequenceKey).toValue = .ok (.dict [(.text "kept", .int 2)]) := rfl
  have converts : List.Forall₂ EntryConverts sequenceKey
      [(.list [.int 1], .int 1), (.text "kept", .int 2)] :=
    .cons ⟨rfl, rfl⟩ (.cons ⟨rfl, rfl⟩ .nil)
  refine ⟨becomes, ?_⟩
  intro all
  obtain ⟨dict, found, keeps⟩ := all _ _ converts
  cases Except.ok.inj (becomes.symm.trans found)
  have length := keeps.length
  contradiction

end TapeMachine.Shell
