import TapeMachine.Settings.Document
import TapeMachine.Settings.Schema

/-! What a list of documents gives for one setting. Documents are loaded all or none, and what is
looked up in them depends only on what each of them gives for the setting: nothing, or a datum of
the shape that is asked for.
-/

namespace TapeMachine.Settings

-----------------------------------------------------------------------------------------
-- Loading
-----------------------------------------------------------------------------------------

set_option maxRecDepth 4096 in
/-- The text of the schema is one. -/
theorem isSome_schemaOfText?_schema : (Description.schemaOfText? schema).isSome := by
  -- Only the characters of the text are kept: decoding a long literal takes its time.
  suffices known : ∀ text : String, text.toList = schema.toList
      → (Description.schemaOfText? text).isSome from known schema rfl
  intro text same
  have opening : ("close(\x7b" : String).toList = _ := String.toList_ofList
  have middle : schema.toList = _ :=
    (congrArg String.toList schema.eq_1).trans String.toList_ofList
  have closing : ("\x7d)" : String).toList = _ := String.toList_ofList
  unfold Description.schemaOfText? Description.ofText? Source.parse Token.scan Grammar.depthFor
  rw [← String.length_toList, String.toList_append, String.toList_append, opening, same, middle,
    closing]
  decide +kernel

/-- The schema as it is read. -/
def describedSchema : Description :=
  (Description.schemaOfText? schema).get isSome_schemaOfText?_schema

/-- Documents are loaded one by one, each against the schema. -/
theorem Documents.load_schema (read : FileReader) (paths : List String)
    : Documents.load read schema paths
      = paths.mapM (Document.load read (some describedSchema)) := by
  have filled : schema.isEmpty = false := by simp [schema]
  have described : Description.schemaOfText? schema = some describedSchema :=
    (Option.some_get _).symm
  simp only [Documents.load, filled, described, Bool.false_eq_true, if_false]

/-- If every document can be loaded, they are loaded in order. -/
theorem Documents.load_of_success {read : FileReader} {paths : List String}
    {document : String → Document}
    (loads : ∀ path ∈ paths,
      Document.load read (some describedSchema) path = .ok (document path))
    : Documents.load read schema paths = .ok (paths.map document) := by
  rw [Documents.load_schema]
  induction paths with
  | nil => rfl
  | cons path rest ih =>
      obtain ⟨here, later⟩ := List.forall_mem_cons.mp loads
      rw [List.mapM_cons, here, ih later]
      rfl

/-- If one document cannot be loaded, none can be used. -/
theorem Documents.load_of_failure {read : FileReader} {paths : List String} {path : String}
    {cause : LoadError} (among : path ∈ paths)
    (fails : Document.load read (some describedSchema) path = .error cause)
    : ∃ first, Documents.load read schema paths = .error first := by
  rw [Documents.load_schema]
  induction paths with
  | nil => cases among
  | cons other rest ih =>
      rw [List.mapM_cons]
      cases here : Document.load read (some describedSchema) other with
      | error first => exact ⟨first, rfl⟩
      | ok document =>
          have behind : path ∈ rest := (List.mem_cons.mp among).resolve_left fun same => by
            rw [← same, fails] at here
            cases here
          obtain ⟨first, later⟩ := ih behind
          exact ⟨first, by rw [later]; rfl⟩

-----------------------------------------------------------------------------------------
-- Looking up
-----------------------------------------------------------------------------------------

/-- What a document gives for a setting when a datum of a shape is asked for: nothing if it does not
have the setting, and a datum if it does.
-/
def Document.Gives (document : Document) (name : String) (shape : Shape) (datum : Option Datum)
    : Prop :=
  (document.value.get? [.field (.plain name)]).map (Value.decode? shape) = datum.map some

namespace Documents

variable {paths : List String} {document : String → Document} {name : String} {shape : Shape}
  {datum : String → Option Datum}

/-- The values that are found for a setting stand for the data that the documents give. -/
theorem valuesAt_of_gives (spelled : Selector.ofText? name = some [.field (.plain name)])
    (gives : ∀ path ∈ paths, (document path).Gives name shape (datum path))
    : ∃ values, valuesAt (.ok (paths.map document)) name = .ok values
      ∧ values.map (Value.decode? shape) = (paths.filterMap datum).map some := by
  simp only [valuesAt, spelled]
  refine ⟨_, rfl, ?_⟩
  induction paths with
  | nil => rfl
  | cons path rest ih =>
      obtain ⟨here, later⟩ := List.forall_mem_cons.mp gives
      have remaining := ih later
      unfold Document.Gives at here
      cases found : (document path).value.get? [.field (.plain name)] with
      | none =>
          have nothing : datum path = none := by simpa [found] using here.symm
          simpa [found, nothing] using remaining
      | some value =>
          obtain ⟨given, is, decoded⟩ : ∃ given, datum path = some given
              ∧ some given = value.decode? shape := by simpa [found] using here.symm
          simpa [found, is, ← decoded] using remaining

/-- The first datum is that of the earliest document which gives one. -/
theorem first_of_gives {α : Type} {given : String → Option α} {toDatum : α → Datum}
    (spelled : Selector.ofText? name = some [.field (.plain name)])
    (gives : ∀ path ∈ paths, (document path).Gives name shape ((given path).map toDatum))
    : first (.ok (paths.map document)) name shape
      = match paths.findSome? given with
        | some setting => .ok (toDatum setting)
        | none => .error .notFound := by
  obtain ⟨values, found, same⟩ := valuesAt_of_gives spelled gives
  rw [← List.map_filterMap, List.map_map] at same
  rw [← List.head?_filterMap]
  unfold first
  rw [found]
  cases values with
  | nil =>
      have nothing : paths.filterMap given = [] := by simpa using same.symm
      rw [nothing]
      rfl
  | cons value rest =>
      cases settings : paths.filterMap given with
      | nil => simp [settings] at same
      | cons setting others =>
          rw [settings] at same
          have decoded : value.decode? shape = some (toDatum setting) := (List.cons.inj same).1
          simp [bind, Except.bind, decodeAt, decoded]

/-- The first datum, or the one that stands for nothing. -/
theorem firstOrBlank_of_gives {α : Type} {given : String → Option α} {toDatum : α → Datum}
    (spelled : Selector.ofText? name = some [.field (.plain name)])
    (gives : ∀ path ∈ paths, (document path).Gives name shape ((given path).map toDatum))
    : firstOrBlank (.ok (paths.map document)) name shape
      = .ok (((paths.findSome? given).map toDatum).getD shape.blank) := by
  unfold firstOrBlank
  rw [first_of_gives spelled gives]
  cases paths.findSome? given <;> rfl

/-- The first integer, or zero. -/
theorem intOrZero_of_gives {number : String → Option Int}
    (spelled : Selector.ofText? name = some [.field (.plain name)])
    (gives : ∀ path ∈ paths, (document path).Gives name .word ((number path).map .int))
    : intOrZero (.ok (paths.map document)) name = .ok ((paths.findSome? number).getD 0) := by
  unfold intOrZero
  rw [firstOrBlank_of_gives spelled gives]
  cases paths.findSome? number <;> rfl

/-- The first text, or the empty one. -/
theorem textOrEmpty_of_gives {α : Type} {given : String → Option α} {toText : α → String}
    (spelled : Selector.ofText? name = some [.field (.plain name)])
    (gives : ∀ path ∈ paths, (document path).Gives name .text
      ((given path).map fun setting => .text (toText setting)))
    : textOrEmpty (.ok (paths.map document)) name
      = .ok (((paths.findSome? given).map toText).getD "") := by
  unfold textOrEmpty
  rw [firstOrBlank_of_gives spelled gives]
  cases paths.findSome? given <;> rfl

/-- The search stops at the first value that is on, and all values before are off. -/
theorem search_eq {values : List Value} {flags : List Bool}
    (same : values.map (Value.decode? .bool) = flags.map fun flag => some (.bool flag))
    : anyOn.search name values = .ok (flags.any id) := by
  induction values generalizing flags with
  | nil =>
      have nothing : flags = [] := by simpa using same.symm
      rw [nothing]
      rfl
  | cons value rest ih =>
      cases flags with
      | nil => simp at same
      | cons flag others =>
          obtain ⟨decoded, remaining⟩ := List.cons.inj same
          unfold anyOn.search
          cases flag with
          | true => simp [decodeAt, decoded, bind, Except.bind, pure, Except.pure]
          | false => simpa [decodeAt, decoded, bind, Except.bind] using ih remaining

/-- A switch is on if any document switches it on. -/
theorem anyOn_of_gives {flag : String → Option Bool}
    (spelled : Selector.ofText? name = some [.field (.plain name)])
    (gives : ∀ path ∈ paths, (document path).Gives name .bool ((flag path).map .bool))
    : anyOn (.ok (paths.map document)) name
      = .ok (paths.any fun path => flag path = some true) := by
  obtain ⟨values, found, same⟩ := valuesAt_of_gives spelled gives
  have flags : values.map (Value.decode? .bool)
      = (paths.filterMap flag).map fun flag => some (.bool flag) := by
    rw [same, ← List.map_filterMap, List.map_map]
    rfl
  unfold anyOn
  rw [found]
  show anyOn.search name values = _
  rw [search_eq flags, List.any_filterMap]
  congr 2
  funext path
  cases flag path with
  | none => rfl
  | some on => cases on <;> rfl

end Documents

end TapeMachine.Settings
