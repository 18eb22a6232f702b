import TapeMachine.Files.Fault
import TapeMachine.Settings.Decode
import TapeMachine.Settings.Evaluate
import TapeMachine.Settings.Path

/-!
Documents with settings. All documents are read, in order, before any of them is used, and each must
meet the schema. What is asked for is taken from the first document that has it, or from all.
-/

namespace TapeMachine.Settings

/-- A document that was read. -/
structure Document where
  path : String
  value : Value
  deriving Inhabited

/-- Why the documents cannot be used. -/
inductive LoadError where
  /-- The schema is none. -/
  | badSchema
  | unreadable (fault : FileFault)
  /-- A document describes no value. -/
  | malformed (path : String)
  /-- A document does not meet the schema. -/
  | invalid (path : String)
  deriving DecidableEq, Inhabited

/-- Reads one document and holds it against the schema, if there is one. -/
def Document.load (read : FileReader) (schema : Option Description) (path : String)
    : Except LoadError Document :=
  match read path with
  | .error fault => .error (.unreadable fault)
  | .ok content =>
    match (String.fromUTF8? content).bind Description.ofText? with
    | none => .error (.malformed path)
    | some description =>
      let value := Description.value [description]
      if !value.isKnown then .error (.malformed path)
      else if (Description.value (schema.toList ++ [description])).isPossible then
        .ok { path, value }
      else .error (.invalid path)

/-- The documents of a program, or why they cannot be used. -/
abbrev Documents := Except LoadError (List Document)

/-- Reads the documents at the given paths. An empty schema asks for nothing. -/
def Documents.load (read : FileReader) (schema : String) (paths : List String) : Documents :=
  if schema.isEmpty then paths.mapM (Document.load read none)
  else
    match Description.schemaOfText? schema with
    | none => .error .badSchema
    | some schema => paths.mapM (Document.load read (some schema))

/-- Why something is not to be had from the documents. -/
inductive LookupError where
  | load (cause : LoadError)
  /-- No document has it. -/
  | notFound
  /-- What the document has is of another shape. -/
  | mismatch (path : String)
  deriving DecidableEq, Inhabited

namespace Documents

/-- The values at a path in the documents that have one, in order. -/
def valuesAt (documents : Documents) (path : String) : Except LookupError (List Value) :=
  match documents with
  | .error cause => .error (.load cause)
  | .ok documents =>
    match Selector.ofText? path with
    | none => .ok []
    | some selectors => .ok (documents.filterMap fun document => document.value.get? selectors)

/-- The datum of a value that was found at a path. -/
def decodeAt (path : String) (shape : Shape) (value : Value) : Except LookupError Datum :=
  match value.decode? shape with
  | some datum => .ok datum
  | none => .error (.mismatch path)

/-- The datum at a path in the first document that has one. -/
def first (documents : Documents) (path : String) (shape : Shape) : Except LookupError Datum := do
  match (← documents.valuesAt path) with
  | [] => .error .notFound
  | value :: _ => decodeAt path shape value

/-- The datum at a path in the first document that has one, or the datum that stands for nothing. -/
def firstOrBlank (documents : Documents) (path : String) (shape : Shape)
    : Except LookupError Datum :=
  match documents.first path shape with
  | .error .notFound => .ok shape.blank
  | answer => answer

/-- The data at a path in all documents that have one. -/
def all (documents : Documents) (path : String) (shape : Shape)
    : Except LookupError (List Datum) := do
  (← documents.valuesAt path).mapM (decodeAt path shape)

/-- The data at a path in the first documents that have one, `count` of them. -/
def take (documents : Documents) (count : Nat) (path : String) (shape : Shape)
    : Except LookupError (List Datum) := do
  ((← documents.valuesAt path).take count).mapM (decodeAt path shape)

/-- Some document switches the setting at a path on. Documents behind the first that does are not
looked at.
-/
def anyOn (documents : Documents) (path : String) : Except LookupError Bool := do
  let rec search : List Value → Except LookupError Bool
    | [] => .ok false
    | value :: rest => do
      match (← decodeAt path .bool value) with
      | .bool true => return true
      | _ => search rest
  search (← documents.valuesAt path)

/-- The integer at a path in the first document that has one, or zero. -/
def intOrZero (documents : Documents) (path : String) : Except LookupError Int := do
  match (← documents.firstOrBlank path .word) with
  | .int value => return value
  | _ => return 0

/-- The text at a path in the first document that has one, or the empty text. -/
def textOrEmpty (documents : Documents) (path : String) : Except LookupError String := do
  match (← documents.firstOrBlank path .text) with
  | .text value => return value
  | _ => return ""

/-- The paths of the documents. -/
def paths (documents : Documents) : Except LoadError (List String) :=
  documents.map fun documents => documents.map (·.path)

end Documents

end TapeMachine.Settings
