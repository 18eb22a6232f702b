import TapeMachine.Proofs.Settings.Documents
import TapeMachine.Proofs.Tape.Cells
import TapeMachine.Session.Run

/-! The settings in effect, from the flags and from what each document says. Three rules are at
work on one list of documents: the first number that is not zero, the first number at all, and
any switch that is on. The documents must be usable under each of them, whatever the flags are.
-/

namespace TapeMachine.Settings

-----------------------------------------------------------------------------------------
-- What a document says
-----------------------------------------------------------------------------------------

/-- What a document that meets the schema says about the machine. It may be silent about each
setting; its numbers fit into a word.
-/
structure Said where
  maxDepth : Option Int := none
  maxCells : Option Int := none
  endOfInput : Option EndOfInput := none
  trace : Option Bool := none
  breakpoints : Option Bool := none
  maxDepth_valid : ∀ depth ∈ maxDepth, 0 < depth ∧ depth < 0x8000000000000000 := by decide
  maxCells_valid : ∀ cells ∈ maxCells, 0 ≤ cells ∧ cells < 0x8000000000000000 := by decide
  endOfInput_valid : ∀ policy ∈ endOfInput, policy ∈ [.unchanged, .zero, .max] := by decide
  deriving DecidableEq

namespace Document

/-- What a document has for a setting, as an atom if it is concrete. -/
def atomAt (document : Document) (name : String) : Option (Option Atom) :=
  (document.value.get? [.field (.plain name)]).map (·.settled.atom?)

/-- The document has concrete values for the settings about which something is said, and does not
have the others.
-/
structure Says (document : Document) (said : Said) : Prop where
  maxDepth : document.atomAt "max_depth" = said.maxDepth.map fun depth => some (.int depth)
  maxCells : document.atomAt "max_cells" = said.maxCells.map fun cells => some (.int cells)
  endOfInput :
    document.atomAt "eof" = said.endOfInput.map fun policy => some (.text policy.name)
  trace : document.atomAt "trace" = said.trace.map fun on => some (.bool on)
  breakpoints : document.atomAt "breakpoints" = said.breakpoints.map fun on => some (.bool on)

instance (document : Document) (said : Said) : Decidable (document.Says said) :=
  decidable_of_iff
    (document.atomAt "max_depth" = (said.maxDepth.map fun depth => some (.int depth))
      ∧ document.atomAt "max_cells" = (said.maxCells.map fun cells => some (.int cells))
      ∧ document.atomAt "eof" = (said.endOfInput.map fun policy => some (.text policy.name))
      ∧ document.atomAt "trace" = (said.trace.map fun on => some (.bool on))
      ∧ document.atomAt "breakpoints" = (said.breakpoints.map fun on => some (.bool on)))
    ⟨fun ⟨depth, cells, policy, trace, breakpoints⟩ =>
        ⟨depth, cells, policy, trace, breakpoints⟩,
      fun heard =>
        ⟨heard.maxDepth, heard.maxCells, heard.endOfInput, heard.trace, heard.breakpoints⟩⟩

end Document

/-- What becomes of a document when it is loaded: it fails, or it is read and says something. -/
def Accounts (schema : Description) (read : FileReader) (path : String) : Option Said → Prop
  | none => ∃ cause, Document.load read (some schema) path = .error cause
  | some said =>
      ∃ document, Document.load read (some schema) path = .ok document ∧ document.Says said

instance (schema : Description) (read : FileReader) (path : String) (account : Option Said)
    : Decidable (Accounts schema read path account) :=
  match account, loaded : Document.load read (some schema) path with
  | none, .error cause => .isTrue ⟨cause, loaded⟩
  | none, .ok _ => .isFalse fun ⟨_, failed⟩ => by rw [loaded] at failed; cases failed
  | some _, .error _ => .isFalse fun ⟨_, read, _⟩ => by rw [loaded] at read; cases read
  | some said, .ok document =>
      decidable_of_iff (document.Says said)
        ⟨fun heard => ⟨document, loaded, heard⟩,
          fun ⟨_, read, heard⟩ => by rw [loaded] at read; cases read; exact heard⟩

-----------------------------------------------------------------------------------------
-- Taking out what is said
-----------------------------------------------------------------------------------------

namespace Value

theorem eq_of_atom? {value : Value} {atom : Atom} (concrete : value.atom? = some atom)
    : value = .atom atom := by
  unfold atom? at concrete
  split at concrete
  · cases concrete
    rfl
  · cases concrete

/-- An integer that fits into a word is taken out as it is. -/
theorem decode?_word {value : Value} {number : Int}
    (concrete : value.settled.atom? = some (.int number))
    (low : -0x8000000000000000 ≤ number) (high : number < 0x8000000000000000)
    : value.decode? .word = some (.int number) := by
  have atMost : number ≤ 0x7fffffffffffffff := by omega
  simp [Shape.word, decode?, eq_of_atom? concrete, atom, Atom.int, Number.ofInt, low, atMost]

theorem decode?_text {value : Value} {text : String}
    (concrete : value.settled.atom? = some (.text text))
    : value.decode? .text = some (.text text) := by
  simp [decode?, eq_of_atom? concrete, atom]

theorem decode?_bool {value : Value} {on : Bool}
    (concrete : value.settled.atom? = some (.bool on))
    : value.decode? .bool = some (.bool on) := by
  simp [decode?, eq_of_atom? concrete, atom]

/-- A datum that may be missing is present if it is a number. -/
theorem decode?_optional {value : Value} {number : Int} {shape : Shape}
    (concrete : value.settled.atom? = some (.int number))
    : value.decode? (.optional shape) = (value.decode? shape).map .present := by
  simp [decode?, eq_of_atom? concrete, atom, Atom.int, isVacant]

end Value

/-- What is said about a setting is given as data of a shape in which its atoms can be taken out. -/
theorem Document.gives_of_atomAt {α : Type} {document : Document} {name : String} {shape : Shape}
    {said : Option α} {atom : α → Atom} {datum : α → Datum}
    (has : document.atomAt name = said.map fun setting => some (atom setting))
    (decodes : ∀ setting ∈ said, ∀ value : Value, value.settled.atom? = some (atom setting)
      → value.decode? shape = some (datum setting))
    : document.Gives name shape (said.map datum) := by
  unfold atomAt at has
  unfold Gives
  cases found : document.value.get? [.field (.plain name)] with
  | none =>
      have silent : said = none := by simpa [found] using has.symm
      rw [silent]
      rfl
  | some value =>
      obtain ⟨setting, spoken, concrete⟩ : ∃ setting, said = some setting
          ∧ some (atom setting) = value.settled.atom? := by simpa [found] using has.symm
      rw [spoken, Option.map_some, decodes setting spoken value concrete.symm]
      rfl

-----------------------------------------------------------------------------------------
-- Settings of documents that say something
-----------------------------------------------------------------------------------------

/-- What the earliest document that is not silent about a setting says about it. -/
def earliest {α : Type} (paths : List String) (said : String → Said) (setting : Said → Option α)
    : Option α :=
  paths.findSome? fun path => setting (said path)

/-- The settings that flags and documents come to. -/
def combined (flags : MachineFlags) (paths : List String) (said : String → Said)
    : MachineSettings where
  maxDepth :=
    if flags.maxDepth ≠ 0 then flags.maxDepth
    else (earliest paths said (·.maxDepth)).getD defaultMaxDepth
  maxCells :=
    if flags.maxCells ≠ 0 then max flags.maxCells 0
    else (earliest paths said (·.maxCells)).getD defaultMaxCells
  endOfInput :=
    if flags.endOfInput ≠ "" then flags.endOfInput
    else ((earliest paths said (·.endOfInput)).getD .unchanged).name
  trace := 1 ≤ flags.verbosity || paths.any fun path => (said path).trace = some true
  breakpoints := flags.breakpoints || paths.any fun path => (said path).breakpoints = some true

section

variable {paths : List String} {document : String → Document} {said : String → Said}

theorem firstNonzero_cons (value : Int) (rest : List Int)
    : Text.firstNonzero (value :: rest) = if value ≠ 0 then value else Text.firstNonzero rest := by
  unfold Text.firstNonzero
  by_cases zero : value = 0 <;> simp [zero]

theorem firstNonempty_cons (text : String) (rest : List String)
    : Text.firstNonempty (text :: rest) = if text ≠ "" then text else Text.firstNonempty rest := by
  unfold Text.firstNonempty
  by_cases blank : text = "" <;> simp [blank]

/-- The name of a setting is the path to it. -/
theorem spelled_of_mem {name : String}
    (setting : name ∈ ["max_depth", "max_cells", "eof", "trace", "breakpoints"])
    : Selector.ofText? name = some [.field (.plain name)] := by
  have all : ∀ name ∈ ["max_depth", "max_cells", "eof", "trace", "breakpoints"],
      Selector.ofText? name = some [.field (.plain name)] := by
    decide +kernel
  exact all name setting

/-- A policy that a document may name has a name, by which it is known. -/
theorem ofName?_name {policy : EndOfInput} (named : policy ∈ [.unchanged, .zero, .max])
    : policy.name ≠ "" ∧ EndOfInput.ofName? policy.name = some policy := by
  simp only [List.mem_cons, List.not_mem_nil, or_false] at named
  rcases named with rfl | rfl | rfl <;> exact ⟨by decide, by decide⟩

/-- A policy that is said to hold is known by its name. -/
theorem named_of_earliest {policy : EndOfInput}
    (first : earliest paths said (·.endOfInput) = some policy)
    : policy ∈ [.unchanged, .zero, .max] := by
  obtain ⟨path, -, spoken⟩ := List.exists_of_findSome?_eq_some first
  exact (said path).endOfInput_valid policy spoken

theorem effectiveMaxDepth_of_said (flags : MachineFlags)
    (heard : ∀ path ∈ paths, (document path).Says (said path))
    : effectiveMaxDepth flags (.ok (paths.map document))
      = .ok (combined flags paths said).maxDepth := by
  have written := Documents.intOrZero_of_gives (spelled_of_mem (by simp)) fun path among =>
    Document.gives_of_atomAt (heard path among).maxDepth fun depth stated value concrete => by
      obtain ⟨positive, fits⟩ := (said path).maxDepth_valid depth stated
      exact Value.decode?_word concrete (by omega) fits
  unfold effectiveMaxDepth combined
  rw [written]
  show Except.ok (Text.firstNonzero [_, (earliest paths said (·.maxDepth)).getD 0, _]) = _
  rw [firstNonzero_cons, firstNonzero_cons]
  -- A document never says zero, so zero stands for silence here.
  cases first : earliest paths said (·.maxDepth) with
  | none => rfl
  | some depth =>
      obtain ⟨path, -, spoken⟩ := List.exists_of_findSome?_eq_some first
      have positive := ((said path).maxDepth_valid depth spoken).1
      rw [Option.getD_some, if_pos (by omega : depth ≠ 0)]
      rfl

theorem effectiveMaxCells_of_said (flags : MachineFlags)
    (heard : ∀ path ∈ paths, (document path).Says (said path))
    : effectiveMaxCells flags (.ok (paths.map document))
      = .ok (combined flags paths said).maxCells := by
  have written := Documents.first_of_gives (spelled_of_mem (by simp)) fun path among =>
    Document.gives_of_atomAt (heard path among).maxCells fun cells stated value concrete => by
      obtain ⟨notNegative, fits⟩ := (said path).maxCells_valid cells stated
      rw [Value.decode?_optional concrete, Value.decode?_word concrete (by omega) fits,
        Option.map_some]
  unfold effectiveMaxCells combined
  by_cases given : flags.maxCells ≠ 0
  · simp only [if_pos given]
  · simp only [if_neg given, written, earliest]
    cases paths.findSome? fun path => (said path).maxCells <;> rfl

theorem effectiveEndOfInput_of_said (flags : MachineFlags)
    (heard : ∀ path ∈ paths, (document path).Says (said path))
    : effectiveEndOfInput flags (.ok (paths.map document))
      = .ok (combined flags paths said).endOfInput := by
  have written := Documents.textOrEmpty_of_gives (spelled_of_mem (by simp)) fun path among =>
    Document.gives_of_atomAt (heard path among).endOfInput fun _ _ _ concrete =>
      Value.decode?_text concrete
  unfold effectiveEndOfInput combined
  rw [written]
  show Except.ok (Text.firstNonempty
    [_, ((earliest paths said (·.endOfInput)).map (·.name)).getD "", _]) = _
  rw [firstNonempty_cons, firstNonempty_cons]
  cases first : earliest paths said (·.endOfInput) with
  | none => rfl
  | some policy =>
      have filled := (ofName?_name (named_of_earliest first)).1
      rw [Option.map_some, Option.getD_some, if_pos filled]
      rfl

theorem effectiveTrace_of_said (flags : MachineFlags)
    (heard : ∀ path ∈ paths, (document path).Says (said path))
    : effectiveTrace flags (.ok (paths.map document))
      = .ok (combined flags paths said).trace := by
  have switched := Documents.anyOn_of_gives (spelled_of_mem (by simp)) fun path among =>
    Document.gives_of_atomAt (heard path among).trace fun _ _ _ concrete =>
      Value.decode?_bool concrete
  unfold effectiveTrace combined
  by_cases verbose : 1 ≤ flags.verbosity <;> simp [verbose, switched]

theorem effectiveBreakpoints_of_said (flags : MachineFlags)
    (heard : ∀ path ∈ paths, (document path).Says (said path))
    : effectiveBreakpoints flags (.ok (paths.map document))
      = .ok (combined flags paths said).breakpoints := by
  have switched := Documents.anyOn_of_gives (spelled_of_mem (by simp)) fun path among =>
    Document.gives_of_atomAt (heard path among).breakpoints fun _ _ _ concrete =>
      Value.decode?_bool concrete
  unfold effectiveBreakpoints combined
  cases flags.breakpoints <;> simp [switched]

/-- The settings are those that flags and documents come to. -/
theorem effective_of_said (flags : MachineFlags)
    (heard : ∀ path ∈ paths, (document path).Says (said path))
    : effective flags (.ok (paths.map document)) = .ok (combined flags paths said) := by
  unfold effective
  rw [effectiveMaxDepth_of_said flags heard, effectiveMaxCells_of_said flags heard,
    effectiveEndOfInput_of_said flags heard, effectiveTrace_of_said flags heard,
    effectiveBreakpoints_of_said flags heard]
  rfl

end

-----------------------------------------------------------------------------------------
-- Machines
-----------------------------------------------------------------------------------------

/-- How a machine has to be set up that is built from flags and documents. -/
structure InEffect (flags : MachineFlags) (paths : List String) (said : String → Said)
    (machine : Machine) : Prop where
  /-- The flag counts unless it is zero, then the earliest document that says anything. -/
  maxDepth : machine.maxDepth
    = max 1 (if flags.maxDepth ≠ 0 then flags.maxDepth
        else (earliest paths said (·.maxDepth)).getD 100)
  /-- Any flag but zero counts, and if negative stands for no limit, as zero does in a document. -/
  maxCells : machine.tape.limit
    = if flags.maxCells ≠ 0 then max flags.maxCells 0
      else (earliest paths said (·.maxCells)).getD 0x40000000
  /-- Zero is no limit: every cell can be had, whatever is on the tape. -/
  unbounded : machine.tape.limit = 0 → ∀ (tape : Tape) (address : Address),
    tape.limit = machine.tape.limit → ∃ next, tape.resolve address = .ok next
  endOfInput : some machine.endOfInput
    = if flags.endOfInput ≠ "" then EndOfInput.ofName? flags.endOfInput
      else some ((earliest paths said (·.endOfInput)).getD .unchanged)
  trace : machine.trace ↔ 1 ≤ flags.verbosity ∨ ∃ path ∈ paths, (said path).trace = some true
  breakpoints : machine.breakpoints
    ↔ flags.breakpoints ∨ ∃ path ∈ paths, (said path).breakpoints = some true

/-- A policy is known for the settings if the flag names one or is empty. -/
theorem ofName?_combined {flags : MachineFlags} (paths : List String) (said : String → Said)
    (known : (EndOfInput.ofName? flags.endOfInput).isSome)
    : ∃ policy, EndOfInput.ofName? (combined flags paths said).endOfInput = some policy
      ∧ some policy = if flags.endOfInput ≠ "" then EndOfInput.ofName? flags.endOfInput
          else some ((earliest paths said (·.endOfInput)).getD .unchanged) := by
  unfold combined
  by_cases given : flags.endOfInput ≠ ""
  · obtain ⟨policy, found⟩ := Option.isSome_iff_exists.mp known
    exact ⟨policy, by simp only [if_pos given, found], by rw [if_pos given, found]⟩
  · refine ⟨(earliest paths said (·.endOfInput)).getD .unchanged, ?_, by rw [if_neg given]⟩
    simp only [if_neg given]
    cases first : earliest paths said (·.endOfInput) with
    | none => exact (ofName?_name (by decide)).2
    | some policy => exact (ofName?_name (named_of_earliest first)).2

/-- The settings that flags and documents come to build a machine that is set up accordingly. -/
theorem build_combined {flags : MachineFlags} (paths : List String) (said : String → Said)
    (known : (EndOfInput.ofName? flags.endOfInput).isSome)
    (debugging : Bool) (input : Input) (output : Sink) (program : Program)
    : ∃ machine,
        Machine.build (combined flags paths said) debugging input output program = .ok machine
        ∧ InEffect flags paths said machine := by
  obtain ⟨policy, found, same⟩ := ofName?_combined paths said known
  refine ⟨_, by simp only [Machine.build, found]; rfl, ?_⟩
  constructor
  case maxDepth => exact Int.max_comm _ _
  case maxCells => rfl
  case unbounded =>
    intro zero tape address limited
    exact ⟨_, tape.resolve_of_unlimited (by omega) address⟩
  case endOfInput => exact same
  case trace => simp [combined]
  case breakpoints => simp [combined]

/-- No machine comes of the documents at some paths: with any flags the settings cannot be had, and
a session that reads the documents is over before it has a machine.
-/
structure BuildsNothing (read : FileReader) (paths : List String) : Prop where
  settings (flags : MachineFlags)
    : ∃ cause, effective flags (Documents.load read schema paths) = .error (.load cause)
  session (world : Session.World) (options : Session.Options) (words : List String)
    : world.read = read
      → documentPaths (FileReader.hasFile read) options.documents world.directories = paths
      → ∃ report, Session.prepare world options words = .error report

/-- A session whose documents were not loaded is over before there is a machine: already the proxy
cannot be looked up.
-/
theorem prepare_of_failure {world : Session.World} {options : Session.Options}
    {words : List String} {cause : LoadError}
    (failed : Documents.load world.read schema
      (documentPaths (FileReader.hasFile world.read) options.documents world.directories)
        = .error cause)
    : ∃ report, Session.prepare world options words = .error report := by
  unfold Session.prepare
  cases words.getLast? with
  | none => exact ⟨_, rfl⟩
  | some source =>
      simp only [failed]
      exact ⟨_, rfl⟩

/-- One document that cannot be loaded is enough for no machine to be built. -/
theorem buildsNothing_of_failure {read : FileReader} {paths : List String} {path : String}
    {cause : LoadError} (among : path ∈ paths)
    (fails : Document.load read (some describedSchema) path = .error cause)
    : BuildsNothing read paths := by
  obtain ⟨first, failed⟩ := Documents.load_of_failure among fails
  constructor
  case settings =>
    intro flags
    rw [failed]
    exact ⟨first, rfl⟩
  case session =>
    rintro world options words rfl rfl
    exact prepare_of_failure failed

/-- The documents that say something are loaded, and the settings are those that the flags and the
documents come to.
-/
theorem effective_of_accounts {read : FileReader} {paths : List String} {said : String → Said}
    (accounted : ∀ path ∈ paths, Accounts describedSchema read path (some (said path)))
    (flags : MachineFlags)
    : effective flags (Documents.load read schema paths) = .ok (combined flags paths said) := by
  let document (path : String) : Document :=
    (Document.load read (some describedSchema) path).toOption.getD default
  have each : ∀ path ∈ paths,
      Document.load read (some describedSchema) path = .ok (document path)
      ∧ (document path).Says (said path) := by
    intro path among
    obtain ⟨found, loaded, heard⟩ := accounted path among
    have same : document path = found := by simp only [document, loaded]; rfl
    rw [same]
    exact ⟨loaded, heard⟩
  rw [Documents.load_of_success fun path among => (each path among).1]
  exact effective_of_said flags fun path among => (each path among).2

/-- The settings in effect. If a document cannot be loaded, nothing is built, whatever the flags
are. Otherwise the flags and what the documents say determine the machine, and the order of the
documents has no part in whether it traces and stops at marks.
-/
theorem inEffect_of_accounts {read : FileReader} {paths : List String}
    {account : String → Option Said}
    (accounted : ∀ path ∈ paths, Accounts describedSchema read path (account path))
    : ((∃ path ∈ paths, account path = none) → BuildsNothing read paths)
      ∧ ∀ said : String → Said, (∀ path ∈ paths, account path = some (said path))
        → ∀ flags : MachineFlags, (EndOfInput.ofName? flags.endOfInput).isSome
        → ∃ settings, effective flags (Documents.load read schema paths) = .ok settings
          ∧ (∀ debugging input output program, ∃ machine,
              Machine.build settings debugging input output program = .ok machine
              ∧ InEffect flags paths said machine)
          ∧ ∀ others, others.Perm paths → ∃ same,
              effective flags (Documents.load read schema others) = .ok same
              ∧ same.trace = settings.trace ∧ same.breakpoints = settings.breakpoints := by
  constructor
  case left =>
    rintro ⟨path, among, failing⟩
    have fails := accounted path among
    rw [failing] at fails
    obtain ⟨cause, fails⟩ := fails
    exact buildsNothing_of_failure among fails
  case right =>
    intro said speaks flags known
    have accounts : ∀ path ∈ paths, Accounts describedSchema read path (some (said path)) :=
      fun path among => speaks path among ▸ accounted path among
    refine ⟨_, effective_of_accounts accounts flags, build_combined paths said known, ?_⟩
    intro others reordered
    refine ⟨_, effective_of_accounts (fun path among => accounts path (reordered.mem_iff.mp among))
      flags, ?_, ?_⟩
    · simp only [combined, reordered.any_eq]
    · simp only [combined, reordered.any_eq]

/-- A file that lifts the limit, one that would set it and says more, and one that is refused. -/
def threeFiles (path : String) : Except FileFault ByteArray :=
  if path = "own.cue" then .ok "max_cells: 0\ntrace: false".toUTF8
  else if path = "shared.cue" then
    .ok "max_depth: 8\nmax_cells: 5\neof: \"zero\"\ntrace: true".toUTF8
  else .ok "max_cells: \"many\"".toUTF8

/-- What the three files say. -/
def threeAccounts (path : String) : Option Said :=
  if path = "own.cue" then some { maxCells := some 0, trace := some false }
  else if path = "shared.cue" then
    some
      { maxDepth := some 8
        maxCells := some 5
        endOfInput := some .zero
        trace := some true }
  else none

set_option maxRecDepth 4096 in
theorem accounts_threeFiles
    : ∀ path ∈ ["own.cue", "shared.cue", "broken.cue"],
        Accounts describedSchema threeFiles path (threeAccounts path) := by
  -- As for the schema itself, only the characters of its text are kept.
  suffices known : ∀ text : String, text.toList = schema.toList
      → ∀ described ∈ Description.schemaOfText? text,
        ∀ path ∈ ["own.cue", "shared.cue", "broken.cue"],
          Accounts described threeFiles path (threeAccounts path) from
    known schema rfl describedSchema (Option.some_get _).symm
  intro text same
  have opening : ("close(\x7b" : String).toList = _ := String.toList_ofList
  have middle : schema.toList = _ :=
    (congrArg String.toList schema.eq_1).trans String.toList_ofList
  have closing : ("\x7d)" : String).toList = _ := String.toList_ofList
  unfold Description.schemaOfText? Description.ofText? Source.parse Token.scan Grammar.depthFor
  rw [← String.length_toList, String.toList_append, String.toList_append, opening, same, middle,
    closing]
  decide +kernel

theorem inEffect_of_accounts_threeFiles
    : BuildsNothing threeFiles ["own.cue", "shared.cue", "broken.cue"]
      ∧ ∃ settings, effective {} (Documents.load threeFiles schema ["own.cue", "shared.cue"])
          = .ok settings
        ∧ ∃ machine, Machine.build settings false {} {} {} = .ok machine
          ∧ machine.maxDepth = 8 ∧ machine.tape.limit = 0 ∧ machine.endOfInput = .zero
          ∧ machine.trace = true ∧ machine.breakpoints = false := by
  constructor
  case left =>
    exact (inEffect_of_accounts accounts_threeFiles).1 ⟨"broken.cue", by simp, by decide⟩
  case right =>
    have accounted : ∀ path ∈ ["own.cue", "shared.cue"],
        Accounts describedSchema threeFiles path (threeAccounts path) := fun path among =>
      accounts_threeFiles path (List.mem_append_left ["broken.cue"] among)
    obtain ⟨settings, effective, builds, -⟩ := (inEffect_of_accounts accounted).2
      (fun path => (threeAccounts path).getD {}) (by simp [threeAccounts]) {} (by decide)
    obtain ⟨machine, built, inEffect⟩ := builds false {} {} {}
    refine ⟨settings, effective, machine, built, ?_, ?_, ?_, ?_, ?_⟩
    · exact inEffect.maxDepth.trans (by decide)
    · exact inEffect.maxCells.trans (by decide)
    · exact Option.some.inj (inEffect.endOfInput.trans (by decide))
    · exact inEffect.trace.mpr (by decide)
    · exact Bool.eq_false_iff.mpr (mt inEffect.breakpoints.mp (by decide))

end TapeMachine.Settings
