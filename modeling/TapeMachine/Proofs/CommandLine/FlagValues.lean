import TapeMachine.Proofs.CommandLine.Composition
import TapeMachine.Proofs.CommandLine.Declaration

/-! What the flags are worth after a command line. A line is cut from left to right into uses of
flags, each with the words that it takes as its argument, and positional words. The cut decides
all values: a setting has the argument of its last use unless it was reset later, a switch is as
it was last thrown, a counter has the number of its uses, and a collection has all arguments.
-/

namespace TapeMachine.CommandLine

-----------------------------------------------------------------------------------------
-- Cutting a command line
-----------------------------------------------------------------------------------------

/-- A piece of a command line. -/
inductive Piece where
  | positional (word : String)
  /-- A use of a flag, with the words that it takes as arguments. -/
  | use (word : String) (arguments : List String)
  deriving DecidableEq

namespace Piece

/-- The words of a piece. -/
def words : Piece → List String
  | positional word => [word]
  | use word arguments => word :: arguments

/-- The positional word of a piece without the blanks around it. -/
def positional? : Piece → Option String
  | positional word => some (Text.trim word)
  | use .. => none

/-- The use that a piece makes of a flag, if it is by one of the names. -/
def useOf? (names : List String) : Piece → Option (String × List String)
  | positional _ => none
  | use word arguments =>
    if Text.trim word ∈ names then some (Text.trim word, arguments) else none

end Piece

/-- Cuts a command line from left to right. A word that is the name of a flag takes as many words
behind it for arguments as the flag has parameters, whatever they are, if there are any left; any
other word is positional.
-/
def cut (declared : List (String × FlagKind)) : List String → List Piece
  | [] => []
  | word :: words =>
    match (uses declared).lookup (Text.trim word) with
    | none => .positional word :: cut declared words
    | some (kinds, _) =>
      .use word (words.take kinds.length) :: cut declared (words.drop kinds.length)
termination_by words => words.length

/-- Every word of a command line is in one piece, and the pieces are in the order of the words. -/
theorem words_cut (declared : List (String × FlagKind)) (words : List String)
    : (cut declared words).flatMap Piece.words = words := by
  induction words using cut.induct declared with
  | case1 => simp [cut]
  | case2 word words unknown ih => simp [cut, unknown, Piece.words, ih]
  | case3 word words kinds change known ih => simp [cut, known, Piece.words, ih]

-----------------------------------------------------------------------------------------
-- The value that a cut gives a flag
-----------------------------------------------------------------------------------------

/-- The uses of flags by some names, with their arguments, in order. -/
def usesBy (names : List String) (pieces : List Piece) : List (String × List String) :=
  pieces.filterMap (Piece.useOf? names)

/-- The value that the pieces of a command line give a flag of a kind. -/
def FlagKind.Holds (name : String) (pieces : List Piece) : FlagKind → FlagValue → Prop
  | setting kind, value =>
    match (usesBy [name, name ++ "."] pieces).getLast? with
    | some (found, arguments) =>
      if found = name then ∃ argument, kind.read arguments = .ok argument ∧ value = .single argument
      else value = .single kind.zero
    | none => value = .single kind.zero
  | switch, value =>
    ∃ on, value = .single (.bool on)
      ∧ (on = true ↔ (usesBy [name, "!" ++ name] pieces).getLast?.map Prod.fst = some name)
  | counter, value => value = .count (usesBy [name] pieces).length
  | collection kind, value =>
    ∃ arguments, value = .collected arguments
      ∧ List.Forall₂ (fun use argument => kind.read use.2 = .ok argument) (usesBy [name] pieces)
          arguments

/-- The flags have the values that the pieces of a command line give them. -/
def FlagsHold (declared : List (String × FlagKind)) (pieces : List Piece) (flags : Flags) : Prop :=
  ∀ flag ∈ declared,
    ∃ value, flags.get? flag.1 = some value ∧ flag.2.Holds flag.1 pieces value

/-- The names by which a flag is used. -/
def FlagKind.names (name : String) (kind : FlagKind) : List String :=
  (kind.commands name).map Prod.fst

/-- Another use by one of the names comes last. -/
theorem usesBy_use {names : List String} {word : String} (named : Text.trim word ∈ names)
    (pieces : List Piece) (arguments : List String)
    : usesBy names (pieces ++ [.use word arguments])
      = usesBy names pieces ++ [(Text.trim word, arguments)] := by
  simp only [usesBy, List.filterMap_append, List.filterMap_cons, Piece.useOf?, named, if_true,
    List.filterMap_nil]

/-- Another use by another name is none of them. -/
theorem usesBy_other {names : List String} {word : String} (other : Text.trim word ∉ names)
    (pieces : List Piece) (arguments : List String)
    : usesBy names (pieces ++ [.use word arguments]) = usesBy names pieces := by
  simp only [usesBy, List.filterMap_append, List.filterMap_cons, Piece.useOf?, other, if_false,
    List.filterMap_nil, List.append_nil]

/-- A positional word is no use of a flag. -/
theorem usesBy_positional (names : List String) (pieces : List Piece) (word : String)
    : usesBy names (pieces ++ [.positional word]) = usesBy names pieces := by
  simp only [usesBy, List.filterMap_append, List.filterMap_cons, Piece.useOf?,
    List.filterMap_nil, List.append_nil]

/-- The value of a flag depends on the uses by its names. -/
theorem FlagKind.Holds.congr {name : String} {kind : FlagKind} {pieces others : List Piece}
    {value : FlagValue} (holds : kind.Holds name pieces value)
    (same : usesBy (kind.names name) others = usesBy (kind.names name) pieces)
    : kind.Holds name others value := by
  cases kind <;> simp only [names, commands, List.map_cons, List.map_nil] at same
    <;> simpa only [Holds, same] using holds

-----------------------------------------------------------------------------------------
-- What a use does to the value of its flag
-----------------------------------------------------------------------------------------

/-- Changing a flag changes that flag and no other. -/
theorem Flags.get?_modify (flags : Flags) (name other : String) (f : FlagValue → FlagValue)
    : (flags.modify name f).get? other
      = if other = name then (flags.get? other).map f else flags.get? other := by
  unfold get? modify
  induction flags.entries with
  | nil => simp
  | cons entry rest ih =>
      obtain ⟨first, value⟩ := entry
      simp only [List.map_cons, List.lookup_cons]
      by_cases changed : first = name <;> by_cases wanted : other = first <;> grind

/-- A flag that is changed has a new value. -/
theorem Flags.get?_modify_same {flags : Flags} {name : String} {value : FlagValue}
    (known : flags.get? name = some value) (f : FlagValue → FlagValue)
    : (flags.modify name f).get? name = some (f value) := by
  rw [get?_modify, if_pos rfl, known, Option.map_some]

/-- The flag that a change is about. -/
def FlagChange.flag : FlagChange → String
  | store flag => flag
  | assign flag _ => flag
  | increment flag => flag
  | collect flag => flag

/-- A change leaves the flags alone that it is not about. -/
theorem FlagChange.get?_apply_other {change : FlagChange} {name : String}
    (differs : name ≠ change.flag) (arguments : List Argument) (flags : Flags)
    : (change.apply arguments flags).get? name = flags.get? name := by
  have kept (f : FlagValue → FlagValue)
      : (flags.modify change.flag f).get? name = flags.get? name := by
    rw [Flags.get?_modify, if_neg differs]
  cases change with
  | assign | increment => exact kept _
  | store | collect =>
      cases arguments with
      | nil => rfl
      | cons => exact kept _

/-- The commands of a flag change that flag. -/
theorem FlagKind.flag_of_mem {kind : FlagKind} {name found : String} {kinds : List Kind}
    {change : FlagChange} (member : (found, kinds, change) ∈ kind.commands name)
    : change.flag = name := by
  have all : ∀ use ∈ kind.commands name, use.2.2.flag = name := by
    cases kind <;> simp [commands, FlagChange.flag]
  exact all _ member

/-- Arguments are taken from the front of the words, as far as there are any; by induction on the
parameters.
-/
theorem rest_of_takeArguments {kinds : List Kind}
    : ∀ {words rest : List String} {arguments : List Argument},
        takeArguments kinds words = .ok (arguments, rest)
        → rest = words.drop kinds.length := by
  induction kinds with
  | nil =>
      intro words rest arguments taken
      cases taken
      rfl
  | cons kind kinds ih =>
      intro words rest arguments taken
      obtain ⟨_, _, _, later, _⟩ := takeArguments_cons_iff.mp taken
      rw [ih later, List.drop_drop, List.length_cons, Nat.add_comm]

/-- The argument of a single parameter is read from the word behind the name, if there is one. -/
theorem read_of_takeArguments {kind : Kind} {words rest : List String}
    {arguments : List Argument} (taken : takeArguments [kind] words = .ok (arguments, rest))
    : ∃ argument, kind.read (words.take 1) = .ok argument ∧ arguments = [argument] := by
  obtain ⟨argument, _, read, later, rfl⟩ := takeArguments_cons_iff.mp taken
  cases later
  refine ⟨argument, ?_, rfl⟩
  cases words with
  | nil => exact read
  | cons => exact read

/-- Another use of a flag gives it the value that it has after the change. -/
theorem FlagKind.Holds.use {name : String} {kind : FlagKind} {pieces : List Piece}
    {value : FlagValue} (holds : kind.Holds name pieces value) {word : String} {kinds : List Kind}
    {change : FlagChange} (member : (Text.trim word, kinds, change) ∈ kind.commands name)
    {words rest : List String} {arguments : List Argument}
    (taken : takeArguments kinds words = .ok (arguments, rest)) {flags : Flags}
    (known : flags.get? name = some value)
    : ∃ next,
        (change.apply arguments flags).get? name = some next
        ∧ kind.Holds name (pieces ++ [.use word (words.take kinds.length)]) next := by
  have changed := Flags.get?_modify_same known
  cases kind with
  | setting kind =>
      simp only [commands, List.mem_cons, List.not_mem_nil, or_false, Prod.mk.injEq] at member
      rcases member with ⟨named, rfl, rfl⟩ | ⟨named, rfl, rfl⟩
      · obtain ⟨argument, read, rfl⟩ := read_of_takeArguments taken
        refine ⟨_, changed _, ?_⟩
        rw [Holds, usesBy_use (by simp [named]), List.getLast?_concat]
        simpa only [named, if_true] using ⟨argument, read, rfl⟩
      · refine ⟨_, changed _, ?_⟩
        rw [Holds, usesBy_use (by simp [named]), List.getLast?_concat]
        simp [named]
  | switch =>
      simp only [commands, List.mem_cons, List.not_mem_nil, or_false, Prod.mk.injEq] at member
      rcases member with ⟨named, rfl, rfl⟩ | ⟨named, rfl, rfl⟩
      · refine ⟨_, changed _, true, rfl, ?_⟩
        rw [usesBy_use (by simp [named]), List.getLast?_concat]
        simp only [named, Option.map_some]
      · refine ⟨_, changed _, false, rfl, ?_⟩
        rw [usesBy_use (by simp [named]), List.getLast?_concat]
        simp [named]
  | counter =>
      simp only [commands, List.mem_singleton, Prod.mk.injEq] at member
      obtain ⟨named, rfl, rfl⟩ := member
      obtain rfl : value = .count _ := holds
      refine ⟨_, changed _, ?_⟩
      rw [Holds, usesBy_use (by simp [named]), List.length_append]
      rfl
  | collection kind =>
      simp only [commands, List.mem_singleton, Prod.mk.injEq] at member
      obtain ⟨named, rfl, rfl⟩ := member
      obtain ⟨before, rfl, each⟩ := holds
      obtain ⟨argument, read, rfl⟩ := read_of_takeArguments taken
      refine ⟨_, changed _, _, rfl, ?_⟩
      rw [usesBy_use (by simp [named])]
      exact List.rel_append each (.cons read .nil)

-----------------------------------------------------------------------------------------
-- The flags along a command line
-----------------------------------------------------------------------------------------

/-- A use of one flag leaves the values of all others alone. -/
theorem FlagsHold.use {declared : List (String × FlagKind)} (distinct : Distinct declared)
    {pieces : List Piece} {flags : Flags} (holds : FlagsHold declared pieces flags)
    {word : String} {kinds : List Kind} {change : FlagChange}
    (found : (uses declared).lookup (Text.trim word) = some (kinds, change))
    {words rest : List String} {arguments : List Argument}
    (taken : takeArguments kinds words = .ok (arguments, rest))
    : FlagsHold declared (pieces ++ [.use word (words.take kinds.length)])
        (change.apply arguments flags) := by
  rintro ⟨name, kind⟩ member
  obtain ⟨value, known, holds⟩ := holds _ member
  by_cases named : Text.trim word ∈ kind.names name
  · obtain ⟨⟨_, use⟩, inside, rfl⟩ := List.mem_map.mp named
    have mine : (Text.trim word, use) ∈ uses declared := List.mem_flatMap.mpr ⟨_, member, inside⟩
    have same := found.symm.trans ((lookup_eq_some_iff_mem distinct.uses).mpr mine)
    obtain rfl := Option.some.inj same
    exact holds.use inside taken known
  · have about : name ≠ change.flag := by
      rintro rfl
      obtain ⟨⟨other, otherKind⟩, inside, use⟩ :=
        List.mem_flatMap.mp ((lookup_eq_some_iff_mem distinct.uses).mp found)
      obtain rfl : change.flag = other := FlagKind.flag_of_mem use
      obtain rfl : kind = otherKind := distinct.kind_unique member inside
      exact named (List.mem_map.mpr ⟨_, use, rfl⟩)
    refine ⟨value, ?_, holds.congr (usesBy_other named _ _)⟩
    rw [FlagChange.get?_apply_other about]
    exact known

/-- A positional word leaves the values of all flags alone. -/
theorem FlagsHold.positional {declared : List (String × FlagKind)} {pieces : List Piece}
    {flags : Flags} (holds : FlagsHold declared pieces flags) (word : String)
    : FlagsHold declared (pieces ++ [.positional word]) flags := by
  intro flag member
  obtain ⟨value, known, holds⟩ := holds flag member
  exact ⟨value, known, holds.congr (usesBy_positional _ _ _)⟩

/-- Before anything is used, every flag has its first value. -/
theorem FlagsHold.start {declared : List (String × FlagKind)} {flags : Flags}
    (first : ∀ flag ∈ declared, flags.get? flag.1 = some flag.2.initial)
    : FlagsHold declared [] flags := by
  rintro ⟨name, kind⟩ member
  refine ⟨kind.initial, first _ member, ?_⟩
  cases kind with
  | setting | counter => rfl
  | switch => exact ⟨false, rfl, by simp [usesBy]⟩
  | collection => exact ⟨[], rfl, .nil⟩

namespace Progress

/-- A command line came through some pieces: its flags and positional words are those of the
pieces, and it looks names up in the table of the flags.
-/
structure Through (declared : List (String × FlagKind)) (table : Table) (pieces : List Piece)
    (p : Progress) : Prop where
  current : p.tables.current = table
  flags : FlagsHold declared pieces p.flags
  positionals : p.positionals = pieces.filterMap Piece.positional?

variable {declared : List (String × FlagKind)} {table : Table} {start : Flags}

/-- A round that goes on comes through the next piece, by the cases of a round. -/
theorem Through.round (known : Declared declared table start) {pieces : List Piece}
    {p next : Progress} (through : p.Through declared table pieces)
    (went : p.round = (none, next))
    : ∃ piece,
        cut declared p.words = piece :: cut declared next.words
        ∧ next.Through declared table (pieces ++ [piece]) := by
  have turn := turn_of_round went
  generalize goesOn : (none : Option Ending) = ending at turn
  -- A command that is found belongs to a flag, or it is the help command.
  have origin {name : String} {words : List String} {command : Command}
      (found : p.Finds name words command)
      : (∃ use, (uses declared).lookup name = some use ∧ command = changeCommand name use)
        ∨ command = helpCommand := by
    have entry := (known.lookup name).symm.trans (through.current ▸ found.known)
    cases mine : (uses declared).lookup name with
    | some use =>
        simp only [mine, Option.some.injEq] at entry
        exact Or.inl ⟨use, rfl, entry.symm⟩
    | none =>
        simp only [mine] at entry
        exact Or.inr (Option.some.inj (lookup_initial entry))
  cases turn with
  | used | rejected | absent | refused | ended => cases goesOn
  | kept reads unknown plain =>
      obtain ⟨word, next, rfl⟩ := reads
      have missing : (uses declared).lookup (Text.trim word) = none := by
        have entry := (known.lookup (Text.trim word)).symm.trans (through.current ▸ unknown)
        split at entry
        · cases entry
        · rename_i missing
          exact missing
      refine ⟨.positional word, ?_, through.current, through.flags.positional word, ?_⟩
      · rw [next, cut, missing]
      · rw [through.positionals, List.filterMap_append]
        rfl
  | grouped found group =>
      rcases origin found with ⟨use, _, rfl⟩ | rfl <;> cases group
  | obeyed invoked called =>
      obtain ⟨words, kinds, found, function, taken⟩ := invoked.spelled
      rcases origin found with ⟨⟨parameters, change⟩, mine, rfl⟩ | rfl
      · cases function
        obtain ⟨word, next, rfl⟩ := found.reads
        refine ⟨.use word (words.take parameters.length), ?_, through.current,
          through.flags.use known.distinct mine taken, ?_⟩
        · rw [next, cut, mine, rest_of_takeArguments taken]
          rfl
        · rw [List.filterMap_append]
          exact through.positionals.trans (List.append_nil _).symm
      · cases function
        cases called

/-- A command line that is accepted comes through all pieces of its words, by induction on the
rounds.
-/
theorem Through.finish (known : Declared declared table start) {pieces : List Piece}
    {p : Progress} (through : p.Through declared table pieces) {positionals : List String}
    (succeeds : p.finish.1 = .finished positionals)
    : p.finish.2.Through declared table (pieces ++ cut declared p.words) := by
  induction p using induct generalizing pieces with
  | ended p next ending ends =>
      rw [(finish_of_ended ends).1] at succeeds ⊢
      obtain rfl : ending = .finished positionals := succeeds
      obtain ⟨used, _, rfl⟩ := used_of_finished ends
      rw [used, cut, List.append_nil]
      exact through
  | goesOn p next went ih =>
      rw [(finish_of_goesOn went).1] at succeeds ⊢
      obtain ⟨piece, first, later⟩ := through.round known went
      rw [first, List.append_cons]
      exact ih later succeeds

end Progress

/-- The flags after a command line. Whatever flags are declared with names that are accepted, and
whatever words are accepted: the words are cut into pieces, each in one piece; every flag has the
value that the pieces give it; and the positional words are those of the positional pieces.
-/
theorem flags_of_cut (declared : List (String × FlagKind)) (words : List String) {table : Table}
    {start : Flags} (accepted : declareAll declared Table.initial {} = some (table, start))
    {positionals : List String}
    (succeeds : (execute table words start).ending = .finished positionals)
    : (cut declared words).flatMap Piece.words = words
      ∧ FlagsHold declared (cut declared words) (execute table words start).flags
      ∧ positionals = (cut declared words).filterMap Piece.positional? := by
  have known := declared_of_declareAll accepted
  have begins : (Progress.start [] table words start).Through declared table [] :=
    ⟨rfl, .start known.first, rfl⟩
  have through := begins.finish known succeeds
  rw [List.nil_append] at through
  obtain ⟨_, same, _⟩ := Progress.finish_of_finished _ succeeds
  exact ⟨words_cut declared words, through.flags, same.symm.trans through.positionals⟩

/-- A flag of each kind. -/
def mixedFlags : List (String × FlagKind) :=
  [("-depth", .setting (.int .plain)), ("-tap", .switch), ("-d", .counter),
    ("-config", .collection .text)]

/-- A line in which an argument looks like a flag, a setting is given twice and reset in between, and
a switch is thrown back.
-/
def mixedWords : List String :=
  ["-d", "-depth", "7", "-config", "-d", "-depth.", "-tap", " x ", "!-tap", "-depth", "-1", "-d"]

/-- The table and the first values of these flags. -/
def mixedStart : Table × Flags :=
  (declareAll mixedFlags Table.initial {}).getD ([], {})

theorem flags_of_cut_mixed
    : declareAll mixedFlags Table.initial {} = some (mixedStart.1, mixedStart.2)
      ∧ (execute mixedStart.1 mixedWords mixedStart.2).ending = .finished ["x"]
      ∧ cut mixedFlags mixedWords
        = [.use "-d" [], .use "-depth" ["7"], .use "-config" ["-d"], .use "-depth." [],
            .use "-tap" [], .positional " x ", .use "!-tap" [], .use "-depth" ["-1"], .use "-d" []]
      ∧ (execute mixedStart.1 mixedWords mixedStart.2).flags.get? "-d" = some (.count 2)
      ∧ (execute mixedStart.1 mixedWords mixedStart.2).flags.get? "-depth"
        = some (.single (.int (-1))) := by
  have accepted : declareAll mixedFlags Table.initial {} = some (mixedStart.1, mixedStart.2) := by
    rfl
  have succeeds : (execute mixedStart.1 mixedWords mixedStart.2).ending = .finished ["x"] := by
    decide +kernel
  obtain ⟨_, holds, _⟩ := flags_of_cut mixedFlags mixedWords accepted succeeds
  have pieces : cut mixedFlags mixedWords
      = [.use "-d" [], .use "-depth" ["7"], .use "-config" ["-d"], .use "-depth." [],
          .use "-tap" [], .positional " x ", .use "!-tap" [], .use "-depth" ["-1"],
          .use "-d" []] := by
    decide +kernel
  rw [pieces] at holds
  refine ⟨accepted, succeeds, pieces, ?_, ?_⟩
  · obtain ⟨value, known, same⟩ := holds ("-d", .counter) (by simp [mixedFlags])
    obtain rfl : value = .count 2 := same
    exact known
  · obtain ⟨value, known, same⟩ := holds ("-depth", .setting (.int .plain)) (by simp [mixedFlags])
    obtain ⟨argument, read, rfl⟩ : ∃ argument,
        (Kind.int .plain).read ["-1"] = .ok argument ∧ value = .single argument := same
    obtain rfl : Argument.int (-1) = argument := Except.ok.inj read
    exact known

end TapeMachine.CommandLine
