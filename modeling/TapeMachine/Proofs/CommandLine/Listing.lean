import TapeMachine.CommandLine.Usage
import TapeMachine.Proofs.CommandLine.Composition

/-! What the usage text lists, and which of the listed names a command line understands. The text
lists the commands of the table and, below each command, its sub-commands, every one with its name
and its aliases. Executing a command line adds sub-commands to the known names under their own
names only, so the aliases that are listed below a parent are not understood.
-/

namespace TapeMachine.CommandLine

-----------------------------------------------------------------------------------------
-- The lines of the usage text
-----------------------------------------------------------------------------------------

/-- A line of the usage text: a command with the name under which it stands, and the commands below
which it stands, the innermost first.
-/
structure UsageEntry where
  parents : List Command
  name : String
  command : Command

namespace UsageEntry

/-- The names that the line shows. -/
def names (entry : UsageEntry) : List String :=
  entry.name :: entry.command.aliases

/-- The line itself. -/
def line (entry : UsageEntry) : String :=
  usageLine entry.parents.length entry.name entry.command.aliases entry.command.description

end UsageEntry

mutual

/-- The lines of a command and its sub-commands. -/
def commandEntries (parents : List Command) (name : String) : Command → List UsageEntry
  | ⟨key, function, subs, description, aliases⟩ =>
    let command : Command := ⟨key, function, subs, description, aliases⟩
    ⟨parents, name, command⟩ :: tableEntries (command :: parents) [] subs

/-- The lines of commands in order of their names, of which some were already shown. -/
def tableEntries (parents : List Command) (seen : List String)
    : List (String × Option Command) → List UsageEntry
  | [] => []
  | (_, none) :: rest => tableEntries parents seen rest
  | (name, some command) :: rest =>
    if seen.contains command.key || command.aliases.contains name then
      tableEntries parents seen rest
    else commandEntries parents name command ++ tableEntries parents (command.key :: seen) rest

end

/-- The lines of a table. -/
def Table.listing (table : Table) : List UsageEntry :=
  tableEntries [] [] table

mutual

/-- The usage of a command is made of its lines. -/
theorem commandUsage_eq (parents : List Command) (name : String)
    : ∀ command : Command,
        commandUsage parents.length name command
        = String.join ((commandEntries parents name command).map UsageEntry.line)
  | ⟨key, function, subs, description, aliases⟩ => by
      have below := entriesUsage_eq (⟨key, function, subs, description, aliases⟩ :: parents) [] subs
      rw [commandUsage, commandEntries, List.map_cons, String.join_cons, ← below]
      rfl

/-- The usage of commands is made of their lines, by the same recursion. -/
theorem entriesUsage_eq (parents : List Command) (seen : List String)
    : ∀ entries : List (String × Option Command),
        entriesUsage parents.length seen entries
        = String.join ((tableEntries parents seen entries).map UsageEntry.line)
  | [] => rfl
  | (_, none) :: rest => entriesUsage_eq parents seen rest
  | (name, some command) :: rest => by
      rw [entriesUsage, tableEntries]
      split
      · exact entriesUsage_eq parents seen rest
      · rw [List.map_append, String.join_append, ← commandUsage_eq parents name command,
          ← entriesUsage_eq parents (command.key :: seen) rest]

end

/-- A line stands where it belongs: below nothing it shows a command of the table, and below a
parent a sub-command of that parent.
-/
def UsageEntry.Belongs (entry : UsageEntry) (parents : List Command) (table : Table) : Prop :=
  (entry.parents = parents ∧ (entry.name, some entry.command) ∈ table)
  ∨ ∃ parent outer,
      entry.parents = parent :: outer
      ∧ (entry.name, some entry.command) ∈ parent.subs

theorem UsageEntry.Belongs.mono {entry : UsageEntry} {parents : List Command}
    {table more : Table} (belongs : entry.Belongs parents table) (within : table ⊆ more)
    : entry.Belongs parents more :=
  belongs.imp_left fun top => ⟨top.1, within top.2⟩

mutual

/-- The lines of a command and its sub-commands stand where they belong. -/
theorem belongs_of_commandEntries (parents : List Command) (name : String)
    : ∀ command : Command,
        ∀ entry ∈ commandEntries parents name command,
          entry.Belongs parents [(name, some command)]
  | ⟨key, function, subs, description, aliases⟩ => by
      intro entry member
      rw [commandEntries] at member
      rcases List.mem_cons.mp member with rfl | below
      · exact .inl ⟨rfl, List.mem_singleton_self _⟩
      · rcases belongs_of_tableEntries _ _ subs entry below with ⟨same, inside⟩ | deeper
        · exact .inr ⟨_, _, same, inside⟩
        · exact .inr deeper

/-- So do the lines of a table, by the same recursion. -/
theorem belongs_of_tableEntries (parents : List Command) (seen : List String)
    : ∀ entries : List (String × Option Command),
        ∀ entry ∈ tableEntries parents seen entries, entry.Belongs parents entries
  | [] => nofun
  | (_, none) :: rest => by
      intro entry member
      exact (belongs_of_tableEntries parents seen rest entry member).mono
        (List.subset_cons_self _ _)
  | (name, some command) :: rest => by
      intro entry member
      rw [tableEntries] at member
      split at member
      · exact (belongs_of_tableEntries parents seen rest entry member).mono
          (List.subset_cons_self _ _)
      · rcases List.mem_append.mp member with first | later
        · exact (belongs_of_commandEntries parents name command entry first).mono (by simp)
        · exact (belongs_of_tableEntries parents _ rest entry later).mono
            (List.subset_cons_self _ _)

end

theorem Table.mem_of_top {table : Table} {entry : UsageEntry} (listed : entry ∈ table.listing)
    (top : entry.parents = [])
    : (entry.name, some entry.command) ∈ table := by
  rcases belongs_of_tableEntries [] [] table entry listed with ⟨_, inside⟩ | ⟨_, _, same, _⟩
  · exact inside
  · rw [top] at same
    cases same

theorem Table.mem_subs_of_below {table : Table} {entry : UsageEntry}
    (listed : entry ∈ table.listing) {parent : Command} {outer : List Command}
    (below : entry.parents = parent :: outer)
    : (entry.name, some entry.command) ∈ parent.subs := by
  rcases belongs_of_tableEntries [] [] table entry listed with ⟨top, _⟩ | ⟨_, _, same, sub⟩
  · rw [below] at top
    cases top
  · obtain ⟨rfl, _⟩ := List.cons.inj (below.symm.trans same)
    exact sub

-----------------------------------------------------------------------------------------
-- Registered commands
-----------------------------------------------------------------------------------------

/-- A table that commands were registered in, one after another and without an error, after the one
that every program starts from.
-/
inductive Registered : Table → Prop
  | initial : Registered Table.initial
  | define {table next : Table} {name : String} {command : Option Command}
    (registered : Registered table) (success : table.define name command = (none, next))
    : Registered next

/-- Every command of a table is found under its name and under its aliases. -/
structure Table.Resolves (table : Table) : Prop where
  named : ∀ entry ∈ table, table.lookup entry.1 = some entry.2
  aliased
    : ∀ name command,
        (name, some command) ∈ table
        → ∀ other ∈ command.aliases, table.lookup other = some (some command)

/-- Registering a command keeps this: the command is added under all its names, and the names that
were known stay known.
-/
theorem Table.Resolves.define {table next : Table} (resolves : table.Resolves) {name : String}
    {command : Option Command} (success : table.define name command = (none, next))
    : next.Resolves := by
  cases command with
  | none =>
      by_cases taken : table.contains name = true <;> simp [Table.define, taken] at success
  | some command =>
      obtain ⟨admits, rfl⟩ := Table.registerAll_eq_none_iff.mp success
      have added {other : String} (own : other ∈ name :: command.aliases)
          : (table.extended ((name :: command.aliases).map (·, some command))).lookup other
            = some (some command) :=
        admits.adds (List.mem_map_of_mem own)
      refine ⟨fun entry member => ?_, fun known other member again own => ?_⟩
      · rcases Table.mem_extended.mp member with new | old
        · obtain ⟨own, inside, rfl⟩ := List.mem_map.mp new
          exact added inside
        · exact admits.keeps (resolves.named entry old)
      · rcases Table.mem_extended.mp member with new | old
        · obtain ⟨_, _, same⟩ := List.mem_map.mp new
          obtain rfl : command = other := Option.some.inj (congrArg Prod.snd same)
          exact added (List.mem_cons_of_mem _ own)
        · exact admits.keeps (resolves.aliased known other old again own)

/-- Every table that is made by registering commands has it, by induction on the commands. -/
theorem Registered.resolves {table : Table} (registered : Registered table)
    : table.Resolves := by
  induction registered with
  | initial =>
      have empty : Table.Resolves [] := ⟨nofun, nofun⟩
      have success : (Table.define [] "-h" (some helpCommand)).1 = none := by decide +kernel
      exact empty.define (Prod.ext success rfl)
  | define _ success ih => exact ih.define success

-----------------------------------------------------------------------------------------
-- Names that stay known
-----------------------------------------------------------------------------------------

namespace Progress

/-- A round that goes on adds the sub-commands to the names that are found, and nothing else. -/
theorem lookup_round {p next : Progress} (went : p.round = (none, next)) (name : String)
    : next.tables.current.lookup name
      = (p.nextSubs.lookup name).or (p.tables.current.lookup name) := by
  obtain ⟨admits, known⟩ := current_round went
  rw [known, Table.lookup_extended admits]

/-- Before the last round, each round leads to the next one. -/
theorem round_of_lt (p : Progress) {index : Nat} (within : index < p.rounds)
    : (p.after index).round = (none, p.after (index + 1)) :=
  Prod.ext (p.round_after.1 index within) rfl

/-- A name that is known stays known to the end of the line, by induction on the rounds. -/
theorem lookup_after (p : Progress) {index later : Nat} (le : index ≤ later)
    (within : later ≤ p.rounds) {name : String} {command : Option Command}
    (known : (p.after index).tables.current.lookup name = some command)
    : (p.after later).tables.current.lookup name = some command := by
  induction le with
  | refl => exact known
  | @step last le ih =>
      obtain ⟨admits, same⟩ := current_round (p.round_of_lt within)
      rw [same]
      exact admits.keeps (ih (Nat.le_of_lt within))

/-- A sub-command is known from the round after that of its parent on. -/
theorem lookup_sub (p : Progress) {index later : Nat} {called : String} {behind : List String}
    {parent : Command} (found : (p.after index).Finds called behind parent)
    (lt : index < later) (within : later ≤ p.rounds) {name : String}
    {command : Option Command} (member : (name, command) ∈ parent.subs)
    : (p.after later).tables.current.lookup name = some command := by
  refine p.lookup_after lt within ?_
  obtain ⟨admits, same⟩ := current_round (p.round_of_lt (Nat.lt_of_lt_of_le lt within))
  rw [nextSubs, found.next?_eq] at admits same
  rw [same]
  exact admits.adds member

end Progress

/-- The usage text and the command line, for every table that is made by registering commands and
every command line. The text is made of the listed lines. Every name and every alias of a line that
stands below no parent is understood as its command throughout the command line. The name of a line
that stands below a parent is understood as its command once the parent has been executed; the names
that this made known are those of the sub-commands, and none of their aliases. A word is understood
without the blanks around it.
-/
theorem listing_understood (table : Table) (registered : Registered table)
    (past : List Call) (words : List String) (flags : Flags)
    : let start := Progress.start past table words flags
      table.usage = String.join (table.listing.map UsageEntry.line)
      ∧ (∀ entry ∈ table.listing,
          entry.parents = []
          → ∀ name ∈ entry.names,
              ∀ index ≤ start.rounds,
                ∀ rest,
                  (start.after index).Reads name rest
                  → (start.after index).Finds name rest entry.command)
      ∧ ∀ entry ∈ table.listing,
          ∀ parent outer,
            entry.parents = parent :: outer
            → ∀ index called behind,
                (start.after index).Finds called behind parent
                → (∀ later,
                    index < later
                    → later ≤ start.rounds
                    → ∀ rest,
                        (start.after later).Reads entry.name rest
                        → (start.after later).Finds entry.name rest entry.command)
                  ∧ (index < start.rounds
                      → ∀ name,
                          (start.after (index + 1)).tables.current.lookup name
                          = (parent.subs.lookup name).or
                              ((start.after index).tables.current.lookup name)) := by
  intro start
  have resolves := registered.resolves
  refine ⟨entriesUsage_eq [] [] table, fun entry listed top name shown index within rest reads => ?_,
    fun entry listed parent outer below index called behind found => ⟨?_, ?_⟩⟩
  · have stands := Table.mem_of_top listed top
    have known : (start.after 0).tables.current.lookup name = some (some entry.command) := by
      rcases List.mem_cons.mp shown with rfl | also
      · exact resolves.named _ stands
      · exact resolves.aliased _ _ stands name also
    exact ⟨reads, start.lookup_after (Nat.zero_le index) within known⟩
  · intro later lt within rest reads
    exact ⟨reads, start.lookup_sub found lt within (Table.mem_subs_of_below listed below)⟩
  · intro within name
    rw [Progress.lookup_round (start.round_of_lt within), Progress.nextSubs, found.next?_eq]
    rfl

/-- A sub-command with an alias. -/
def childCommand : Command :=
  { key := "b", function := some ([], .call "b" fun _ => none), aliases := ["bb"] }

/-- The command that makes it known. -/
def parentCommand : Command :=
  { key := "a", subs := [("b", some childCommand)] }

/-- A table with that command and the one that prints the usage. -/
def familyTable : Table :=
  (Table.define Table.initial "a" (some parentCommand)).2

theorem registered_familyTable : Registered familyTable :=
  .define .initial (Prod.ext (by decide +kernel) rfl)

theorem listing_familyTable
    : familyTable.listing
      = [⟨[], "-h", helpCommand⟩, ⟨[], "a", parentCommand⟩,
          ⟨[parentCommand], "b", childCommand⟩] := by
  rfl

theorem listing_understood_familyTable
    : (Progress.start [] familyTable ["a", "b"] {}).rounds = 2
      ∧ (Progress.start [] familyTable ["a", "b"] {}).Finds "a" ["b"] parentCommand
      ∧ ((Progress.start [] familyTable ["a", "b"] {}).after 1).Finds "b" [] childCommand := by
  have rounds : (Progress.start [] familyTable ["a", "b"] {}).rounds = 2 := by decide +kernel
  obtain ⟨_, top, below⟩ :=
    listing_understood familyTable registered_familyTable [] ["a", "b"] {}
  rw [listing_familyTable, rounds] at top below
  have first : (Progress.start [] familyTable ["a", "b"] {}).Finds "a" ["b"] parentCommand :=
    top ⟨[], "a", parentCommand⟩ (by simp) rfl "a" (by decide) 0 (by decide) ["b"]
      ⟨"a", rfl, by decide +kernel⟩
  have second := (below ⟨[parentCommand], "b", childCommand⟩ (by simp) parentCommand [] rfl 0
    "a" ["b"] first).1 1 (by decide) (by decide) []
  exact ⟨rounds, first, second ⟨"b", rfl, by decide +kernel⟩⟩

/-- The usage text shows the alias of the sub-command, and the command line takes it for a positional
word: nothing is called.
-/
theorem familyTable_ignores_alias
    : Registered familyTable
      ∧ familyTable.usage = "-h, help, -help, --help\tprint this usage\na\n  b, bb\n"
      ∧ (execute familyTable ["a", "b"] {}).calls.map Call.label = ["b"]
      ∧ (execute familyTable ["a", "bb"] {}).calls.map Call.label = []
      ∧ (execute familyTable ["a", "bb"] {}).ending = .finished ["bb"] :=
  ⟨registered_familyTable, by decide +kernel, by decide +kernel, by decide +kernel,
    by decide +kernel⟩

end TapeMachine.CommandLine
