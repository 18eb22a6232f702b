import TapeMachine.Proofs.CommandLine.Tables

/-! Flags that are declared one after another. If all names are accepted, the table has exactly one
command for each way to use a flag, besides the commands that it started with, and every flag has
its first value.
-/

namespace TapeMachine.CommandLine

-----------------------------------------------------------------------------------------
-- Commands of flags in a table
-----------------------------------------------------------------------------------------

/-- The command that changes a flag. -/
def changeCommand (name : String) (use : List Kind × FlagChange) : Command :=
  { key := name, function := some (use.1, .flag use.2) }

namespace Table

/-- Commands are registered one after another, each under a name that was free. -/
theorem defineChanges_cons_iff {name : String} {use : List Kind × FlagChange}
    {rest : List (String × List Kind × FlagChange)} {table grown : Table}
    : defineChanges ((name, use) :: rest) table = (none, grown)
      ↔ table.lookup name = none
        ∧ defineChanges rest (insertByName name (some (changeCommand name use)) table)
          = (none, grown) := by
  simp only [defineChanges, define, registerAll, contains]
  by_cases free : table.lookup name = none
  · simp only [free, Option.isSome_none, Bool.false_eq_true, if_false, true_and]
    rfl
  · have taken := Option.isSome_iff_ne_none.mpr free
    simp only [taken, free, if_true, false_and, Prod.mk.injEq, reduceCtorEq]

/-- The entry of the command that changes a flag in a table. -/
def changeEntry (use : String × List Kind × FlagChange) : String × Option Command :=
  (use.1, some (changeCommand use.1 use.2))

/-- Commands that change flags are registered exactly if their names can be added; by induction on
the commands.
-/
theorem defineChanges_eq_none_iff {changes : List (String × List Kind × FlagChange)}
    : ∀ {table grown : Table},
        defineChanges changes table = (none, grown)
        ↔ table.Admits (changes.map changeEntry)
          ∧ grown = table.extended (changes.map changeEntry) := by
  induction changes with
  | nil =>
      intro table grown
      simp only [defineChanges, Prod.mk.injEq, true_and]
      exact ⟨fun same => ⟨table.admits_nil, same.symm⟩, fun both => both.2.symm⟩
  | cons use rest ih =>
      intro table grown
      rw [defineChanges_cons_iff, ih, List.map_cons, admits_cons_iff, and_assoc]
      rfl

/-- What is found under a name is the command of the use with that name. -/
theorem lookup_changeEntries (changes : List (String × List Kind × FlagChange)) (name : String)
    : (changes.map changeEntry).lookup name
      = (changes.lookup name).map fun use => some (changeCommand name use) := by
  induction changes with
  | nil => rfl
  | cons use rest ih =>
      rw [List.map_cons, List.lookup_cons, List.lookup_cons, ih]
      by_cases same : name = use.1
      · subst same
        simp [changeEntry]
      · simp [changeEntry, beq_false_of_ne same]

/-- When all commands could be registered, the table has them besides what it had. -/
theorem lookup_of_defineChanges {changes : List (String × List Kind × FlagChange)}
    {table grown : Table} (defined : defineChanges changes table = (none, grown)) (name : String)
    : grown.lookup name
      = match changes.lookup name with
        | some use => some (some (changeCommand name use))
        | none => table.lookup name := by
  obtain ⟨admits, rfl⟩ := defineChanges_eq_none_iff.mp defined
  rw [lookup_extended admits, lookup_changeEntries]
  cases changes.lookup name <;> rfl

/-- Commands that could all be registered have different names. -/
theorem nodup_of_defineChanges {changes : List (String × List Kind × FlagChange)}
    {table grown : Table} (defined : defineChanges changes table = (none, grown))
    : (changes.map Prod.fst).Nodup := by
  have distinct := (defineChanges_eq_none_iff.mp defined).1.distinct
  rwa [List.map_map] at distinct

end Table

-----------------------------------------------------------------------------------------
-- Declaring flags
-----------------------------------------------------------------------------------------

/-- Declares flags one after another, if all their names are accepted. -/
def declareAll : List (String × FlagKind) → Table → Flags → Option (Table × Flags)
  | [], table, flags => some (table, flags)
  | (name, kind) :: rest, table, flags =>
    match defineFlag name kind table flags with
    | (none, table, flags) => declareAll rest table flags
    | (some _, _, _) => none

/-- All ways to use the flags that are declared: the names, what they take and what they do. -/
def uses (declared : List (String × FlagKind)) : List (String × List Kind × FlagChange) :=
  declared.flatMap fun flag => flag.2.commands flag.1

/-- Commands are registered in two portions as in one. -/
theorem Table.defineChanges_append {changes more : List (String × List Kind × FlagChange)}
    : ∀ {table grown last : Table},
        defineChanges changes table = (none, grown)
        → defineChanges more grown = (none, last)
        → defineChanges (changes ++ more) table = (none, last) := by
  induction changes with
  | nil =>
      intro table grown last first second
      cases first
      exact second
  | cons entry rest ih =>
      intro table grown last first second
      obtain ⟨free, later⟩ := defineChanges_cons_iff.mp first
      exact defineChanges_cons_iff.mpr ⟨free, ih later second⟩

/-- Flags that are declared have all their commands registered, and their first values stand behind
each other.
-/
theorem defineChanges_of_declareAll {declared : List (String × FlagKind)}
    : ∀ {table last : Table} {flags start : Flags},
        declareAll declared table flags = some (last, start)
        → Table.defineChanges (uses declared) table = (none, last)
          ∧ start.entries
            = flags.entries ++ declared.map fun flag => (flag.1, flag.2.initial) := by
  induction declared with
  | nil =>
      intro table last flags start accepted
      cases accepted
      exact ⟨rfl, (List.append_nil _).symm⟩
  | cons flag rest ih =>
      intro table last flags start accepted
      obtain ⟨name, kind⟩ := flag
      unfold declareAll defineFlag at accepted
      split at accepted
      · rename_i defined
        split at defined
        · rename_i registered
          cases defined
          obtain ⟨later, entries⟩ := ih accepted
          refine ⟨Table.defineChanges_append registered later, entries.trans ?_⟩
          simp [Flags.declare]
        · cases defined
      · cases accepted

/-- Flags with different names that are used by different names. -/
structure Distinct (declared : List (String × FlagKind)) : Prop where
  flags : (declared.map Prod.fst).Nodup
  uses : ((uses declared).map Prod.fst).Nodup

/-- A flag is of one kind only. -/
theorem Distinct.kind_unique {declared : List (String × FlagKind)} (distinct : Distinct declared)
    {name : String} {kind other : FlagKind} (member : (name, kind) ∈ declared)
    (otherMember : (name, other) ∈ declared)
    : kind = other := by
  have found := (lookup_eq_some_iff_mem distinct.flags).mpr member
  rw [(lookup_eq_some_iff_mem distinct.flags).mpr otherMember] at found
  exact (Option.some.inj found).symm

/-- A flag is used by its own name, among others. -/
theorem map_fst_sublist_uses (declared : List (String × FlagKind))
    : (declared.map Prod.fst).Sublist ((uses declared).map Prod.fst) := by
  induction declared with
  | nil => exact List.Sublist.refl _
  | cons flag rest ih =>
      obtain ⟨name, kind⟩ := flag
      have own : [name].Sublist ((kind.commands name).map Prod.fst) := by
        cases kind <;> simp [FlagKind.commands]
      have both := own.append ih
      rwa [← List.map_append] at both

/-- What declaring flags leaves behind. -/
structure Declared (declared : List (String × FlagKind)) (table : Table) (start : Flags) : Prop
    where
  distinct : Distinct declared
  /-- The table has the commands of the flags, and the help command under its names. -/
  lookup
    : ∀ name, table.lookup name
        = match (uses declared).lookup name with
          | some use => some (some (changeCommand name use))
          | none => Table.initial.lookup name
  first : ∀ flag ∈ declared, start.get? flag.1 = some flag.2.initial

/-- Flags that are all accepted have their commands in the table and their first values. -/
theorem declared_of_declareAll {declared : List (String × FlagKind)} {table : Table}
    {start : Flags} (accepted : declareAll declared Table.initial {} = some (table, start))
    : Declared declared table start := by
  obtain ⟨defined, entries⟩ := defineChanges_of_declareAll accepted
  have usesDistinct := Table.nodup_of_defineChanges defined
  have distinct : Distinct declared :=
    ⟨usesDistinct.sublist (map_fst_sublist_uses declared), usesDistinct⟩
  refine ⟨distinct, Table.lookup_of_defineChanges defined, ?_⟩
  intro flag member
  have flagsDistinct : (start.entries.map Prod.fst).Nodup := by
    simpa [entries, Function.comp_def] using distinct.flags
  refine (lookup_eq_some_iff_mem flagsDistinct).mpr ?_
  simp only [entries, List.nil_append]
  exact List.mem_map.mpr ⟨flag, member, rfl⟩

/-- The table that every program starts from has the command that prints the usage, under its four
names.
-/
theorem initial_eq
    : Table.initial = ["--help", "-h", "-help", "help"].map (·, some helpCommand) := by
  rfl

/-- So nothing else is found there. -/
theorem lookup_initial {name : String} {command : Option Command}
    (found : Table.initial.lookup name = some command)
    : command = some helpCommand := by
  obtain ⟨_, _, split, _⟩ := List.lookup_eq_some_iff.mp found
  have member : (name, command) ∈ Table.initial := by
    rw [split]
    simp
  rw [initial_eq] at member
  obtain ⟨_, _, same⟩ := List.mem_map.mp member
  exact (congrArg Prod.snd same).symm

end TapeMachine.CommandLine
