import Mathlib.Data.List.Nodup
import TapeMachine.CommandLine.Execute

/-! Tables to which names are added one after another. A command that is registered under its names
and sub-commands that become known are added like that: each name must be free when its turn comes.
If all of them are, exactly these names are found besides those that were found before.
-/

namespace TapeMachine.CommandLine

-----------------------------------------------------------------------------------------
-- Lists of named values
-----------------------------------------------------------------------------------------

/-- Only names that stand in a list are found in it. -/
theorem lookup_eq_none_iff_not_mem {α : Type} {name : String} {entries : List (String × α)}
    : entries.lookup name = none ↔ name ∉ entries.map Prod.fst := by
  rw [List.lookup_eq_none_iff, List.mem_map]
  constructor
  · rintro absent ⟨entry, member, rfl⟩
    simpa using absent entry member
  · intro absent entry member
    exact bne_iff_ne.mpr fun same => absent ⟨entry, member, same.symm⟩

/-- In a list without repeated names, what stands under a name is found. -/
theorem lookup_eq_some_iff_mem {α : Type} {name : String} {value : α}
    {entries : List (String × α)} (distinct : (entries.map Prod.fst).Nodup)
    : entries.lookup name = some value ↔ (name, value) ∈ entries := by
  induction entries with
  | nil => simp
  | cons entry rest ih =>
      obtain ⟨first, old⟩ := entry
      obtain ⟨fresh, later⟩ := List.nodup_cons.mp distinct
      by_cases same : name = first
      · subst same
        have absent : (name, value) ∉ rest := fun member =>
          fresh (List.mem_map.mpr ⟨_, member, rfl⟩)
        simp [absent, eq_comm]
      · rw [List.lookup_cons, beq_false_of_ne same]
        simp [ih later, same]

/-- A name that was added is found. -/
theorem lookup_insertByName_same {α : Type} {name : String} {entries : List (String × α)}
    (free : entries.lookup name = none) (value : α)
    : (insertByName name value entries).lookup name = some value := by
  induction entries with
  | nil => simp [insertByName]
  | cons entry rest ih =>
      obtain ⟨other, old⟩ := entry
      have differs : (name == other) = false := by
        cases same : name == other with
        | true => simp [List.lookup_cons, same] at free
        | false => rfl
      rw [List.lookup_cons, differs] at free
      unfold insertByName
      split
      · simp
      · rw [List.lookup_cons, differs]
        exact ih free

theorem lookup_insertByName_other {α : Type} {name wanted : String} {value : α}
    {entries : List (String × α)} (differs : wanted ≠ name)
    : (insertByName name value entries).lookup wanted = entries.lookup wanted := by
  have passed : (wanted == name) = false := beq_false_of_ne differs
  induction entries with
  | nil => simp [insertByName, List.lookup_cons, passed]
  | cons entry rest ih =>
      unfold insertByName
      split
      · rw [List.lookup_cons, passed]
      · rw [List.lookup_cons, List.lookup_cons, ih]

theorem mem_insertByName {α : Type} {name : String} {value : α} {entries : List (String × α)}
    {entry : String × α}
    : entry ∈ insertByName name value entries ↔ entry = (name, value) ∨ entry ∈ entries := by
  induction entries with
  | nil => simp [insertByName]
  | cons first rest ih =>
      unfold insertByName
      split
      · simp
      · simp only [List.mem_cons, ih]
        exact or_left_comm

namespace Table

-----------------------------------------------------------------------------------------
-- Names that are added one after another
-----------------------------------------------------------------------------------------

/-- A table with the names of others added one after another. -/
def extended (table : Table) (subs : List (String × Option Command)) : Table :=
  subs.foldl (fun table entry => insertByName entry.1 entry.2 table) table

/-- Names can be added to a table: they differ from each other, and none of them is taken. -/
structure Admits (table : Table) (entries : List (String × Option Command)) : Prop where
  distinct : (entries.map Prod.fst).Nodup
  free : ∀ entry ∈ entries, table.lookup entry.1 = none

theorem admits_nil (table : Table) : table.Admits [] :=
  ⟨List.nodup_nil, nofun⟩

/-- Names can be added if the first is free and the others can be added behind it. -/
theorem admits_cons_iff {table : Table} {entry : String × Option Command}
    {rest : List (String × Option Command)}
    : table.Admits (entry :: rest)
      ↔ table.lookup entry.1 = none ∧ Admits (insertByName entry.1 entry.2 table) rest := by
  constructor
  · rintro ⟨distinct, free⟩
    obtain ⟨fresh, later⟩ := List.nodup_cons.mp distinct
    obtain ⟨first, others⟩ := List.forall_mem_cons.mp free
    refine ⟨first, later, fun other member => ?_⟩
    have differs : other.1 ≠ entry.1 := fun same =>
      fresh (same ▸ List.mem_map_of_mem member)
    rw [lookup_insertByName_other differs]
    exact others other member
  · rintro ⟨first, distinct, free⟩
    have differs {other : String × Option Command} (member : other ∈ rest)
        : other.1 ≠ entry.1 := by
      intro same
      have absent := free other member
      rw [same, lookup_insertByName_same first] at absent
      cases absent
    refine ⟨List.nodup_cons.mpr ⟨fun member => ?_, distinct⟩,
      List.forall_mem_cons.mpr ⟨first, fun other member => ?_⟩⟩
    · obtain ⟨other, inside, same⟩ := List.mem_map.mp member
      exact differs inside same
    · exact (lookup_insertByName_other (differs member)).symm.trans (free other member)

/-- When names can be added, they are found besides those that were found before; by induction on
the names.
-/
theorem lookup_extended {entries : List (String × Option Command)}
    : ∀ {table : Table},
        table.Admits entries
        → ∀ name,
            (table.extended entries).lookup name
            = (entries.lookup name).or (table.lookup name) := by
  induction entries with
  | nil => exact fun _ _ => rfl
  | cons entry rest ih =>
      intro table admits name
      obtain ⟨free, later⟩ := admits_cons_iff.mp admits
      have step := ih later name
      rw [extended, List.foldl_cons, ← extended, step, List.lookup_cons]
      by_cases same : name = entry.1
      · subst same
        have absent := lookup_eq_none_iff_not_mem.mpr (List.nodup_cons.mp admits.distinct).1
        rw [absent, lookup_insertByName_same free, beq_self_eq_true]
        rfl
      · rw [beq_false_of_ne same, lookup_insertByName_other same]

/-- A name that is known stays known. -/
theorem Admits.keeps {table : Table} {entries : List (String × Option Command)}
    (admits : table.Admits entries) {name : String} {command : Option Command}
    (known : table.lookup name = some command)
    : (table.extended entries).lookup name = some command := by
  have absent : entries.lookup name = none := by
    rw [lookup_eq_none_iff_not_mem, List.mem_map]
    rintro ⟨entry, member, rfl⟩
    rw [admits.free entry member] at known
    cases known
  rw [lookup_extended admits, absent, known]
  rfl

theorem Admits.adds {table : Table} {entries : List (String × Option Command)}
    (admits : table.Admits entries) {name : String} {command : Option Command}
    (member : (name, command) ∈ entries)
    : (table.extended entries).lookup name = some command := by
  rw [lookup_extended admits, (lookup_eq_some_iff_mem admits.distinct).mpr member]
  rfl

/-- A table has the names that were added to it besides those that it had. -/
theorem mem_extended {entries : List (String × Option Command)} {entry : String × Option Command}
    : ∀ {table : Table}, entry ∈ table.extended entries ↔ entry ∈ entries ∨ entry ∈ table := by
  induction entries with
  | nil => simp [extended]
  | cons first rest ih =>
      intro table
      rw [extended, List.foldl_cons, ← extended, ih, mem_insertByName, List.mem_cons]
      exact or_left_comm.trans or_assoc.symm

theorem contains_iff {table : Table} {name : String}
    : table.contains name = true ↔ table.lookup name ≠ none :=
  Option.isSome_iff_ne_none

/-- A command is registered under names exactly if they can be added; by induction on the names. -/
theorem registerAll_eq_none_iff {command : Command} {names : List String}
    : ∀ {table next : Table},
        registerAll command names table = (none, next)
        ↔ table.Admits (names.map (·, some command))
          ∧ next = table.extended (names.map (·, some command)) := by
  induction names with
  | nil =>
      intro table next
      simp only [registerAll, Prod.mk.injEq, true_and]
      exact ⟨fun same => ⟨table.admits_nil, same.symm⟩, fun both => both.2.symm⟩
  | cons name names ih =>
      intro table next
      rw [List.map_cons, admits_cons_iff, and_assoc, registerAll]
      by_cases taken : table.contains name = true
      · rw [if_pos taken]
        simp [contains_iff.mp taken]
      · rw [if_neg taken, ih, and_iff_right (not_not.mp (mt contains_iff.mpr taken))]
        rfl

end Table

end TapeMachine.CommandLine
