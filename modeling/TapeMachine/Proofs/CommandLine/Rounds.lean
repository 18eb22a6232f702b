import TapeMachine.Proofs.CommandLine.Tables

/-! Everything a round of executing a command line can do, as one relation with a case for each,
and what follows for its calls, its tables and the words that it leaves.
-/

namespace TapeMachine.CommandLine

-----------------------------------------------------------------------------------------
-- Tables
-----------------------------------------------------------------------------------------

namespace Tables

/-- A name is added to the table that names are looked up in. -/
theorem current_put (tables : Tables) (name : String) (command : Option Command)
    : (tables.put name command).current = insertByName name command tables.current := by
  cases copied : tables.copy <;> simp [put, current, copied]

/-- Once there is a copy, the table of all command lines stays as it is. -/
theorem own_addSubs (parent : String) (subs : List (String × Option Command))
    : ∀ {tables : Tables},
        tables.copy.isSome = true → (addSubs parent subs tables).2.own = tables.own := by
  induction subs with
  | nil => exact fun _ => rfl
  | cons entry rest ih =>
      intro tables copied
      obtain ⟨table, same⟩ := Option.isSome_iff_exists.mp copied
      unfold addSubs
      split
      · rfl
      · have kept : (tables.put entry.1 entry.2).own = tables.own := by simp [put, same]
        have still : (tables.put entry.1 entry.2).copy.isSome = true := by simp [put, same]
        exact (ih still).trans kept

/-- Making sub-commands known leaves the table of all command lines as it is, whether a name is
taken or not.
-/
theorem own_activate (parent : String) (subs : List (String × Option Command))
    (tables : Tables)
    : (tables.activate parent subs).2.own = tables.own := by
  unfold activate
  split
  · rfl
  · exact own_addSubs parent subs rfl

/-- Adding sub-commands depends on the names that are known, not on whose table it is. -/
theorem addSubs_congr (parent : String) (subs : List (String × Option Command))
    : ∀ {tables others : Tables},
        tables.current = others.current
        → (addSubs parent subs tables).1 = (addSubs parent subs others).1
          ∧ (addSubs parent subs tables).2.current = (addSubs parent subs others).2.current := by
  induction subs with
  | nil => exact fun same => ⟨rfl, same⟩
  | cons entry rest ih =>
      intro tables others same
      unfold addSubs
      rw [same]
      split
      · exact ⟨rfl, same⟩
      · exact ih (by rw [current_put, current_put, same])

/-- Making sub-commands known depends on the names that are known. -/
theorem activate_congr (parent : String) (subs : List (String × Option Command))
    {tables others : Tables} (same : tables.current = others.current)
    : (tables.activate parent subs).1 = (others.activate parent subs).1
      ∧ (tables.activate parent subs).2.current = (others.activate parent subs).2.current := by
  unfold activate
  split
  · exact ⟨rfl, same⟩
  · exact addSubs_congr parent subs same

/-- When no name was taken, the sub-commands are added to the names that were known. -/
theorem current_addSubs (parent : String) (subs : List (String × Option Command))
    : ∀ {tables : Tables},
        (addSubs parent subs tables).1 = none
        → (addSubs parent subs tables).2.current = tables.current.extended subs := by
  induction subs with
  | nil => exact fun _ => rfl
  | cons entry rest ih =>
      intro tables success
      unfold addSubs at success ⊢
      split at success
      · cases success
      · rename_i free
        rw [if_neg free, ih success, current_put]
        rfl

/-- When no name was taken, a command that is activated has its sub-commands added to the names that
were known: the copy of the table to which they are added has the same names.
-/
theorem current_activate (parent : String) (subs : List (String × Option Command))
    {tables : Tables} (success : (tables.activate parent subs).1 = none)
    : (tables.activate parent subs).2.current = tables.current.extended subs := by
  unfold activate at success ⊢
  split
  · rename_i none
    rw [List.isEmpty_iff.mp none]
    rfl
  · rename_i some
    rw [if_neg some] at success
    exact current_addSubs parent subs success

/-- Sub-commands are added without a conflict exactly if their names can be added to those that were
known.
-/
theorem addSubs_eq_none_iff {parent : String} {subs : List (String × Option Command)}
    : ∀ {tables : Tables},
        (addSubs parent subs tables).1 = none ↔ tables.current.Admits subs := by
  induction subs with
  | nil => exact fun {tables} => ⟨fun _ => tables.current.admits_nil, fun _ => rfl⟩
  | cons entry rest ih =>
      intro tables
      rw [Table.admits_cons_iff, ← current_put, ← ih, addSubs]
      by_cases taken : tables.current.contains entry.1 = true
      · rw [if_pos taken]
        simp [Table.contains_iff.mp taken]
      · rw [if_neg taken, and_iff_right (not_not.mp (mt Table.contains_iff.mpr taken))]

/-- When sub-commands became known, their names could be added to those that were known. -/
theorem admits_of_activate {parent : String} {subs : List (String × Option Command)}
    {tables : Tables} (success : (tables.activate parent subs).1 = none)
    : tables.current.Admits subs := by
  unfold activate at success
  split at success
  · rename_i none
    rw [List.isEmpty_iff.mp none]
    exact tables.current.admits_nil
  · have admits := addSubs_eq_none_iff.mp success
    exact admits

end Tables

-----------------------------------------------------------------------------------------
-- Arguments
-----------------------------------------------------------------------------------------

/-- The arguments are taken one after another. -/
theorem takeArguments_cons_iff {kind : Kind} {kinds : List Kind} {words rest : List String}
    {arguments : List Argument}
    : takeArguments (kind :: kinds) words = .ok (arguments, rest)
      ↔ ∃ first others,
          kind.read words = .ok first
          ∧ takeArguments kinds (words.drop 1) = .ok (others, rest)
          ∧ arguments = first :: others := by
  simp only [takeArguments, bind, Except.bind, pure, Except.pure]
  cases kind.read words with
  | error cause => simp
  | ok first =>
      cases takeArguments kinds (words.drop 1) with
      | error cause => simp
      | ok taken =>
          obtain ⟨others, left⟩ := taken
          simp only [Except.ok.injEq, Prod.mk.injEq, exists_eq_left', exists_and_left]
          constructor
          · rintro ⟨rfl, rfl⟩
            exact ⟨others, ⟨rfl, rfl⟩, rfl⟩
          · rintro ⟨_, ⟨rfl, rfl⟩, rfl⟩
            exact ⟨rfl, rfl⟩

/-- Arguments for each of which there was a word are taken in the same way when more words
follow.
-/
theorem takeArguments_append {kinds : List Kind} {words rest : List String}
    {arguments : List Argument} (taken : takeArguments kinds words = .ok (arguments, rest))
    (enough : kinds.length ≤ words.length) (more : List String)
    : takeArguments kinds (words ++ more) = .ok (arguments, rest ++ more) := by
  induction kinds generalizing words arguments with
  | nil =>
      simp only [takeArguments, Except.ok.injEq, Prod.mk.injEq] at taken ⊢
      exact ⟨taken.1, congrArg (· ++ more) taken.2⟩
  | cons kind kinds ih =>
      obtain ⟨first, others, read, behind, rfl⟩ := takeArguments_cons_iff.mp taken
      cases words with
      | nil => cases enough
      | cons word words =>
          exact takeArguments_cons_iff.mpr
            ⟨first, others, read, ih behind (Nat.le_of_succ_le_succ enough), rfl⟩

-----------------------------------------------------------------------------------------
-- The cases of a round
-----------------------------------------------------------------------------------------

namespace Progress

/-- The next word has a name, and words follow it. -/
def Reads (p : Progress) (name : String) (words : List String) : Prop :=
  ∃ word, p.words = word :: words ∧ Text.trim word = name

/-- The next word names a command, and words follow it. -/
structure Finds (p : Progress) (name : String) (words : List String) (command : Command) : Prop
    where
  reads : p.Reads name words
  known : p.tables.current.lookup name = some (some command)

/-- The next word names a command with a function, and the words behind it spell all arguments of
the function.
-/
structure Invokes (p : Progress) (name : String) (command : Command) (effect : Effect)
    (arguments : List Argument) (rest : List String) : Prop where
  spelled
    : ∃ words kinds,
        p.Finds name words command
        ∧ command.function = some (kinds, effect)
        ∧ takeArguments kinds words = .ok (arguments, rest)

/-- When all words are used, the line ends with its positional words. -/
theorem round_of_used {p : Progress} (used : p.words = [])
    : p.round = (some (.finished p.positionals), p) := by
  simp only [round, used]

/-- A word that names no command is positional, or it is rejected. -/
theorem round_of_unknown {p : Progress} {name : String} {words : List String}
    (reads : p.Reads name words) (unknown : p.tables.current.lookup name = none)
    : p.round
      = if looksLikeCommand name then (some (.failed (.unknown name)), { p with words })
        else (none, { p with words, positionals := p.positionals ++ [name] }) := by
  obtain ⟨word, next, rfl⟩ := reads
  simp only [round, next, unknown]

theorem round_of_absent {p : Progress} {name : String} {words : List String}
    (reads : p.Reads name words) (absent : p.tables.current.lookup name = some none)
    : p.round = (some (.failed .noCommand), { p with words }) := by
  obtain ⟨word, next, rfl⟩ := reads
  simp only [round, next, absent]

theorem Finds.round_eq {p : Progress} {name : String} {words : List String} {command : Command}
    (found : p.Finds name words command)
    : p.round = { p with words }.obey name command := by
  obtain ⟨⟨word, next, rfl⟩, known⟩ := found
  simp only [round, next, known]

theorem Finds.round_of_group {p : Progress} {name : String} {words : List String}
    {command : Command} (found : p.Finds name words command) (group : command.function = none)
    : p.round = { p with words }.activate name command := by
  rw [found.round_eq, obey, group]

/-- Arguments that do not fit end the line. -/
theorem Finds.round_of_refused {p : Progress} {name : String} {words : List String}
    {command : Command} {kinds : List Kind} {effect : Effect} {cause : ArgumentError}
    (found : p.Finds name words command) (function : command.function = some (kinds, effect))
    (bad : takeArguments kinds words = .error cause)
    : p.round = (some (.failed (.badArgument name cause)), { p with words }) := by
  rw [found.round_eq, obey, function]
  simp only [bad]

/-- What a call does has nothing to do with the words that are left. -/
theorem call_withWords (p : Progress) (words : List String) (effect : Effect)
    (arguments : List Argument)
    : { p with words }.call effect arguments
      = ((p.call effect arguments).1, { (p.call effect arguments).2 with words }) := by
  cases effect <;> rfl

theorem tables_call (p : Progress) (effect : Effect) (arguments : List Argument)
    : (p.call effect arguments).2.tables = p.tables := by
  cases effect <;> rfl

theorem past_call (p : Progress) (effect : Effect) (arguments : List Argument)
    : (p.call effect arguments).2.past = p.past := by
  cases effect <;> rfl

theorem not_finished_of_call {p : Progress} {effect : Effect} {arguments : List Argument}
    {positionals : List String}
    : (p.call effect arguments).1 ≠ some (.finished positionals) := by
  cases effect with
  | outside label act =>
      simp only [call, ne_eq, Option.map_eq_some_iff, not_exists, not_and]
      intro message _ same
      cases same
  | flag change => exact Option.some_ne_none _ ∘ Eq.symm
  | quit reason =>
      intro same
      cases same

/-- Making sub-commands known ends the line only with an error. -/
theorem failed_of_activate {p : Progress} {name : String} {command : Command} {ending : Ending}
    (ends : (p.activate name command).1 = some ending)
    : ∃ error, ending = .failed error := by
  obtain ⟨error, _, same⟩ := Option.map_eq_some_iff.mp ends
  exact ⟨error, same.symm⟩

theorem not_finished_of_activate {p : Progress} {name : String} {command : Command}
    {positionals : List String}
    : (p.activate name command).1 ≠ some (.finished positionals) := by
  intro ends
  obtain ⟨_, fails⟩ := failed_of_activate ends
  cases fails

/-- A command that is invoked is called before anything else happens. -/
theorem Invokes.round_eq {p : Progress} {name : String} {command : Command}
    {effect : Effect} {arguments : List Argument} {rest : List String}
    (invoked : p.Invokes name command effect arguments rest)
    : p.round
      = match (p.call effect arguments).1 with
        | some ending => (some ending, { (p.call effect arguments).2 with words := rest })
        | none => { (p.call effect arguments).2 with words := rest }.activate name command := by
  obtain ⟨words, kinds, found, function, taken⟩ := invoked.spelled
  rw [found.round_eq, obey, function]
  simp only [taken]
  rw [call_withWords]
  cases (p.call effect arguments).1 <;> rfl

/-- Everything that a round can do, with the guard of each case. -/
inductive Turn (p : Progress) : Option Ending → Progress → Prop
  | used (none : p.words = [])
    : Turn p (some (.finished p.positionals)) p
  | rejected {name words} (reads : p.Reads name words)
    (unknown : p.tables.current.lookup name = none) (looks : looksLikeCommand name = true)
    : Turn p (some (.failed (.unknown name))) { p with words }
  | kept {name words} (reads : p.Reads name words)
    (unknown : p.tables.current.lookup name = none) (plain : looksLikeCommand name = false)
    : Turn p none { p with words, positionals := p.positionals ++ [name] }
  | absent {name words} (reads : p.Reads name words)
    (absent : p.tables.current.lookup name = some none)
    : Turn p (some (.failed .noCommand)) { p with words }
  | grouped {name words command} (found : p.Finds name words command)
    (group : command.function = none)
    : Turn p ({ p with words }.activate name command).1
        ({ p with words }.activate name command).2
  | refused {name words command kinds effect cause} (found : p.Finds name words command)
    (function : command.function = some (kinds, effect))
    (bad : takeArguments kinds words = .error cause)
    : Turn p (some (.failed (.badArgument name cause))) { p with words }
  | ended {name command effect arguments rest ending}
    (invoked : p.Invokes name command effect arguments rest)
    (ends : (p.call effect arguments).1 = some ending)
    : Turn p (some ending) { (p.call effect arguments).2 with words := rest }
  | obeyed {name command effect arguments rest}
    (invoked : p.Invokes name command effect arguments rest)
    (goesOn : (p.call effect arguments).1 = none)
    : Turn p ({ (p.call effect arguments).2 with words := rest }.activate name command).1
        ({ (p.call effect arguments).2 with words := rest }.activate name command).2

/-- A round that finds a command is one of the listed cases. -/
theorem Finds.turn {p : Progress} {name : String} {words : List String} {command : Command}
    (found : p.Finds name words command)
    : p.Turn p.round.1 p.round.2 := by
  cases function : command.function with
  | none =>
      rw [found.round_of_group function]
      exact .grouped found function
  | some parts =>
      obtain ⟨kinds, effect⟩ := parts
      cases taken : takeArguments kinds words with
      | error cause =>
          rw [found.round_of_refused function taken]
          exact .refused found function taken
      | ok read =>
          obtain ⟨arguments, rest⟩ := read
          have invoked : p.Invokes name command effect arguments rest :=
            ⟨words, kinds, found, function, taken⟩
          rw [invoked.round_eq]
          cases ends : (p.call effect arguments).1 with
          | some ending => exact .ended invoked ends
          | none => exact .obeyed invoked ends

/-- A round is one of the listed cases. -/
theorem turn_round (p : Progress) : p.Turn p.round.1 p.round.2 := by
  cases next : p.words with
  | nil =>
      rw [round_of_used next]
      exact .used next
  | cons word words =>
      have reads : p.Reads (Text.trim word) words := ⟨word, next, rfl⟩
      rcases known : p.tables.current.lookup (Text.trim word) with _ | _ | command
      · rw [round_of_unknown reads known]
        cases looks : looksLikeCommand (Text.trim word) with
        | true => exact .rejected reads known looks
        | false => exact .kept reads known looks
      · rw [round_of_absent reads known]
        exact .absent reads known
      · exact Finds.turn ⟨reads, known⟩

/-- The result of a round is one of the listed cases. -/
theorem turn_of_round {p next : Progress} {ending : Option Ending}
    (went : p.round = (ending, next))
    : p.Turn ending next := by
  have turn := p.turn_round
  rw [went] at turn
  exact turn

-----------------------------------------------------------------------------------------
-- What every round keeps
-----------------------------------------------------------------------------------------

/-- A round leaves the table of all command lines alone, however it ends; by the cases of a round. -/
theorem own_round (p : Progress) : p.round.2.tables.own = p.tables.own := by
  rcases went : p.round with ⟨ending, next⟩
  cases turn_of_round went with
  | used | rejected | kept | absent | refused => rfl
  | grouped => exact Tables.own_activate _ _ _
  | ended => exact congrArg Tables.own (p.tables_call _ _)
  | obeyed =>
      refine (Tables.own_activate _ _ _).trans ?_
      exact congrArg Tables.own (p.tables_call _ _)

/-- A round does not change what earlier command lines called, by the cases of a round. -/
theorem past_round (p : Progress) : p.round.2.past = p.past := by
  rcases went : p.round with ⟨ending, next⟩
  cases turn_of_round went with
  | used | rejected | kept | absent | refused | grouped => rfl
  | ended | obeyed => exact p.past_call _ _

/-- A round that ends the line successfully found all words used. -/
theorem used_of_finished {p next : Progress} {positionals : List String}
    (went : p.round = (some (.finished positionals), next))
    : p.words = [] ∧ p.positionals = positionals ∧ next = p := by
  have turn := turn_of_round went
  generalize ends : some (Ending.finished positionals) = ending at turn
  cases turn with
  | used none => exact ⟨none, (Ending.finished.inj (Option.some.inj ends)).symm, rfl⟩
  | rejected | kept | absent | refused => cases ends
  | grouped | obeyed => exact absurd ends.symm not_finished_of_activate
  | ended _ called => exact absurd (called.trans ends.symm) not_finished_of_call

end Progress

end TapeMachine.CommandLine
