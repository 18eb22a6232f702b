import TapeMachine.Proofs.CommandLine.Rounds

/-! Executing one list of words behind another. The rounds of the first list are the same when more
words follow, unless an argument is made up for want of words, and the second list is executed with
the names that the first one made known. Whatever the words, functions are called with arguments
that were read, nothing happens after the first error, and the table that the next command line
starts with is the old one.
-/

namespace TapeMachine.CommandLine

namespace Progress

-----------------------------------------------------------------------------------------
-- Whole command lines as sequences of rounds
-----------------------------------------------------------------------------------------

/-- How far a command line came after a number of rounds. -/
def after (p : Progress) : Nat → Progress
  | 0 => p
  | count + 1 => (p.after count).round.2

/-- The number of rounds before the one that ends the line. -/
def rounds (p : Progress) : Nat :=
  match went : p.round with
  | (some _, _) => 0
  | (none, next) =>
    have : next.words.length < p.words.length := length_words_round went
    next.rounds + 1
termination_by p.words.length

/-- The rounds go on from where the first one led. -/
theorem after_succ_eq (p : Progress) (count : Nat)
    : p.after (count + 1) = p.round.2.after count := by
  induction count with
  | zero => rfl
  | succ count ih => rw [after, ih, after]

/-- A line ends with the round that ends it. -/
theorem finish_of_ended {p next : Progress} {ending : Ending}
    (ends : p.round = (some ending, next))
    : p.finish = (ending, next) ∧ p.rounds = 0 := by
  constructor
  · unfold finish
    split <;> rename_i went <;> rw [ends] at went <;> cases went
    rfl
  · unfold rounds
    split
    · rfl
    · rename_i went
      rw [ends] at went
      cases went

/-- A line ends as it does from where a round leaves it that goes on. -/
theorem finish_of_goesOn {p next : Progress} (goesOn : p.round = (none, next))
    : p.finish = next.finish ∧ p.rounds = next.rounds + 1 := by
  constructor
  · rw [finish]
    split <;> rename_i went <;> rw [goesOn] at went <;> cases went
    rfl
  · rw [rounds]
    split <;> rename_i went <;> rw [goesOn] at went <;> cases went
    rfl

/-- What holds of a line that a round ends, and of a line if it holds from where a round leaves it
that goes on, holds of every line; by induction on the number of words.
-/
theorem induct {motive : Progress → Prop}
    (ended : ∀ (p next : Progress) (ending : Ending), p.round = (some ending, next) → motive p)
    (goesOn : ∀ p next : Progress, p.round = (none, next) → motive next → motive p)
    (p : Progress)
    : motive p := by
  rcases went : p.round with ⟨_ | ending, next⟩
  · have fewer := length_words_round went
    exact goesOn p next went (induct ended goesOn next)
  · exact ended p next ending went
termination_by p.words.length

/-- All rounds but the last one go on, and the last one ends the line; by induction on the rounds. -/
theorem round_after (p : Progress)
    : (∀ index < p.rounds, (p.after index).round.1 = none)
      ∧ (p.after p.rounds).round = (some p.finish.1, p.finish.2) := by
  induction p using induct with
  | ended p next ending ends =>
      obtain ⟨finish, rounds⟩ := finish_of_ended ends
      rw [finish, rounds]
      exact ⟨fun _ below => absurd below (Nat.not_lt_zero _), ends⟩
  | goesOn p next went ih =>
      obtain ⟨finish, rounds⟩ := finish_of_goesOn went
      obtain ⟨goes, ends⟩ := ih
      have first : p.round.2 = next := congrArg Prod.snd went
      rw [finish, rounds, after_succ_eq, first]
      refine ⟨fun index below => ?_, ends⟩
      cases index with
      | zero => exact congrArg Prod.fst went
      | succ index =>
          rw [after_succ_eq, first]
          exact goes index (Nat.lt_of_succ_lt_succ below)

/-- No command line changes the table that the next one starts with, by induction on the rounds. -/
theorem own_finish (p : Progress) : p.finish.2.tables.own = p.tables.own := by
  induction p using induct with
  | ended p next ending ends =>
      rw [(finish_of_ended ends).1, ← own_round p, ends]
  | goesOn p next went ih =>
      rw [(finish_of_goesOn went).1, ih, ← own_round p, went]

/-- No command line changes what earlier ones called, by induction on the rounds. -/
theorem past_finish (p : Progress) : p.finish.2.past = p.past := by
  induction p using induct with
  | ended p next ending ends =>
      rw [(finish_of_ended ends).1, ← past_round p, ends]
  | goesOn p next went ih =>
      rw [(finish_of_goesOn went).1, ih, ← past_round p, went]

-----------------------------------------------------------------------------------------
-- Calls
-----------------------------------------------------------------------------------------

/-- The next round calls a function only if it finds a command and reads all arguments of the
function. Without a call, the calls and the flags stay as they are, and nothing asks the program
to end.
-/
def CallsAsRead (p : Progress) : Prop :=
  (p.round.2.calls = p.calls
    ∧ p.round.2.flags = p.flags
    ∧ ∀ reason, p.round.1 ≠ some (.quit reason))
  ∨ ∃ name command effect arguments rest,
      p.Invokes name command effect arguments rest
      ∧ p.round.2.calls = (p.call effect arguments).2.calls
      ∧ p.round.2.flags = (p.call effect arguments).2.flags

/-- Every round calls functions with arguments that it read, by the cases of a round. -/
theorem callsAsRead (p : Progress) : p.CallsAsRead := by
  unfold CallsAsRead
  rcases went : p.round with ⟨ending, next⟩
  cases turn_of_round went with
  | used | rejected | absent | refused =>
      refine Or.inl ⟨rfl, rfl, fun reason same => ?_⟩
      cases same
  | kept => exact Or.inl ⟨rfl, rfl, fun reason => Option.some_ne_none _ ∘ Eq.symm⟩
  | grouped =>
      refine Or.inl ⟨rfl, rfl, fun reason quits => ?_⟩
      obtain ⟨_, fails⟩ := failed_of_activate quits
      cases fails
  | ended invoked => exact Or.inr ⟨_, _, _, _, _, invoked, rfl, rfl⟩
  | obeyed invoked => exact Or.inr ⟨_, _, _, _, _, invoked, rfl, rfl⟩

/-- A command line is executed in order: it goes on after each round but the last one, which ends it
with an error or otherwise, and each round calls a function only with arguments that it read.
-/
structure Orderly (p : Progress) : Prop where
  goesOn : ∀ index < p.rounds, (p.after index).round.1 = none
  ends : (p.after p.rounds).round = (some p.finish.1, p.finish.2)
  reads : ∀ index ≤ p.rounds, (p.after index).CallsAsRead

/-- Every command line is executed in order. -/
theorem orderly (p : Progress) : p.Orderly :=
  ⟨p.round_after.1, p.round_after.2, fun index _ => (p.after index).callsAsRead⟩

-----------------------------------------------------------------------------------------
-- Names that become known
-----------------------------------------------------------------------------------------

/-- The command that the next word names. -/
def next? (p : Progress) : Option Command :=
  p.words.head?.bind fun word => (p.tables.current.lookup (Text.trim word)).join

theorem Finds.next?_eq {p : Progress} {name : String} {words : List String} {command : Command}
    (found : p.Finds name words command)
    : p.next? = some command := by
  obtain ⟨⟨word, next, rfl⟩, known⟩ := found
  simp [next?, next, known]

theorem Reads.next?_eq {p : Progress} {name : String} {words : List String}
    (reads : p.Reads name words) (unknown : p.tables.current.lookup name = none)
    : p.next? = none := by
  obtain ⟨word, next, rfl⟩ := reads
  simp [next?, next, unknown]

/-- The sub-commands that the next round makes known if it goes on. -/
def nextSubs (p : Progress) : List (String × Option Command) :=
  (p.next?.map Command.subs).getD []

/-- The sub-commands that the command line makes known before it ends. -/
def activated (p : Progress) : List (String × Option Command) :=
  (List.range p.rounds).flatMap fun index => (p.after index).nextSubs

/-- A round that goes on leaves the names that are known after the sub-commands were added to them
without a conflict; by the cases of a round.
-/
theorem activate_of_round {p next : Progress} (went : p.round = (none, next))
    : ∃ parent,
        (p.tables.activate parent p.nextSubs).1 = none
        ∧ next.tables.current = (p.tables.activate parent p.nextSubs).2.current := by
  have turn := turn_of_round went
  generalize goesOn : (none : Option Ending) = ending at turn
  cases turn with
  | used | rejected | absent | refused | ended => cases goesOn
  | @kept name words reads unknown =>
      rw [nextSubs, reads.next?_eq unknown]
      exact ⟨name, rfl, rfl⟩
  | @grouped name words command found =>
      have success : (p.tables.activate name command.subs).1 = none :=
        Option.map_eq_none_iff.mp goesOn.symm
      rw [nextSubs, found.next?_eq]
      exact ⟨name, success, rfl⟩
  | @obeyed name command effect arguments rest invoked =>
      obtain ⟨words, kinds, found, _⟩ := invoked.spelled
      have tables := p.tables_call effect arguments
      have success : (p.tables.activate name command.subs).1 = none := by
        rw [← tables]
        exact Option.map_eq_none_iff.mp goesOn.symm
      rw [nextSubs, found.next?_eq]
      exact ⟨name, success, by rw [← tables]; rfl⟩

/-- A round that goes on makes the sub-commands known, whose names were free. -/
theorem current_round {p next : Progress} (went : p.round = (none, next))
    : p.tables.current.Admits p.nextSubs
      ∧ next.tables.current = p.tables.current.extended p.nextSubs := by
  obtain ⟨parent, success, known⟩ := activate_of_round went
  exact ⟨Tables.admits_of_activate success,
    known.trans (Tables.current_activate parent p.nextSubs success)⟩

/-- The sub-commands of the first round come before those of the others. -/
theorem activated_of_goesOn {p next : Progress} (went : p.round = (none, next))
    : p.activated = p.nextSubs ++ next.activated := by
  have first : p.round.2 = next := congrArg Prod.snd went
  have later (index : Nat) : p.after (index + 1) = next.after index := by
    rw [after_succ_eq, first]
  rw [activated, (finish_of_goesOn went).2, List.range_succ_eq_map, List.flatMap_cons,
    List.flatMap_map]
  simp only [later]
  rfl

/-- A line that ends successfully has used all its words and knows the sub-commands that it made
known; by induction on the rounds.
-/
theorem finish_of_finished (p : Progress) {positionals : List String}
    (succeeds : p.finish.1 = .finished positionals)
    : p.finish.2.words = []
      ∧ p.finish.2.positionals = positionals
      ∧ p.finish.2.tables.current = p.tables.current.extended p.activated := by
  induction p using induct with
  | ended p next ending ends =>
      obtain ⟨finish, rounds⟩ := finish_of_ended ends
      rw [finish] at succeeds ⊢
      obtain rfl : ending = .finished positionals := succeeds
      obtain ⟨used, same, rfl⟩ := used_of_finished ends
      rw [activated, rounds]
      exact ⟨used, same, rfl⟩
  | goesOn p next went ih =>
      rw [(finish_of_goesOn went).1] at succeeds ⊢
      obtain ⟨used, same, known⟩ := ih succeeds
      refine ⟨used, same, known.trans ?_⟩
      rw [(current_round went).2, activated_of_goesOn went, Table.extended, Table.extended,
        Table.extended, List.foldl_append]

-----------------------------------------------------------------------------------------
-- More words
-----------------------------------------------------------------------------------------

/-- The same command line with more words behind it. -/
def followedBy (p : Progress) (more : List String) : Progress :=
  { p with words := p.words ++ more }

/-- The parameters of the command that the next word names. -/
def parameters (p : Progress) : List Kind :=
  ((p.next?.bind Command.function).map Prod.fst).getD []

/-- There is a word for every parameter of the command that the next word names, so no argument has
to be made up for want of words.
-/
def Supplied (p : Progress) : Prop :=
  p.parameters.length ≤ p.words.tail.length

instance (p : Progress) : Decidable p.Supplied :=
  inferInstanceAs (Decidable (_ ≤ _))

/-- In no round of the command line an argument has to be made up. -/
def NeedsNoDefaults (p : Progress) : Prop :=
  ∀ index ≤ p.rounds, (p.after index).Supplied

instance (p : Progress) : Decidable p.NeedsNoDefaults :=
  inferInstanceAs (Decidable (∀ index ≤ p.rounds, _))

/-- A round that goes on does the same when more words follow, unless an argument had to be made up.
-/
theorem round_followedBy {p next : Progress} (went : p.round = (none, next))
    (supplied : p.Supplied) (more : List String)
    : (p.followedBy more).round = (none, next.followedBy more) := by
  have reads {name : String} {words : List String} (reads : p.Reads name words)
      : (p.followedBy more).Reads name (words ++ more) := by
    obtain ⟨word, next, rfl⟩ := reads
    exact ⟨word, by rw [followedBy, next]; rfl, rfl⟩
  have finds {name : String} {words : List String} {command : Command}
      (found : p.Finds name words command)
      : (p.followedBy more).Finds name (words ++ more) command :=
    ⟨reads found.reads, found.known⟩
  have turn := turn_of_round went
  generalize goesOn : (none : Option Ending) = ending at turn
  cases turn with
  | used | rejected | absent | refused | ended => cases goesOn
  | kept read unknown plain =>
      rw [round_of_unknown (reads read) unknown, plain]
      rfl
  | grouped found group =>
      rw [(finds found).round_of_group group]
      rfl
  | @obeyed name command effect arguments rest invoked called =>
      -- The one case in which words behind those of the line could be taken for arguments.
      obtain ⟨words, kinds, found, function, taken⟩ := invoked.spelled
      have enough : kinds.length ≤ words.length := by
        obtain ⟨word, next, _⟩ := found.reads
        simpa [Supplied, parameters, found.next?_eq, function, next] using supplied
      have behind : (p.followedBy more).Invokes name command effect arguments (rest ++ more) :=
        ⟨words ++ more, kinds, finds found, function, takeArguments_append taken enough more⟩
      have same : (p.followedBy more).call effect arguments
          = ((p.call effect arguments).1, (p.call effect arguments).2.followedBy more) := by
        cases effect <;> rfl
      rw [behind.round_eq, same]
      simp only [called]
      rfl

/-- A successful command line without arguments that were made up leads to where its words are used
and more follow; by induction on the rounds.
-/
theorem finish_followedBy (p : Progress) {positionals : List String}
    (succeeds : p.finish.1 = .finished positionals) (supplied : p.NeedsNoDefaults)
    (more : List String)
    : (p.followedBy more).finish = (p.finish.2.followedBy more).finish := by
  induction p using induct with
  | ended p next ending ends =>
      have finish := (finish_of_ended ends).1
      rw [finish] at succeeds ⊢
      obtain rfl : ending = .finished positionals := succeeds
      obtain ⟨_, _, rfl⟩ := used_of_finished ends
      rfl
  | goesOn p next went ih =>
      obtain ⟨finish, rounds⟩ := finish_of_goesOn went
      have first : p.round.2 = next := congrArg Prod.snd went
      have later : next.NeedsNoDefaults := by
        intro index below
        rw [← first, ← after_succ_eq]
        exact supplied (index + 1) (by omega)
      rw [finish] at succeeds ⊢
      rw [(finish_of_goesOn (round_followedBy went (supplied 0 (Nat.zero_le _)) more)).1]
      exact ih succeeds later

-----------------------------------------------------------------------------------------
-- A line that continues another one
-----------------------------------------------------------------------------------------

end Progress

/-- An ending with positional words before those that it has, if it has any. -/
def Ending.behind (positionals : List String) : Ending → Ending
  | finished others => .finished (positionals ++ others)
  | ending => ending

/-- Only a successful ending has positional words. -/
theorem Ending.map_behind {ending : Option Ending}
    (unfinished : ∀ others, ending ≠ some (.finished others)) (positionals : List String)
    : ending.map (behind positionals) = ending := by
  rcases ending with _ | others | error | reason
  · rfl
  · exact absurd rfl (unfinished others)
  · rfl
  · rfl

namespace Progress

/-- One command line goes on where others left off, and the other one starts anew there: it knows
the same names, and what the one did before is in the past.
-/
structure Continues (calls : List Call) (positionals : List String) (p fresh : Progress) : Prop
    where
  current : fresh.tables.current = p.tables.current
  words : fresh.words = p.words
  flags : fresh.flags = p.flags
  past : fresh.past = p.past ++ calls
  calls : p.calls = calls ++ fresh.calls
  positionals : p.positionals = positionals ++ fresh.positionals

namespace Continues

variable {calls : List Call} {positionals : List String} {p fresh : Progress}

theorem use (continues : Continues calls positionals p fresh) (words : List String)
    : Continues calls positionals { p with words } { fresh with words } :=
  { continues with words := rfl }

theorem reads (continues : Continues calls positionals p fresh) {name : String}
    {words : List String} (reads : p.Reads name words)
    : fresh.Reads name words := by
  obtain ⟨word, next, same⟩ := reads
  exact ⟨word, continues.words.trans next, same⟩

theorem finds (continues : Continues calls positionals p fresh) {name : String}
    {words : List String} {command : Command} (found : p.Finds name words command)
    : fresh.Finds name words command :=
  ⟨continues.reads found.reads, by rw [continues.current]; exact found.known⟩

/-- The same sub-commands become known, or the same name is taken. -/
theorem activate (continues : Continues calls positionals p fresh) (name : String)
    (command : Command)
    : (p.activate name command).1
        = (fresh.activate name command).1.map (Ending.behind positionals)
      ∧ Continues calls positionals (p.activate name command).2
          (fresh.activate name command).2 := by
  obtain ⟨error, current⟩ := Tables.activate_congr name command.subs continues.current
  have ending : (fresh.activate name command).1 = (p.activate name command).1 :=
    congrArg (Option.map Ending.failed) error
  rw [Ending.map_behind (fun _ => not_finished_of_activate), ending]
  exact ⟨rfl, { continues with current := current }⟩

/-- A call does the same. -/
theorem call (continues : Continues calls positionals p fresh) (effect : Effect)
    (arguments : List Argument)
    : (fresh.call effect arguments).1 = (p.call effect arguments).1
      ∧ Continues calls positionals (p.call effect arguments).2
          (fresh.call effect arguments).2 := by
  -- What a function answers depends on all calls before, be they of this line or of earlier ones.
  have history : fresh.past ++ fresh.calls = p.past ++ p.calls := by
    rw [continues.past, continues.calls, List.append_assoc]
  cases effect with
  | outside label act =>
      simp only [Progress.call, history, continues.flags, true_and]
      refine { continues with flags := rfl, calls := ?_ }
      rw [continues.calls, List.append_assoc]
  | flag change =>
      exact ⟨rfl, { continues with flags := congrArg (change.apply arguments) continues.flags }⟩
  | quit reason => exact ⟨rfl, continues⟩

/-- One round does the same on both lines, by its cases. -/
theorem round (continues : Continues calls positionals p fresh)
    : p.round.1 = fresh.round.1.map (Ending.behind positionals)
      ∧ Continues calls positionals p.round.2 fresh.round.2 := by
  have unknown {name : String} {entry : Option (Option Command)}
      (known : p.tables.current.lookup name = entry)
      : fresh.tables.current.lookup name = entry := by
    rw [continues.current]
    exact known
  rcases went : p.round with ⟨ending, next⟩
  cases turn_of_round went with
  | used none =>
      rw [round_of_used (continues.words.trans none)]
      exact ⟨congrArg (some ∘ Ending.finished) continues.positionals, continues⟩
  | rejected read missing looks =>
      rw [round_of_unknown (continues.reads read) (unknown missing), if_pos looks]
      exact ⟨rfl, continues.use _⟩
  | @kept name words read missing plain =>
      rw [round_of_unknown (continues.reads read) (unknown missing), plain]
      refine ⟨rfl, { continues.use words with positionals := ?_ }⟩
      rw [continues.positionals, List.append_assoc]
      rfl
  | absent read missing =>
      rw [round_of_absent (continues.reads read) (unknown missing)]
      exact ⟨rfl, continues.use _⟩
  | grouped found group =>
      rw [(continues.finds found).round_of_group group]
      exact (continues.use _).activate _ _
  | refused found function bad =>
      rw [(continues.finds found).round_of_refused function bad]
      exact ⟨rfl, continues.use _⟩
  | @ended name command effect arguments rest ending invoked called =>
      obtain ⟨words, kinds, found, read⟩ := invoked.spelled
      have invoked : fresh.Invokes name command effect arguments rest :=
        ⟨words, kinds, continues.finds found, read⟩
      obtain ⟨same, after⟩ := continues.call effect arguments
      have unfinished : ∀ others, some ending ≠ some (Ending.finished others) :=
        fun others finished => not_finished_of_call (called.trans finished)
      rw [invoked.round_eq, same, called]
      exact ⟨(Ending.map_behind unfinished positionals).symm, after.use rest⟩
  | @obeyed name command effect arguments rest invoked called =>
      obtain ⟨words, kinds, found, read⟩ := invoked.spelled
      have invoked : fresh.Invokes name command effect arguments rest :=
        ⟨words, kinds, continues.finds found, read⟩
      obtain ⟨same, after⟩ := continues.call effect arguments
      rw [invoked.round_eq, same, called]
      exact (after.use rest).activate name command

/-- Both lines end in the same way, by induction on the rounds. -/
theorem finish (continues : Continues calls positionals p fresh)
    : p.finish.1 = fresh.finish.1.behind positionals
      ∧ Continues calls positionals p.finish.2 fresh.finish.2 := by
  induction p using induct generalizing fresh with
  | ended p next ending ends =>
      obtain ⟨same, after⟩ := continues.round
      rcases freshWent : fresh.round with ⟨_ | freshEnding, freshNext⟩
      · rw [ends, freshWent] at same
        cases same
      · rw [ends, freshWent] at same after
        rw [(finish_of_ended ends).1, (finish_of_ended freshWent).1]
        exact ⟨Option.some.inj same, after⟩
  | goesOn p next went ih =>
      obtain ⟨same, after⟩ := continues.round
      rcases freshWent : fresh.round with ⟨_ | freshEnding, freshNext⟩
      · rw [went, freshWent] at after
        rw [(finish_of_goesOn went).1, (finish_of_goesOn freshWent).1]
        exact ih after
      · rw [went, freshWent] at same
        cases same

end Continues

end Progress

-----------------------------------------------------------------------------------------
-- The law of composition
-----------------------------------------------------------------------------------------

/-- Execution composes and leaves no trace. Where a list of words is executed successfully and no
argument is made up for want of words, executing it with another list behind it makes its calls and
then those of the second list, which is executed with the sub-commands known that the first one
made known; the positional words stand together, and an error of the second list stands alone.
Whatever the words, they are executed in order, and the next command line starts with the same
table.
-/
theorem executeAfter_append (past : List Call) (table : Table) (flags : Flags)
    (a b positionals : List String)
    (succeeds : (executeAfter past table a flags).ending = .finished positionals)
    (supplied : (Progress.start past table a flags).NeedsNoDefaults)
    : let first := executeAfter past table a flags
      let known := table.extended (Progress.start past table a flags).activated
      let second := executeAfter (past ++ first.calls) known b first.flags
      let whole := executeAfter past table (a ++ b) flags
      (whole.calls = first.calls ++ second.calls
        ∧ whole.flags = second.flags
        ∧ whole.ending = second.ending.behind positionals)
      ∧ ∀ words,
          (Progress.start past table words flags).Orderly
          ∧ (executeAfter past table words flags).table = table := by
  intro first known second whole
  refine ⟨?_, fun words =>
    ⟨(Progress.start past table words flags).orderly, Progress.own_finish _⟩⟩
  -- The rounds of the first list lead to its end with the second list left over. From there on, the
  -- whole line continues the first one where the second one starts anew.
  have last := Progress.past_finish (Progress.start past table a flags)
  obtain ⟨used, same, current⟩ := Progress.finish_of_finished _ succeeds
  have continues
      : Progress.Continues first.calls positionals
          ((Progress.start past table a flags).finish.2.followedBy b)
          (Progress.start (past ++ first.calls) known b first.flags) := {
    current := current.symm
    words := by rw [Progress.followedBy, used]; rfl
    flags := rfl
    past := congrArg (· ++ first.calls) last.symm
    calls := (List.append_nil _).symm
    positionals := same.trans (List.append_nil _).symm
  }
  have finish
      : (Progress.start past table (a ++ b) flags).finish
        = ((Progress.start past table a flags).finish.2.followedBy b).finish :=
    Progress.finish_followedBy _ succeeds supplied b
  obtain ⟨ending, after⟩ := continues.finish
  rw [← finish] at ending after
  exact ⟨after.calls, after.flags.symm, ending⟩

/-- A command that takes a number and makes another one known, which fails the second time it is
called.
-/
def onceTable : Table :=
  [("-set",
    some
      { key := "-set"
        function := some ([.int .plain], .call "set" fun _ => none)
        subs :=
          [("-once",
            some
              { key := "-once"
                function := some ([],
                  .outside "once" fun calls flags _ =>
                    (flags, if calls.any (·.label == "once") then some "again" else none)) })] })]

theorem executeAfter_append_once
    : (execute onceTable ["-set", "5", "x"] {}).ending = .finished ["x"]
      ∧ (Progress.start [] onceTable ["-set", "5", "x"] {}).NeedsNoDefaults
      ∧ (execute onceTable ["-set", "5", "x", "-once", "-once"] {}).ending
          = .failed (.failed "again")
      ∧ (execute onceTable ["-set", "5", "x", "-once", "-once"] {}).calls.map Call.label
          = ["set", "once", "once"]
      ∧ (execute (execute onceTable ["-set", "5", "x", "-once", "-once"] {}).table
            ["-once"] {}).ending
          = .failed (.unknown "-once") := by
  have succeeds : (execute onceTable ["-set", "5", "x"] {}).ending = .finished ["x"] := by
    decide +kernel
  have supplied : (Progress.start [] onceTable ["-set", "5", "x"] {}).NeedsNoDefaults := by
    decide +kernel
  obtain ⟨⟨calls, _, ending⟩, law⟩ :=
    executeAfter_append [] onceTable {} ["-set", "5", "x"] ["-once", "-once"] ["x"] succeeds
      supplied
  refine ⟨succeeds, supplied, ending.trans ?_, ?_, ?_⟩
  · decide +kernel
  · refine (congrArg (List.map Call.label) calls).trans ?_
    decide +kernel
  · refine (congrArg (fun table => (execute table ["-once"] {}).ending) (law _).2).trans ?_
    decide +kernel

end TapeMachine.CommandLine
