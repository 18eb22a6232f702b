import TapeMachine.Instruction

/-! Brackets of a program text: which loops are open before a position, and which bracket matches
which. Open loops are found by one scan from the left; matching is said by a grammar of balanced
stretches of text. The two agree: a loop end matches exactly the innermost loop that the scan
finds open before it.
-/

namespace TapeMachine.Program

/-- A loop starts at a position. -/
def StartsLoop (program : Program) (position : Nat) : Prop :=
  program.byte? position = some Instruction.loopStart.toByte

/-- A loop ends at a position. -/
def EndsLoop (program : Program) (position : Nat) : Prop :=
  program.byte? position = some Instruction.loopEnd.toByte

instance (program : Program) (position : Nat) : Decidable (program.StartsLoop position) :=
  inferInstanceAs (Decidable (_ = _))

instance (program : Program) (position : Nat) : Decidable (program.EndsLoop position) :=
  inferInstanceAs (Decidable (_ = _))

/-- A loop starts inside the program. -/
theorem StartsLoop.position_lt {program : Program} {position : Nat}
    (starts : program.StartsLoop position)
    : position < program.size := by
  unfold StartsLoop byte? at starts
  exact (Array.getElem?_eq_some_iff.mp starts).1

/-- No loop starts and ends at once, as the two brackets are different bytes. -/
theorem EndsLoop.not_starts {program : Program} {position : Nat}
    (ends : program.EndsLoop position)
    : ¬program.StartsLoop position := by
  intro starts
  have same := Option.some.inj (starts.symm.trans ends)
  revert same
  decide

-----------------------------------------------------------------------------------------
-- The scan for open loops
-----------------------------------------------------------------------------------------

/-- The positions of the loops that are open before a position, the innermost first. A loop start
opens a loop, and a loop end closes the innermost one; when none is open it closes nothing.
-/
def openLoops (program : Program) : Nat → List Nat
  | 0 => []
  | position + 1 =>
    if program.StartsLoop position then position :: program.openLoops position
    else if program.EndsLoop position then (program.openLoops position).tail
    else program.openLoops position

theorem openLoops_of_starts {program : Program} {position : Nat}
    (starts : program.StartsLoop position)
    : program.openLoops (position + 1) = position :: program.openLoops position := by
  rw [openLoops, if_pos starts]

theorem openLoops_of_ends {program : Program} {position : Nat}
    (ends : program.EndsLoop position)
    : program.openLoops (position + 1) = (program.openLoops position).tail := by
  rw [openLoops, if_neg ends.not_starts, if_pos ends]

theorem openLoops_of_other {program : Program} {position : Nat}
    (notStart : ¬program.StartsLoop position) (notEnd : ¬program.EndsLoop position)
    : program.openLoops (position + 1) = program.openLoops position := by
  rw [openLoops, if_neg notStart, if_neg notEnd]

/-- Before a position there are at most as many open loops as bytes. -/
theorem length_openLoops_le (program : Program) (position : Nat)
    : (program.openLoops position).length ≤ position := by
  induction position with
  | zero => simp [openLoops]
  | succ position ih =>
      rw [openLoops]
      split
      · simpa using ih
      · split
        · simp only [List.length_tail]
          omega
        · omega

/-- Below an open loop lie the loops that were open where it starts; by induction on the position,
as a scan only pushes and pops.
-/
theorem openLoops_of_suffix {program : Program} {position start : Nat} {rest : List Nat}
    (suffix : start :: rest <:+ program.openLoops position)
    : program.openLoops start = rest
      ∧ program.StartsLoop start
      ∧ start < position := by
  induction position with
  | zero => simp [openLoops] at suffix
  | succ position ih =>
      have earlier (deeper : start :: rest <:+ program.openLoops position)
          : program.openLoops start = rest
            ∧ program.StartsLoop start
            ∧ start < position + 1 := by
        obtain ⟨below, starts, less⟩ := ih deeper
        exact ⟨below, starts, by omega⟩
      rw [openLoops] at suffix
      split at suffix
      · rename_i starts
        rcases List.suffix_cons_iff.mp suffix with whole | deeper
        · obtain ⟨rfl, rfl⟩ := List.cons.inj whole
          exact ⟨rfl, starts, by omega⟩
        · exact earlier deeper
      · split at suffix
        · exact earlier (suffix.trans (List.tail_suffix _))
        · exact earlier suffix

/-- Where the innermost open loop starts, the others were open. -/
theorem openLoops_of_innermost {program : Program} {position start : Nat} {rest : List Nat}
    (innermost : program.openLoops position = start :: rest)
    : program.openLoops start = rest
      ∧ program.StartsLoop start
      ∧ start < position := by
  have whole : start :: rest <:+ program.openLoops position := ⟨[], innermost.symm⟩
  exact openLoops_of_suffix whole

/-- Open loops start at ever smaller positions from the inside to the outside. -/
theorem pairwise_openLoops (program : Program) (position : Nat)
    : (program.openLoops position).Pairwise (· > ·) := by
  induction position with
  | zero => simp [openLoops]
  | succ position ih =>
      rw [openLoops]
      split
      · refine List.pairwise_cons.mpr ⟨?_, ih⟩
        intro start member
        obtain ⟨front, back, split⟩ := List.append_of_mem member
        have suffix : start :: back <:+ program.openLoops position := ⟨front, split.symm⟩
        exact (openLoops_of_suffix suffix).2.2
      · split
        · exact ih.sublist (List.tail_sublist _)
        · exact ih

/-- Every open loop starts with a bracket. -/
theorem startsLoop_of_mem {program : Program} {position start : Nat}
    (member : start ∈ program.openLoops position)
    : program.StartsLoop start := by
  obtain ⟨front, back, split⟩ := List.append_of_mem member
  exact (openLoops_of_suffix ⟨front, split.symm⟩).2.1

-----------------------------------------------------------------------------------------
-- Matching brackets
-----------------------------------------------------------------------------------------

/-- The text from one position up to another is balanced: it is made of bytes that are no brackets
and of balanced text in brackets.
-/
inductive Balanced (program : Program) : Nat → Nat → Prop
  | empty (position : Nat)
    : Balanced program position position
  | pass {start stop} (before : Balanced program start stop)
    (notStart : ¬program.StartsLoop stop) (notEnd : ¬program.EndsLoop stop)
    : Balanced program start (stop + 1)
  | nest {start opening closing} (before : Balanced program start opening)
    (opens : program.StartsLoop opening) (inner : Balanced program (opening + 1) closing)
    (closes : program.EndsLoop closing)
    : Balanced program start (closing + 1)

/-- Two brackets match: the text between them is balanced. -/
structure Matches (program : Program) (opening closing : Nat) : Prop where
  opens : program.StartsLoop opening
  inner : program.Balanced (opening + 1) closing
  closes : program.EndsLoop closing

/-- Balanced text leaves the open loops as they are, by induction on its grammar. -/
theorem Balanced.openLoops_eq {program : Program} {start stop : Nat}
    (balanced : program.Balanced start stop)
    : program.openLoops stop = program.openLoops start := by
  induction balanced with
  | empty => rfl
  | pass _ notStart notEnd ih => rw [openLoops_of_other notStart notEnd, ih]
  | nest _ opens _ closes before inner =>
      rw [openLoops_of_ends closes, inner, openLoops_of_starts opens, List.tail_cons, before]

/-- The loop that an end matches is the innermost one that is open before it. -/
theorem Matches.openLoops_eq {program : Program} {opening closing : Nat}
    (matched : program.Matches opening closing)
    : program.openLoops closing = opening :: program.openLoops opening := by
  rw [matched.inner.openLoops_eq, openLoops_of_starts matched.opens]

/-- The text behind the start of the innermost open loop is balanced. The induction is on the
position where the scan stands; a loop end at it closes a loop that was open at its own start, and
what lies between is balanced by the same statement.
-/
theorem balanced_of_innermost {program : Program} {position start : Nat} {rest : List Nat}
    (innermost : program.openLoops position = start :: rest)
    : program.Balanced (start + 1) position := by
  induction position using Nat.strongRecOn generalizing start rest with
  | ind position ih =>
      cases position with
      | zero => simp [openLoops] at innermost
      | succ last =>
          by_cases starts : program.StartsLoop last
          · rw [openLoops_of_starts starts] at innermost
            obtain ⟨rfl, _⟩ := List.cons.inj innermost
            exact .empty _
          · by_cases ends : program.EndsLoop last
            · rw [openLoops_of_ends ends] at innermost
              obtain ⟨closed, stack⟩
                  : ∃ closed, program.openLoops last = closed :: start :: rest := by
                cases stack : program.openLoops last with
                | nil => simp [stack] at innermost
                | cons closed below => exact ⟨closed, by simpa [stack] using innermost⟩
              obtain ⟨below, opens, less⟩ := openLoops_of_innermost stack
              exact .nest (ih closed (by omega) below) opens (ih last (by omega) stack) ends
            · rw [openLoops_of_other starts ends] at innermost
              exact .pass (ih last (by omega) innermost) starts ends

/-- A loop end matches the innermost loop that is open before it. -/
theorem EndsLoop.matches {program : Program} {position start : Nat} {rest : List Nat}
    (ends : program.EndsLoop position)
    (innermost : program.openLoops position = start :: rest)
    : program.Matches start position :=
  ⟨(openLoops_of_innermost innermost).2.1, balanced_of_innermost innermost, ends⟩

/-- A loop ends at a position, and no loop start matches it. -/
structure UnmatchedEnd (program : Program) (position : Nat) : Prop where
  ends : program.EndsLoop position
  alone : ∀ opening, ¬program.Matches opening position

/-- A loop end is unmatched exactly if no loop is open before it. -/
theorem EndsLoop.unmatched_iff {program : Program} {position : Nat}
    (ends : program.EndsLoop position)
    : program.UnmatchedEnd position ↔ program.openLoops position = [] := by
  constructor
  · intro unmatched
    cases innermost : program.openLoops position with
    | nil => rfl
    | cons start rest => exact absurd (ends.matches innermost) (unmatched.alone start)
  · intro none
    refine ⟨ends, fun opening matched => ?_⟩
    have innermost := matched.openLoops_eq
    simp [none] at innermost

-----------------------------------------------------------------------------------------
-- Loops that stay open
-----------------------------------------------------------------------------------------

theorem Balanced.start_le {program : Program} {start stop : Nat}
    (balanced : program.Balanced start stop)
    : start ≤ stop := by
  induction balanced with
  | empty => exact Nat.le_refl _
  | pass _ _ _ ih => omega
  | nest _ _ _ _ before inner => omega

theorem Matches.opening_lt {program : Program} {opening closing : Nat}
    (matched : program.Matches opening closing)
    : opening < closing :=
  matched.inner.start_le

/-- A loop end takes the one loop that it matches off the open ones. -/
theorem EndsLoop.mem_openLoops_succ_iff {program : Program} {position start : Nat}
    (ends : program.EndsLoop position)
    : start ∈ program.openLoops (position + 1)
      ↔ start ∈ program.openLoops position ∧ ¬program.Matches start position := by
  rw [openLoops_of_ends ends]
  cases stack : program.openLoops position with
  | nil => simp
  | cons innermost outer =>
      have order := program.pairwise_openLoops position
      rw [stack, List.pairwise_cons] at order
      rw [List.tail_cons, List.mem_cons]
      constructor
      · intro member
        refine ⟨.inr member, fun matched => ?_⟩
        obtain ⟨rfl, _⟩ := List.cons.inj (stack.symm.trans matched.openLoops_eq)
        exact Nat.lt_irrefl _ (order.1 _ member)
      · rintro ⟨member, unclosed⟩
        refine member.resolve_left ?_
        rintro rfl
        exact unclosed (ends.matches stack)

/-- A byte opens the loop that starts there, if any, and closes the loop that it matches, if any. -/
theorem mem_openLoops_succ_iff {program : Program} {position start : Nat}
    : start ∈ program.openLoops (position + 1)
      ↔ (start = position ∧ program.StartsLoop position)
        ∨ (start ∈ program.openLoops position ∧ ¬program.Matches start position) := by
  by_cases ends : program.EndsLoop position
  · rw [ends.mem_openLoops_succ_iff]
    simp [ends.not_starts]
  · have unclosed : ¬program.Matches start position := fun matched => ends matched.closes
    by_cases starts : program.StartsLoop position
    · rw [openLoops_of_starts starts]
      simp [starts, unclosed]
    · rw [openLoops_of_other starts ends]
      simp [starts, unclosed]

/-- A loop is open before a position exactly if it starts before it and no loop end before it matches
the start; by induction on the position.
-/
theorem mem_openLoops_iff {program : Program} {position start : Nat}
    : start ∈ program.openLoops position
      ↔ program.StartsLoop start
        ∧ start < position
        ∧ ∀ closing < position, ¬program.Matches start closing := by
  induction position with
  | zero => simp [openLoops]
  | succ position ih =>
      rw [mem_openLoops_succ_iff, ih]
      constructor
      · rintro (⟨rfl, starts⟩ | ⟨⟨starts, before, alone⟩, unclosed⟩)
        · refine ⟨starts, Nat.lt_succ_self _, fun closing below matched => ?_⟩
          have after := matched.opening_lt
          omega
        · refine ⟨starts, by omega, fun closing below => ?_⟩
          rcases Nat.lt_succ_iff_lt_or_eq.mp below with earlier | rfl
          · exact alone closing earlier
          · exact unclosed
      · rintro ⟨starts, before, alone⟩
        rcases Nat.lt_succ_iff_lt_or_eq.mp before with earlier | rfl
        · exact .inr ⟨⟨starts, earlier, fun closing below => alone closing (by omega)⟩,
            alone position (Nat.lt_succ_self _)⟩
        · exact .inl ⟨rfl, starts⟩

/-- A loop start is matched by one loop end only: behind the first one the loop is not open. -/
theorem Matches.closing_unique {program : Program} {opening closing other : Nat}
    (matched : program.Matches opening closing) (also : program.Matches opening other)
    : other = closing := by
  -- An end that came later would find the loop open, and so no end before it.
  have first {early late : Nat} (earlier : program.Matches opening early)
      (later : program.Matches opening late)
      : late ≤ early := by
    have member : opening ∈ program.openLoops late := by
      rw [later.openLoops_eq]
      exact List.mem_cons_self
    apply Nat.le_of_not_lt
    intro before
    exact (mem_openLoops_iff.mp member).2.2 early before earlier
  exact Nat.le_antisymm (first matched also) (first also matched)

/-- A loop starts at a position, and no loop end matches it. -/
structure UnmatchedStart (program : Program) (position : Nat) : Prop where
  starts : program.StartsLoop position
  alone : ∀ closing, ¬program.Matches position closing

/-- The loops that are open at the end of a program are the ones that nothing closes. -/
theorem mem_openLoops_size_iff {program : Program} {start : Nat}
    : start ∈ program.openLoops program.size ↔ program.UnmatchedStart start := by
  rw [mem_openLoops_iff]
  constructor
  · rintro ⟨starts, _, alone⟩
    refine ⟨starts, fun closing matched => alone closing ?_ matched⟩
    exact (Array.getElem?_eq_some_iff.mp matched.closes).1
  · intro unmatched
    exact ⟨unmatched.starts, unmatched.starts.position_lt, fun closing _ => unmatched.alone closing⟩

-----------------------------------------------------------------------------------------
-- Nesting
-----------------------------------------------------------------------------------------

/-- The greatest number of loops that are open at once up to a position. -/
def depthTo (program : Program) : Nat → Nat
  | 0 => 0
  | position + 1 => max (program.depthTo position) (program.openLoops (position + 1)).length

/-- The nesting depth of a program. -/
def depth (program : Program) : Nat :=
  program.depthTo program.size

/-- Nowhere in a program are more loops open than its depth says. -/
theorem length_openLoops_le_depth (program : Program) {position : Nat}
    (within : position ≤ program.size)
    : (program.openLoops position).length ≤ program.depth := by
  unfold depth
  generalize program.size = size at within
  induction size with
  | zero =>
      obtain rfl : position = 0 := by omega
      simp [openLoops]
  | succ size ih =>
      rw [depthTo]
      rcases Nat.lt_or_eq_of_le within with less | same
      · have bound := ih (by omega)
        omega
      · subst same
        omega

end TapeMachine.Program
