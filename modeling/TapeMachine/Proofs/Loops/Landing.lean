import Mathlib.Data.Set.Card
import TapeMachine.Proofs.Loops.Skipping

/-! Where skipping a loop ends: right behind the loop end that matches its start, or at the end of
the program if there is none. On the way the loops that are counted are the ones that the scan of
the text finds open, down to the loop that is skipped, whether the machine entered the others or
not.
-/

namespace TapeMachine

namespace Program

variable {program : Program} {position opening : Nat} {inner : List Nat}

/-- Of the loops that are open, those from a certain one on lie above it on the stack. -/
theorem mem_of_le_opening
    (stack : program.openLoops position = inner ++ opening :: program.openLoops opening)
    {start : Nat}
    : start ∈ inner ++ [opening] ↔ opening ≤ start ∧ start ∈ program.openLoops position := by
  have order := program.pairwise_openLoops position
  rw [stack] at order ⊢
  have above := (List.pairwise_append.mp order).2.2
  have below := (List.pairwise_cons.mp (List.pairwise_append.mp order).2.1).1
  simp only [List.mem_append, List.mem_cons, List.not_mem_nil, or_false]
  constructor
  · rintro (member | rfl)
    · exact ⟨Nat.le_of_lt (above start member opening List.mem_cons_self), .inl member⟩
    · exact ⟨Nat.le_refl _, .inr (.inl rfl)⟩
  · rintro ⟨le, member | same | outer⟩
    · exact .inl member
    · exact .inr same
    · have less := below start outer
      omega

/-- The number of loops that start from a position on and that nothing closes. -/
noncomputable def leftOpenFrom (program : Program) (position : Nat) : Nat :=
  {start | position ≤ start ∧ program.UnmatchedStart start}.ncard

/-- At the end of the program, the loops from a certain open one on are those that nothing closes.
-/
theorem leftOpenFrom_eq
    (stack : program.openLoops program.size = inner ++ opening :: program.openLoops opening)
    : program.leftOpenFrom opening = inner.length + 1 := by
  have members : {start | opening ≤ start ∧ program.UnmatchedStart start}
      = ((inner ++ [opening]).toFinset : Set Nat) := by
    ext start
    rw [Set.mem_ofPred_eq, ← mem_openLoops_size_iff, ← mem_of_le_opening stack, Finset.mem_coe,
      List.mem_toFinset]
  have distinct : (inner ++ [opening]).Nodup := by
    have order := program.pairwise_openLoops program.size
    rw [stack, List.append_cons] at order
    exact (List.pairwise_append.mp order).1.imp fun greater => Nat.ne_of_gt greater
  rw [leftOpenFrom, members, Set.ncard_coe_finset, List.toFinset_card_of_nodup distinct]
  simp

end Program

namespace Machine

-----------------------------------------------------------------------------------------
-- Stretches in which a loop is skipped
-----------------------------------------------------------------------------------------

/-- A machine skips a loop for a number of steps, and stands at a position with a counter then. -/
structure SkipsTo (m : Machine) (count position : Nat) (skip : Int64) : Prop where
  after : m.after count = { m with pc := position, skip }
  outcomes : ∀ index < count, m.outcome index = .next
  skipping : ∀ index < count, 0 < (m.after index).skip

theorem SkipsTo.refl {m : Machine} {position : Nat} (pc : m.pc = position)
    : m.SkipsTo 0 position m.skip where
  after := by rw [← pc]; rfl
  outcomes index below := absurd below (Nat.not_lt_zero index)
  skipping index below := absurd below (Nat.not_lt_zero index)

/-- One step more in front. -/
theorem SkipsTo.cons {m : Machine} {pc : Int} {counted skip : Int64} {count position : Nat}
    (skipping : 0 < m.skip) (stepped : m.step = (.next, { m with pc, skip := counted }))
    (rest : { m with pc, skip := counted }.SkipsTo count position skip)
    : m.SkipsTo (count + 1) position skip where
  after := by rw [after_succ_eq, stepped, rest.after]
  outcomes index below := by
    cases index with
    | zero => simp only [outcome, Machine.after, stepped]
    | succ index =>
        rw [outcome_succ_eq, stepped]
        exact rest.outcomes index (by omega)
  skipping index below := by
    cases index with
    | zero => exact skipping
    | succ index =>
        rw [after_succ_eq, stepped]
        exact rest.skipping index (by omega)

/-- A machine that skips a loop stands at a position and counts the loops that are open there, down
to the loop that it skips.
-/
structure Scans (m : Machine) (opening position : Nat) (inner : List Nat) : Prop where
  pc : m.pc = position
  within : position ≤ m.program.size
  stack : m.program.openLoops position = inner ++ opening :: m.program.openLoops opening
  count : m.skip.toInt = inner.length + 1

namespace Scans

variable {m : Machine} {opening position : Nat} {inner : List Nat}

theorem skipping (scans : m.Scans opening position inner) : 0 < m.skip := by
  rw [Int64.lt_iff_toInt_lt, Int64.toInt_zero, scans.count]
  omega

/-- There is room in the counter for one loop more. -/
theorem skip_le (scans : m.Scans opening position inner) : m.skip.toInt ≤ position := by
  have bound := m.program.length_openLoops_le position
  rw [scans.stack, List.length_append, List.length_cons] at bound
  have count := scans.count
  omega

/-- A byte is counted. A loop start puts a loop on top of those that are counted, and a loop end
takes the topmost one off; when that is the loop being skipped, the end matches it.
-/
theorem step (scans : m.Scans opening position inner) (inside : position < m.program.size)
    (small : m.program.size < 0x8000000000000000)
    : ∃ skip,
        m.step = (.next, { m with pc := (position + 1 : Nat), skip })
        ∧ ((m.program.Matches opening position ∧ skip = 0)
          ∨ ∃ inner, Scans { m with pc := (position + 1 : Nat), skip } opening (position + 1) inner)
    := by
  have present : m.program.byte? position = some m.program.code[position] :=
    Array.getElem?_eq_getElem inside
  generalize m.program.code[position] = byte at present
  have fetched : m.Fetches position byte := ⟨scans.pc, present⟩
  have bounds := Instruction.nesting_bounds byte
  have count := scans.count
  have room := scans.skip_le
  have positive : 0 < m.skip.toInt := by omega
  have counted := toInt_counted positive (by omega : _ + Instruction.nesting byte < _)
  have stepped := fetched.step_of_count scans.skipping
  rw [show m.pc + 1 = ((position + 1 : Nat) : Int) by rw [scans.pc]; rfl] at stepped
  refine ⟨_, stepped, ?_⟩
  rcases Instruction.nesting_cases byte with ⟨rfl, adds⟩ | ⟨rfl, adds⟩ | ⟨notStart, notEnd, adds⟩
  · refine .inr ⟨position :: inner, rfl, inside, ?_, ?_⟩
    · change m.program.openLoops (position + 1) = _
      rw [Program.openLoops_of_starts present, scans.stack, List.cons_append]
    · rw [counted, List.length_cons]
      omega
  · have stack := scans.stack
    cases inner with
    | nil =>
        refine .inl ⟨Program.EndsLoop.matches present stack, ?_⟩
        apply Int64.toInt.inj
        rw [counted, Int64.toInt_zero, count, adds]
        rfl
    | cons innermost outer =>
        refine .inr ⟨outer, rfl, inside, ?_, ?_⟩
        · change m.program.openLoops (position + 1) = _
          rw [Program.openLoops_of_ends present, stack, List.cons_append, List.tail_cons]
        · rw [counted, count, adds, List.length_cons]
          omega
  · obtain ⟨starts, ends⟩ := fetched.not_bracket notStart notEnd
    refine .inr ⟨inner, rfl, inside, ?_, ?_⟩
    · change m.program.openLoops (position + 1) = _
      rw [Program.openLoops_of_other starts ends, scans.stack]
    · rw [counted, count, adds]
      omega

end Scans

/-- What skipping a loop comes to from a position: it lands behind the matching loop end after as
many steps as it passes bytes, or at the end of the program.
-/
inductive Lands (m : Machine) (opening position : Nat) : Prop
  | behind {count closing : Nat} (matched : m.program.Matches opening closing)
    (skips : m.SkipsTo count (closing + 1) 0) (bytes : position + count = closing + 1)
  | atEnd {count : Nat} {skip : Int64} {inner : List Nat}
    (stack : m.program.openLoops m.program.size
      = inner ++ opening :: m.program.openLoops opening)
    (left : skip.toInt = inner.length + 1)
    (skips : m.SkipsTo count m.program.size skip) (bytes : position + count = m.program.size)

/-- One byte more in front. -/
theorem Lands.cons {m : Machine} {opening position : Nat} {counted : Int64}
    (skipping : 0 < m.skip)
    (stepped : m.step = (.next, { m with pc := (position + 1 : Nat), skip := counted }))
    (rest : Lands { m with pc := (position + 1 : Nat), skip := counted } opening (position + 1))
    : m.Lands opening position := by
  cases rest with
  | behind matched skips bytes =>
      exact .behind matched (skips.cons skipping stepped) (by omega)
  | @atEnd count _ _ stack left skips bytes =>
      have passed : position + 1 + count = m.program.size := bytes
      exact .atEnd stack left (skips.cons skipping stepped) (by omega)

/-- Skipping a loop lands, by induction on the bytes that are left. -/
theorem Scans.lands {m : Machine} {opening position : Nat} {inner : List Nat}
    (scans : m.Scans opening position inner) (small : m.program.size < 0x8000000000000000)
    : m.Lands opening position := by
  have within := scans.within
  induction left : m.program.size - position generalizing m position inner with
  | zero =>
      obtain rfl : position = m.program.size := by omega
      exact .atEnd scans.stack scans.count (.refl scans.pc) rfl
  | succ rest ih =>
      have inside : position < m.program.size := by omega
      have skipping := scans.skipping
      obtain ⟨skip, stepped, ⟨matched, rfl⟩ | ⟨inner, onward⟩⟩ := scans.step inside small
      · exact .behind matched (.cons skipping stepped (.refl rfl)) rfl
      · exact .cons skipping stepped
          (ih onward small onward.within (by change m.program.size - (position + 1) = rest; omega))

-----------------------------------------------------------------------------------------
-- From the loop start on
-----------------------------------------------------------------------------------------

/-- A run passes over text: no step of it tells anything, and apart from where it stands all that
changes is the number of steps, by one.
-/
structure PassesOver (m : Machine) (count : Nat) : Prop where
  outcomes : ∀ index < count, m.outcome index = .next
  address : (m.after count).address = m.address
  loops : (m.after count).loops = m.loops
  input : (m.after count).input = m.input
  output : (m.after count).output = m.output
  peek : (m.after count).tape.peek = m.tape.peek
  steps : (m.after count).steps = m.steps + 1

/-- The step that meets the loop start is the one that is counted. -/
theorem SkipsTo.passesOver {m : Machine} {journal : Array Event} {count position : Nat}
    {skip : Int64}
    (stepped : m.step = (.next, { m.advanced m.reached journal with skip := 1 }))
    (skips : { m.advanced m.reached journal with skip := 1 }.SkipsTo count position skip)
    : m.PassesOver (count + 1)
      ∧ (m.after (count + 1)).pc = position
      ∧ (m.after (count + 1)).skip = skip := by
  have last : m.after (count + 1)
      = { m.advanced m.reached journal with pc := position, skip } := by
    rw [after_succ_eq, stepped, skips.after]
  refine ⟨⟨fun index below => ?_, ?_, ?_, ?_, ?_, ?_, ?_⟩, ?_, ?_⟩
  · cases index with
    | zero => simp only [outcome, Machine.after, stepped]
    | succ index =>
        rw [outcome_succ_eq, stepped]
        exact skips.outcomes index (by omega)
  · rw [last]; rfl
  · rw [last]; rfl
  · rw [last]; rfl
  · rw [last]; rfl
  · rw [last]
    exact funext (m.tape.peek_extend m.address)
  · rw [last]; rfl
  · rw [last]
  · rw [last]

/-- A loop start on a zero cell begins the scan with the one loop that it starts. -/
theorem Dispatches.scans {m : Machine} {opening : Nat}
    (dispatched : m.Dispatches opening .loopStart) (journal : Array Event)
    : { m.advanced m.reached journal with skip := 1 }.Scans opening (opening + 1) [] where
  pc := by
    change m.pc + 1 = _
    rw [dispatched.fetched.pc]
    rfl
  within := dispatched.fetched.position_lt
  stack := Program.openLoops_of_starts dispatched.fetched.byte
  count := rfl

/-- Skipping a loop from its start comes to rest right behind the loop end that matches it, with
nothing left to be closed; or, if none does, at the end of the program, with all loops left to be
closed that are opened from there on and never closed. It takes at most as many steps as bytes are
left.
-/
structure SkipsLoop (m : Machine) (opening : Nat) : Prop where
  matched
    : ∀ closing,
        m.program.Matches opening closing
        → ∃ count ≤ m.program.size - opening,
            m.PassesOver count
            ∧ (m.after count).pc = (closing + 1 : Nat)
            ∧ (m.after count).skip = 0
  unmatched
    : (∀ closing, ¬m.program.Matches opening closing)
      → ∃ count ≤ m.program.size - opening,
          m.PassesOver count
          ∧ (m.after count).pc = m.program.size
          ∧ (m.after count).skip.toInt = m.program.leftOpenFrom opening

/-- A loop that starts on a zero cell is skipped to its end: for every program, balanced or not, and
every state in which such a loop start is executed on a cell that is not refused.
-/
theorem skipsLoop_of_dispatches {m : Machine} {opening : Nat}
    (dispatched : m.Dispatches opening .loopStart) (zero : m.tape.peek m.address = 0)
    (admitted : m.tape.refuses m.address = false)
    (small : m.program.size < 0x8000000000000000)
    : m.SkipsLoop opening := by
  obtain ⟨journal, stepped⟩ := dispatched.step_of_bypass admitted zero
  cases (dispatched.scans journal).lands small with
  | @behind count closing matched skips bytes =>
      obtain ⟨passes, pc, skip⟩ := skips.passesOver stepped
      have within := (Array.getElem?_eq_some_iff.mp matched.closes).1
      change closing < m.program.size at within
      refine ⟨fun other also => ?_, fun alone => absurd matched (alone closing)⟩
      obtain rfl := matched.closing_unique also
      exact ⟨count + 1, by omega, passes, pc, skip⟩
  | @atEnd count skip inner stack left skips bytes =>
      obtain ⟨passes, pc, last⟩ := skips.passesOver stepped
      change opening + 1 + count = m.program.size at bytes
      change m.program.openLoops m.program.size
        = inner ++ opening :: m.program.openLoops opening at stack
      refine ⟨fun closing matched => ?_, fun alone => ?_⟩
      · have member : opening ∈ m.program.openLoops m.program.size := by
          rw [stack]
          exact List.mem_append_right inner List.mem_cons_self
        exact absurd matched ((Program.mem_openLoops_size_iff.mp member).alone closing)
      · refine ⟨count + 1, by omega, passes, pc, ?_⟩
        rw [last, left, Program.leftOpenFrom_eq stack]
        rfl

/-- A loop with another one and a break mark inside, and behind it two loops that are never closed.
-/
def unevenLoops (pc : Int) : Machine :=
  { program := { code := #[0x5b, 0x5b, 0x5d, 0x23, 0x5d, 0x5b, 0x5b] }, pc, breakpoints := true }

theorem matches_unevenLoops : (unevenLoops 0).program.Matches 0 4 :=
  ⟨by decide, .pass (.nest (.empty 1) (by decide) (.empty 2) (by decide)) (by decide) (by decide),
    by decide⟩

theorem skipsLoop_of_dispatches_uneven
    : (unevenLoops 0).Dispatches 0 .loopStart
      ∧ (unevenLoops 0).SkipsLoop 0
      ∧ (∃ count ≤ 7, ((unevenLoops 0).after count).pc = 5 ∧ ((unevenLoops 0).after count).skip = 0)
      ∧ (unevenLoops 5).Dispatches 5 .loopStart
      ∧ (unevenLoops 5).SkipsLoop 5
      ∧ (unevenLoops 5).program.UnmatchedStart 5
      ∧ ((unevenLoops 5).after 2).skip = 2 := by
  have first : (unevenLoops 0).Dispatches 0 .loopStart := ⟨⟨rfl, by decide⟩, by decide⟩
  have second : (unevenLoops 5).Dispatches 5 .loopStart := ⟨⟨rfl, by decide⟩, by decide⟩
  have closed := skipsLoop_of_dispatches first (by decide) (by decide) (by decide)
  have open_ := skipsLoop_of_dispatches second (by decide) (by decide) (by decide)
  obtain ⟨count, few, _, pc, skip⟩ := closed.matched 4 matches_unevenLoops
  exact ⟨first, closed, ⟨count, few, pc, skip⟩, second, open_,
    Program.mem_openLoops_size_iff.mp (by decide), by decide⟩

end Machine

end TapeMachine
