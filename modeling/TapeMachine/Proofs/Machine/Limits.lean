import Mathlib.Data.Nat.Find
import TapeMachine.Proofs.Machine.History

/-! Greater limits do not change a run that met none. The two limits, on the loops that may be
entered inside each other and on the cells of each half, are looked at only where they can raise a
fault; a step that raises neither does the same under any limits that allow as much.
-/

namespace TapeMachine

/-- A limit on the cells of a half allows whatever another one allows. A limit that is not positive
allows everything.
-/
def AllowsAsMuch (limit greater : Int) : Prop :=
  greater ≤ 0 ∨ (0 < limit ∧ limit ≤ greater)

instance (limit greater : Int) : Decidable (AllowsAsMuch limit greater) :=
  inferInstanceAs (Decidable (_ ∨ _))

/-- The fault comes from one of the two limits. -/
def Fault.isOfLimit : Fault → Bool
  | loopOverflow => true
  | exhausted _ => true
  | _ => false

/-- The step was stopped by one of the two limits. -/
def Outcome.hitsLimit : Outcome → Bool
  | failed error => error.fault.isOfLimit
  | _ => false

-----------------------------------------------------------------------------------------
-- Tapes and stores under another limit
-----------------------------------------------------------------------------------------

namespace Tape

/-- A tape with another limit. -/
def withLimit (tape : Tape) (limit : Int) : Tape :=
  { tape with limit }

@[simp]
theorem peek_withLimit (tape : Tape) (limit : Int) (address : Address)
    : (tape.withLimit limit).peek address = tape.peek address := by
  cases half : address.half <;> simp [peek, withLimit, cells, half]

@[simp]
theorem extend_withLimit (tape : Tape) (limit : Int) (address : Address)
    : (tape.withLimit limit).extend address = (tape.extend address).withLimit limit := by
  simp only [extend, withLimit, mapCells]
  cases address.half <;> rfl

@[simp]
theorem put_withLimit (tape : Tape) (limit : Int) (address : Address) (value : UInt8)
    : (tape.withLimit limit).put address value = (tape.put address value).withLimit limit := by
  simp only [put, withLimit, mapCells]
  cases address.half <;> rfl

/-- A cell that a limit admits is admitted by a greater one. -/
theorem refuses_withLimit {tape : Tape} {address : Address} {limit : Int}
    (greater : AllowsAsMuch tape.limit limit) (admitted : tape.refuses address = false)
    : (tape.withLimit limit).refuses address = false := by
  have same : ((tape.withLimit limit).cells address.half).size
      = (tape.cells address.half).size := by
    cases address.half <;> rfl
  unfold AllowsAsMuch at greater
  simp only [refuses, same, Bool.and_eq_false_iff, decide_eq_false_iff_not] at admitted ⊢
  simp only [withLimit]
  omega

end Tape

namespace Store

/-- A store whose tape has another limit. -/
def withLimit (store : Store) (limit : Int) : Store :=
  { store with tape := store.tape.withLimit limit }

/-- Under another limit, a result has the same fault and the same store but for the limit. -/
def Carries (limit : Int) (result other : Option Fault × Store) : Prop :=
  other = (result.1, result.2.withLimit limit)

/-- No fault of a result comes from the limit. -/
def Unhindered (result : Option Fault × Store) : Prop :=
  ∀ fault ∈ result.1, fault.isOfLimit = false

variable {store : Store} {limit : Int}

theorem carries_goTo (greater : AllowsAsMuch store.tape.limit limit) (address : Address)
    (unhindered : Unhindered (store.goTo address))
    : Carries limit (store.goTo address) ((store.withLimit limit).goTo address) := by
  unfold goTo Tape.resolve at unhindered ⊢
  cases refused : store.tape.refuses address with
  | true => simp [Unhindered, refused, Fault.isOfLimit] at unhindered
  | false =>
      have admitted := Tape.refuses_withLimit greater refused
      simp [Carries, withLimit, admitted]

theorem carries_update (greater : AllowsAsMuch store.tape.limit limit)
    (change : UInt8 → UInt8) (unhindered : Unhindered (store.update change))
    : Carries limit (store.update change) ((store.withLimit limit).update change) := by
  unfold update at unhindered ⊢
  simp only [Tape.get_eq] at unhindered ⊢
  cases refused : store.tape.refuses store.address with
  | true => simp [Unhindered, refused, Fault.isOfLimit] at unhindered
  | false =>
      have admitted := Tape.refuses_withLimit greater refused
      simp [Carries, withLimit, admitted]

theorem carries_emit (greater : AllowsAsMuch store.tape.limit limit)
    (unhindered : Unhindered store.emit)
    : Carries limit store.emit (store.withLimit limit).emit := by
  unfold emit at unhindered ⊢
  simp only [Tape.get_eq] at unhindered ⊢
  cases refused : store.tape.refuses store.address with
  | true => simp [Unhindered, refused, Fault.isOfLimit] at unhindered
  | false =>
      have admitted := Tape.refuses_withLimit greater refused
      simp only [withLimit, admitted, Bool.false_eq_true, if_false,
        Tape.peek_withLimit, Tape.extend_withLimit]
      cases store.output.write (store.tape.peek store.address) with
      | mk failure output => cases failure <;> rfl

theorem carries_fill (greater : AllowsAsMuch store.tape.limit limit) (value? : Option UInt8)
    (unhindered : Unhindered (store.fill value?))
    : Carries limit (store.fill value?) ((store.withLimit limit).fill value?) := by
  unfold fill at unhindered ⊢
  simp only [Tape.set_eq, Tape.resolve] at unhindered ⊢
  cases refused : store.tape.refuses store.address with
  | true => cases value? <;> simp [Unhindered, refused, Fault.isOfLimit] at unhindered
  | false =>
      have admitted := Tape.refuses_withLimit greater refused
      cases value? <;> simp [Carries, withLimit, admitted]

theorem carries_accept (greater : AllowsAsMuch store.tape.limit limit) (policy : EndOfInput)
    (unhindered : Unhindered (store.accept policy))
    : Carries limit (store.accept policy) ((store.withLimit limit).accept policy) := by
  unfold accept at unhindered ⊢
  simp only [withLimit]
  cases taken : store.input.read with
  | mk reading input =>
      simp only [taken] at unhindered
      have read : AllowsAsMuch { store with input }.tape.limit limit := greater
      cases reading with
      | byte value => exact carries_fill read _ unhindered
      | ended => exact carries_fill read _ unhindered
      | failed reason => rfl

end Store

/-- A command that the limit does not stop does the same under a greater one. -/
theorem StoreCommand.carries_exec {store : Store} {limit : Int}
    (greater : AllowsAsMuch store.tape.limit limit) (policy : EndOfInput)
    (command : StoreCommand) (unhindered : Store.Unhindered (command.exec policy store))
    : Store.Carries limit (command.exec policy store)
        (command.exec policy (store.withLimit limit)) := by
  cases command with
  | right => exact Store.carries_goTo greater _ unhindered
  | left => exact Store.carries_goTo greater _ unhindered
  | increment => exact Store.carries_update greater _ unhindered
  | decrement => exact Store.carries_update greater _ unhindered
  | output => exact Store.carries_emit greater unhindered
  | input => exact Store.carries_accept greater policy unhindered

-----------------------------------------------------------------------------------------
-- Machines under other limits
-----------------------------------------------------------------------------------------

namespace Machine

/-- A machine with other limits, and with another journal. -/
def underLimits (m : Machine) (maxDepth maxCells : Int) (journal : Array Event) : Machine :=
  { m with maxDepth, tape := m.tape.withLimit maxCells, journal }

/-- Greater limits than those of a machine. -/
structure Allows (m : Machine) (maxDepth maxCells : Int) : Prop where
  deeper : m.maxDepth ≤ maxDepth
  wider : AllowsAsMuch m.tape.limit maxCells

/-- Greater limits stay greater, as no step changes the limits of a machine. -/
theorem Allows.step {m : Machine} {maxDepth maxCells : Int} (greater : m.Allows maxDepth maxCells)
    : m.step.2.Allows maxDepth maxCells := by
  have settings := m.sameSettings_step
  exact ⟨by rw [settings.maxDepth]; exact greater.deeper,
    by rw [settings.limit]; exact greater.wider⟩

section

variable {m : Machine} (maxDepth maxCells : Int) (journal : Array Event)

theorem Fetches.underLimits {position : Nat} {byte : UInt8} (fetched : m.Fetches position byte)
    : (m.underLimits maxDepth maxCells journal).Fetches position byte :=
  ⟨fetched.pc, fetched.byte⟩

theorem Dispatches.underLimits {position : Nat} {instruction : Instruction}
    (dispatched : m.Dispatches position instruction)
    : (m.underLimits maxDepth maxCells journal).Dispatches position instruction :=
  ⟨dispatched.fetched.underLimits maxDepth maxCells journal, dispatched.normal⟩

/-- The current cell comes into being as it does under other limits. -/
theorem reached_underLimits
    : (m.underLimits maxDepth maxCells journal).reached = m.reached.withLimit maxCells := by
  simp only [reached, underLimits, store, Store.withLimit, Tape.extend_withLimit]

/-- A step that no limit stops has the same outcome under greater limits and leaves the same
machine but for its limits and its journal; by the cases of a step.
-/
theorem step_underLimits (greater : m.Allows maxDepth maxCells)
    (unhindered : m.step.1.hitsLimit = false)
    : ∃ later, (m.underLimits maxDepth maxCells journal).step
        = (m.step.1, m.step.2.underLimits maxDepth maxCells later) := by
  have fetches {position : Nat} {byte : UInt8} (fetched : m.Fetches position byte) :=
    fetched.underLimits maxDepth maxCells journal
  have dispatches {position : Nat} {instruction : Instruction}
      (dispatched : m.Dispatches position instruction) :=
    dispatched.underLimits maxDepth maxCells journal
  have admits (admitted : m.tape.refuses m.address = false)
      : (m.underLimits maxDepth maxCells journal).tape.refuses m.address = false :=
    Tape.refuses_withLimit greater.wider admitted
  have cell : (m.underLimits maxDepth maxCells journal).tape.peek m.address
      = m.tape.peek m.address :=
    Tape.peek_withLimit _ _ _
  rcases stepped : m.step with ⟨outcome, next⟩
  rw [stepped] at unhindered
  cases transition_of_step stepped with
  | ended past => exact ⟨journal, step_of_done past⟩
  | misplaced before => exact ⟨journal, step_of_misplaced before⟩
  | scanned fetched skipping =>
      rw [(fetches fetched).step_of_skipping skipping]
      refine ⟨journal, ?_⟩
      unfold countBracket
      split <;> rfl
  | passed fetched normal comment silent =>
      exact ⟨journal, (fetches fetched).step_of_comment normal comment silent⟩
  | interrupted _ fetched normal breaks => exact (fetches fetched).step_of_break normal breaks
  | @commanded position command _ dispatched =>
      -- A fault of the command would be the outcome of the step, so it is not one of a limit.
      have free : Store.Unhindered (command.exec m.endOfInput m.store) := by
        intro fault raised
        rw [Option.mem_def] at raised
        simpa [raised, ending, Outcome.hitsLimit] using unhindered
      have carried : command.exec m.endOfInput (m.store.withLimit maxCells) = _ :=
        command.carries_exec greater.wider m.endOfInput free
      obtain ⟨later, same⟩ := (dispatches dispatched).step_of_command
      refine ⟨later, same.trans ?_⟩
      change (ending _ _ _ (command.exec m.endOfInput (m.store.withLimit maxCells)).1,
        advanced _ (command.exec m.endOfInput (m.store.withLimit maxCells)).2 later) = _
      rw [carried]
      rfl
  | refused | overflowed => simp [Outcome.hitsLimit, Fault.isOfLimit] at unhindered
  | bypassed _ dispatched admitted zero =>
      obtain ⟨later, same⟩ :=
        (dispatches dispatched).step_of_bypass (admits admitted) (cell.trans zero)
      exact ⟨later, by rw [same, reached_underLimits]; rfl⟩
  | entered _ dispatched admitted nonzero shallow =>
      obtain ⟨later, same⟩ := (dispatches dispatched).step_of_entry (admits admitted)
        (mt cell.symm.trans nonzero) (Int.lt_of_lt_of_le shallow greater.deeper)
      exact ⟨later, by rw [same, reached_underLimits]; rfl⟩
  | unmatched _ dispatched admitted empty =>
      obtain ⟨later, same⟩ := (dispatches dispatched).step_of_unmatched (admits admitted) empty
      exact ⟨later, by rw [same, reached_underLimits]; rfl⟩
  | left _ dispatched admitted zero inside =>
      obtain ⟨later, same⟩ :=
        (dispatches dispatched).step_of_leave (admits admitted) (cell.trans zero) inside
      exact ⟨later, by rw [same, reached_underLimits]; rfl⟩
  | repeated _ dispatched admitted nonzero inside =>
      obtain ⟨later, same⟩ := (dispatches dispatched).step_of_jump (admits admitted)
        (mt cell.symm.trans nonzero) inside
      exact ⟨later, by rw [same, reached_underLimits]; rfl⟩

end

-----------------------------------------------------------------------------------------
-- Runs under other limits
-----------------------------------------------------------------------------------------

/-- None of the first steps is stopped by a limit. -/
def MeetsNoLimit (m : Machine) (count : Nat) : Prop :=
  ∀ index < count, (m.outcome index).hitsLimit = false

instance (m : Machine) (count : Nat) : Decidable (m.MeetsNoLimit count) :=
  inferInstanceAs (Decidable (∀ index < count, _))

/-- Two machines took the same steps so far, and counted the same number of them. -/
structure InStep (m other : Machine) (count : Nat) : Prop where
  outcomes : ∀ index < count, other.outcome index = m.outcome index
  course : (m.after count).SameCourse (other.after count)
  steps : (other.after count).steps = (m.after count).steps

/-- Greater limits stay greater throughout a run. -/
theorem Allows.after {m : Machine} {maxDepth maxCells : Int}
    (greater : m.Allows maxDepth maxCells) (count : Nat)
    : (m.after count).Allows maxDepth maxCells := by
  induction count with
  | zero => exact greater
  | succ count ih => exact ih.step

/-- A run that met no limit is the same under greater limits, but for the limits and the journal;
by induction on the number of steps.
-/
theorem after_underLimits {m : Machine} {maxDepth maxCells : Int} (journal : Array Event)
    (greater : m.Allows maxDepth maxCells) {count : Nat} (free : m.MeetsNoLimit count)
    : (∃ later, (m.underLimits maxDepth maxCells journal).after count
        = (m.after count).underLimits maxDepth maxCells later)
      ∧ ∀ index < count,
          (m.underLimits maxDepth maxCells journal).outcome index = m.outcome index := by
  induction count with
  | zero => exact ⟨⟨journal, rfl⟩, fun index below => absurd below (Nat.not_lt_zero index)⟩
  | succ count ih =>
      obtain ⟨⟨earlier, state⟩, outcomes⟩ := ih fun index below => free index (by omega)
      obtain ⟨later, stepped⟩ := step_underLimits maxDepth maxCells earlier
        (greater.after count) (free count (by omega))
      rw [← state] at stepped
      refine ⟨⟨later, congrArg Prod.snd stepped⟩, fun index below => ?_⟩
      rcases Nat.lt_succ_iff_lt_or_eq.mp below with before | rfl
      · exact outcomes index before
      · simp only [outcome, stepped]

/-- Under greater limits the machines keep in step until a limit is met. -/
theorem inStep_underLimits {m : Machine} {maxDepth maxCells : Int} (journal : Array Event)
    (greater : m.Allows maxDepth maxCells) {count : Nat} (free : m.MeetsNoLimit count)
    : m.InStep (m.underLimits maxDepth maxCells journal) count := by
  obtain ⟨⟨later, state⟩, outcomes⟩ := after_underLimits journal greater free
  refine ⟨outcomes, ?_, ?_⟩
  · rw [state]
    exact ⟨rfl, rfl, rfl, rfl, rfl, rfl, rfl, rfl⟩
  · rw [state]
    rfl

end Machine

namespace Setup

/-- A setup with other limits. -/
def withLimits (setup : Setup) (maxDepth maxCells : Int) : Setup :=
  { setup with maxDepth, maxCells }

/-- Raising the limits never changes a run that did not meet them. Whatever the program, the input
and the settings: as long as the run under the smaller limits meets neither of them, the run under
the greater ones takes the same steps to the same state. So the one is a part of the other from
the start on, and if it is not all of it, then one of the two limits ended it.
-/
theorem inStep_withLimits (setup : Setup) (maxDepth maxCells : Int)
    (deeper : setup.maxDepth ≤ maxDepth) (wider : AllowsAsMuch setup.maxCells maxCells)
    : (∀ count,
          setup.machine.MeetsNoLimit count
          → setup.machine.InStep (setup.withLimits maxDepth maxCells).machine count)
      ∧ ((∀ count, setup.machine.InStep (setup.withLimits maxDepth maxCells).machine count)
          ∨ ∃ last,
              (setup.machine.outcome last).hitsLimit = true
              ∧ ∀ count ≤ last,
                  setup.machine.InStep (setup.withLimits maxDepth maxCells).machine
                    count) := by
  have together (count : Nat) (free : setup.machine.MeetsNoLimit count)
      : setup.machine.InStep (setup.withLimits maxDepth maxCells).machine count :=
    Machine.inStep_underLimits #[] ⟨deeper, wider⟩ free
  refine ⟨together, ?_⟩
  by_cases met : ∃ index, (setup.machine.outcome index).hitsLimit = true
  · -- The first step that meets a limit ends the common part.
    refine Or.inr ⟨Nat.find met, Nat.find_spec met, fun count before => ?_⟩
    refine together count fun index below => ?_
    exact Bool.eq_false_iff.mpr (Nat.find_min met (Nat.lt_of_lt_of_le below before))
  · refine Or.inl fun count => together count fun index _ => ?_
    exact Bool.eq_false_iff.mpr fun hit => met ⟨index, hit⟩

/-- A loop that goes one cell farther each time around, with room for two cells. -/
def strider : Setup :=
  { program := { code := #[0x2b, 0x5b, 0x3e, 0x2b, 0x5d] }
    maxDepth := 1
    maxCells := 2
    size_lt := by decide
    empty_of_absent := by decide }

theorem inStep_withLimits_strider
    : strider.machine.InStep (strider.withLimits 3 0).machine 6
      ∧ (strider.machine.outcome 6).hitsLimit = true
      ∧ (strider.withLimits 3 0).machine.outcome 6 = .next :=
  ⟨(inStep_withLimits strider 3 0 (by decide) (by decide)).1 6 (by decide),
    by decide, by decide⟩

end Setup

end TapeMachine
