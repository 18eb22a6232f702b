import TapeMachine.Proofs.Machine.Transition

/-! What a step can do to the tape: nothing, or work at one cell, which the limit does not refuse
and which is the current one afterwards. Bounds on the two halves and on the address follow for
every step, whether it fails or not.
-/

namespace TapeMachine

/-- What a command or a step can do to a tape and an address: nothing, or work at the address that
is the current one from then on.
-/
inductive TapeEffect (tape : Tape) (address : Address) : Tape → Address → Prop
  | kept
    : TapeEffect tape address tape address
  | worked {next : Tape} {target : Address} (admitted : tape.refuses target = false)
    (work : tape.WorkedAt target next)
    : TapeEffect tape address next target

/-- Nothing changes the limit of a tape. -/
theorem TapeEffect.limit {tape next : Tape} {address target : Address}
    (effect : TapeEffect tape address next target)
    : next.limit = tape.limit := by
  cases effect with
  | kept => rfl
  | worked _ work => exact work.limit

/-- The fault comes from the tape or from a stream, not from a bracket. -/
def Fault.isOfStore : Fault → Bool
  | exhausted _ => true
  | stream _ => true
  | _ => false

namespace Store

/-- What can be said of a command from its result: it worked at the current cell or did nothing,
success leaves a cell that exists, and a fault comes from the tape or from a stream.
-/
structure Orderly (store : Store) (result : Option Fault × Store) : Prop where
  effect : TapeEffect store.tape store.address result.2.tape result.2.address
  holds : result.1 = none → result.2.HoldsCell
  fault : ∀ fault ∈ result.1, fault.isOfStore = true

/-- A fault that leaves tape and address alone. -/
theorem orderly_of_fault {store next : Store} {fault : Fault} (known : fault.isOfStore = true)
    (tape : next.tape = store.tape) (address : next.address = store.address)
    : store.Orderly (some fault, next) where
  effect := by rw [tape, address]; exact .kept
  holds := fun success => by simp at success
  fault := by
    intro other member
    obtain rfl := Option.some.inj member
    exact known

/-- Work at a cell that is not refused, with or without a failure of a stream. -/
theorem orderly_of_worked {store next : Store} (failure : Option String)
    (admitted : store.tape.refuses next.address = false)
    (work : store.tape.WorkedAt next.address next.tape)
    : store.Orderly (failure.map .stream, next) where
  effect := .worked admitted work
  holds := fun _ => work.holds
  fault := by
    intro fault member
    obtain ⟨reason, _, rfl⟩ := Option.map_eq_some_iff.mp member
    rfl

theorem orderly_goTo (store : Store) (address : Address)
    : store.Orderly (store.goTo address) := by
  unfold goTo Tape.resolve
  cases refused : store.tape.refuses address with
  | true => exact orderly_of_fault rfl rfl rfl
  | false => exact orderly_of_worked none refused .grown

theorem orderly_update (store : Store) (change : UInt8 → UInt8)
    : store.Orderly (store.update change) := by
  unfold update
  rw [Tape.get_eq]
  cases refused : store.tape.refuses store.address with
  | true => exact orderly_of_fault rfl rfl rfl
  | false => exact orderly_of_worked none refused (.changed _)

theorem orderly_emit (store : Store) : store.Orderly store.emit := by
  unfold emit
  rw [Tape.get_eq]
  cases refused : store.tape.refuses store.address with
  | true => exact orderly_of_fault rfl rfl rfl
  | false =>
      simp only [Bool.false_eq_true, if_false]
      cases store.output.write (store.tape.peek store.address) with
      | mk failure output =>
          cases failure with
          | none => exact orderly_of_worked _ refused .grown
          | some reason => exact orderly_of_worked (some reason) refused .grown

theorem orderly_fill (store : Store) (value? : Option UInt8)
    : store.Orderly (store.fill value?) := by
  unfold fill
  simp only [Tape.set_eq, Tape.resolve]
  cases refused : store.tape.refuses store.address with
  | true => cases value? <;> exact orderly_of_fault rfl rfl rfl
  | false =>
      cases value? with
      | none => exact orderly_of_worked none refused .grown
      | some value => exact orderly_of_worked none refused (.changed value)

theorem orderly_accept (store : Store) (policy : EndOfInput)
    : store.Orderly (store.accept policy) := by
  -- What was read changes neither tape nor address, so filling the store afterwards decides.
  have filled (input : Input) (value? : Option UInt8)
      : store.Orderly ({ store with input }.fill value?) := by
    obtain ⟨effect, holds, fault⟩ := orderly_fill { store with input } value?
    exact ⟨effect, holds, fault⟩
  unfold accept
  cases store.input.read with
  | mk reading input =>
      cases reading with
      | byte value => exact filled input (some value)
      | ended => exact filled input policy.stored?
      | failed reason => exact orderly_of_fault rfl rfl rfl

end Store

/-- Every command works on the tape at one cell or does nothing. -/
theorem StoreCommand.orderly_exec (command : StoreCommand) (policy : EndOfInput) (store : Store)
    : store.Orderly (command.exec policy store) := by
  cases command with
  | right => exact store.orderly_goTo _
  | left => exact store.orderly_goTo _
  | increment => exact store.orderly_update _
  | decrement => exact store.orderly_update _
  | output => exact store.orderly_emit
  | input => exact store.orderly_accept policy

/-- Every step works on the tape at one cell or does nothing, by the cases of a step. -/
theorem Machine.tapeEffect_step (m : Machine)
    : TapeEffect m.tape m.address m.step.2.tape m.step.2.address := by
  rcases stepped : m.step with ⟨outcome, next⟩
  cases transition_of_step stepped with
  | ended | misplaced | passed | interrupted | refused => exact .kept
  | scanned =>
      unfold countBracket
      split <;> exact .kept
  | @commanded _ command => exact (command.orderly_exec m.endOfInput m.store).effect
  | bypassed _ _ admitted | overflowed _ _ admitted | entered _ _ admitted
  | unmatched _ _ admitted | left _ _ admitted | repeated _ _ admitted =>
      exact .worked admitted .grown

-----------------------------------------------------------------------------------------
-- Bounds that work on a tape keeps
-----------------------------------------------------------------------------------------

/-- Both halves of a tape and the address stay below the limit, if there is one. -/
structure WithinLimit (tape : Tape) (address : Address) : Prop where
  size_le : 0 < tape.limit → ∀ half, ((tape.cells half).size : Int) ≤ tape.limit
  index_lt : 0 < tape.limit → (address.index : Int) < tape.limit

/-- The limit does not stand in the way of an address below it. -/
theorem WithinLimit.admitted {tape : Tape} {address : Address}
    (within : WithinLimit tape address)
    : tape.refuses address = false := by
  have index := within.index_lt
  simp only [Tape.refuses, Bool.and_eq_false_iff, decide_eq_false_iff_not]
  omega

/-- Work on a tape stays below the limit: a cell that is not refused exists or lies below it. -/
theorem WithinLimit.keep {tape next : Tape} {address target : Address}
    (within : WithinLimit tape address) (effect : TapeEffect tape address next target)
    : WithinLimit next target := by
  cases effect with
  | kept => exact within
  | worked admitted work =>
      have below (limited : 0 < tape.limit) : (target.index : Int) < tape.limit := by
        have size := within.size_le limited target.half
        simp only [Tape.refuses, Bool.and_eq_false_iff, decide_eq_false_iff_not] at admitted
        omega
      refine ⟨?_, ?_⟩
      · rw [work.limit]
        intro limited half
        have size := within.size_le limited half
        have index := below limited
        rw [work.size_cells]
        split <;> omega
      · rw [work.limit]
        exact below

/-- Both halves of a tape have at most as many cells as there are addresses for them. -/
def Addressable (tape : Tape) : Prop :=
  ∀ half, (tape.cells half).size ≤ 0x8000000000000000

/-- Work on a tape brings only cells into being that have an address. -/
theorem Addressable.keep {tape next : Tape} {address target : Address}
    (addressable : Addressable tape) (effect : TapeEffect tape address next target)
    : Addressable next := by
  cases effect with
  | kept => exact addressable
  | worked _ work =>
      intro half
      have size := addressable half
      have index := target.index_lt
      rw [work.size_cells]
      split <;> omega

end TapeMachine
