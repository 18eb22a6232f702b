import Mathlib.Logic.Function.Basic
import TapeMachine.Proofs.Tape.Cells

/-! A tape is a total map of bytes whose halves happen to be stored cell by cell.
The meaning of a tape is its map together with how far each half reaches and how far it may reach.
On that meaning every call has a plain description, and the tape gives the same answers and keeps
the same meaning through any sequence of calls.
-/

namespace TapeMachine

-----------------------------------------------------------------------------------------
-- Addresses
-----------------------------------------------------------------------------------------

/-- The negative half covers exactly the addresses below zero. -/
theorem Address.half_eq (address : Address)
    : address.half = if address.toInt < 0 then .negative else .positive := by
  unfold half
  simp only [Int64.lt_iff_toInt_lt, Int64.toInt_zero]

/-- An address is determined by its half and its place there, the least address included. -/
theorem Address.eq_of_half_eq_of_index_eq {address other : Address}
    (half : address.half = other.half) (index : address.index = other.index)
    : address = other := by
  have place := address.index_eq
  have otherPlace := other.index_eq
  rw [index] at place
  simp only [half_eq] at half
  simp only [Int64.lt_iff_toInt_lt, Int64.toInt_zero] at place otherPlace
  apply Int64.toInt_inj.mp
  by_cases left : address.toInt < 0 <;> by_cases otherLeft : other.toInt < 0
  · rw [if_pos left] at place
    rw [if_pos otherLeft] at otherPlace
    omega
  · simp [left, otherLeft] at half
  · simp [left, otherLeft] at half
  · rw [if_neg left] at place
    rw [if_neg otherLeft] at otherPlace
    omega

namespace Tape

/-- Replacing the byte of a cell that exists changes the map there and nowhere else. -/
theorem peek_put {tape : Tape} {address : Address} (held : tape.Holds address) (value : UInt8)
    : (tape.put address value).peek = Function.update tape.peek address value := by
  funext other
  by_cases same : other = address
  · subst same
    unfold Holds at held
    simp [peek, put, cells_mapCells_same, held]
  · rw [Function.update_of_ne same]
    by_cases half : other.half = address.half
    · have place : address.index ≠ other.index := fun index =>
        same (Address.eq_of_half_eq_of_index_eq half index.symm)
      simp [peek, put, half, cells_mapCells_same, Array.getElem?_setIfInBounds_ne place]
    · simp only [peek, put, cells_mapCells_other _ half]

end Tape

-----------------------------------------------------------------------------------------
-- Calls and their answers
-----------------------------------------------------------------------------------------

/-- What can be asked of a tape. -/
inductive TapeCall where
  /-- Bring a cell into being. -/
  | resolve (address : Address)
  /-- Give the byte of a cell, which exists afterwards. -/
  | get (address : Address)
  /-- Write a byte to a cell, which exists afterwards. -/
  | set (address : Address) (value : UInt8)
  /-- Give the byte at an address. -/
  | peek (address : Address)
  /-- Copy the bytes from one address up to another. -/
  | range (start stop : Address)
  /-- Give the lengths of the two halves. -/
  | size
  deriving DecidableEq

/-- The address of the cell that a call needs; calls that only look need none. -/
def TapeCall.needs? : TapeCall → Option Address
  | resolve address => some address
  | get address => some address
  | set address _ => some address
  | _ => none

/-- What a tape says to a call. -/
inductive TapeAnswer where
  | ready
  | byte (value : UInt8)
  | bytes (content : Option (Array UInt8))
  | sizes (positive negative : Nat)
  | refused (cause : Exhausted)
  deriving DecidableEq

/-- The call failed. -/
def TapeAnswer.isRefusal : TapeAnswer → Bool
  | refused _ => true
  | _ => false

namespace Tape

/-- The answer to a call, and the tape after it. -/
def call (tape : Tape) : TapeCall → TapeAnswer × Tape
  | .resolve address =>
    match tape.resolve address with
    | .error cause => (.refused cause, tape)
    | .ok next => (.ready, next)
  | .get address =>
    match tape.get address with
    | .error cause => (.refused cause, tape)
    | .ok (value, next) => (.byte value, next)
  | .set address value =>
    match tape.set address value with
    | .error cause => (.refused cause, tape)
    | .ok next => (.ready, next)
  | .peek address => (.byte (tape.peek address), tape)
  | .range start stop => (.bytes (tape.range? start stop), tape)
  | .size => (.sizes tape.size.1 tape.size.2, tape)

/-- The answers to a sequence of calls, and the tape after it. -/
def run (tape : Tape) : List TapeCall → List TapeAnswer × Tape
  | [] => ([], tape)
  | first :: rest =>
    let (answers, last) := (tape.call first).2.run rest
    ((tape.call first).1 :: answers, last)

/-- A call that needs a refused cell fails and leaves the tape as it was. -/
theorem call_of_refused {tape : Tape} {call : TapeCall} {address : Address}
    (needs : call.needs? = some address) (refused : tape.refuses address = true)
    : tape.call call = (.refused ⟨address, tape.limit⟩, tape) := by
  cases call with
  | resolve | get | set =>
      obtain rfl := Option.some.inj needs
      simp only [Tape.call, resolve, get_eq, set_eq, refused, if_true]
  | peek | range | size => simp [TapeCall.needs?] at needs

/-- A call that needs a cell which is not refused succeeds and works there. -/
theorem call_of_admitted {tape : Tape} {call : TapeCall} {address : Address}
    (needs : call.needs? = some address) (admitted : tape.refuses address = false)
    : (tape.call call).1.isRefusal = false ∧ tape.WorkedAt address (tape.call call).2 := by
  cases call with
  | resolve | get =>
      obtain rfl := Option.some.inj needs
      simp only [Tape.call, resolve, get_eq, admitted, Bool.false_eq_true, if_false]
      exact ⟨rfl, .grown⟩
  | set _ value =>
      obtain rfl := Option.some.inj needs
      simp only [Tape.call, set_eq, admitted, Bool.false_eq_true, if_false]
      exact ⟨rfl, .changed value⟩
  | peek | range | size => simp [TapeCall.needs?] at needs

end Tape

-----------------------------------------------------------------------------------------
-- The same calls on a total map
-----------------------------------------------------------------------------------------

/-- A byte for every address, how many cells of each half exist, and how many may exist. A limit
that is not positive is no limit.
-/
structure Memory where
  byte : Address → UInt8
  extent : Half → Nat
  limit : Int

namespace Memory

/-- All bytes are zero, and no cell exists. -/
def blank (limit : Int) : Memory :=
  { byte := fun _ => 0, extent := fun _ => 0, limit }

/-- The cell at an address does not exist and lies beyond the limit. -/
def Refuses (memory : Memory) (address : Address) : Prop :=
  0 < memory.limit
  ∧ memory.limit ≤ address.index
  ∧ memory.extent address.half ≤ address.index

instance (memory : Memory) (address : Address) : Decidable (memory.Refuses address) :=
  inferInstanceAs (Decidable (_ ∧ _))

/-- The half of an address reaches at least up to it, and the other one as far as before. -/
def reach (memory : Memory) (address : Address) : Memory :=
  { memory with
    extent := Function.update memory.extent address.half
      (max (memory.extent address.half) (address.index + 1)) }

/-- The byte at an address becomes another one. -/
def write (memory : Memory) (address : Address) (value : UInt8) : Memory :=
  { memory with byte := Function.update memory.byte address value }

/-- The bytes from one address up to another, unless there are too many of them. -/
def range? (memory : Memory) (start stop : Address) : Option (Array UInt8) :=
  if Tape.rangeTooWide start stop then none
  else
    some ((Array.range (stop.toInt - start.toInt).toNat).map fun offset =>
      memory.byte (start + Int64.ofNat offset))

/-- Gives an answer with a memory in which a cell exists, unless the cell is refused. -/
def granting (memory : Memory) (address : Address) (answer : TapeAnswer)
    (andThen : Memory → Memory) : TapeAnswer × Memory :=
  if memory.Refuses address then (.refused ⟨address, memory.limit⟩, memory)
  else (answer, andThen (memory.reach address))

/-- The answer to a call, and the memory after it. -/
def call (memory : Memory) : TapeCall → TapeAnswer × Memory
  | .resolve address => memory.granting address .ready id
  | .get address => memory.granting address (.byte (memory.byte address)) id
  | .set address value => memory.granting address .ready (·.write address value)
  | .peek address => (.byte (memory.byte address), memory)
  | .range start stop => (.bytes (memory.range? start stop), memory)
  | .size => (.sizes (memory.extent .positive) (memory.extent .negative), memory)

/-- The answers to a sequence of calls, and the memory after it. -/
def run (memory : Memory) : List TapeCall → List TapeAnswer × Memory
  | [] => ([], memory)
  | first :: rest =>
    let (answers, last) := (memory.call first).2.run rest
    ((memory.call first).1 :: answers, last)

end Memory

namespace Tape

/-- The meaning of a tape: what it reads as, and how far its halves reach. -/
def meaning (tape : Tape) : Memory where
  byte := tape.peek
  extent := fun half => (tape.cells half).size
  limit := tape.limit

/-- A fresh tape reads as zero everywhere. -/
theorem meaning_fresh (limit : Int) : ({ limit } : Tape).meaning = Memory.blank limit := by
  have zero : ({ limit } : Tape).peek = fun _ => 0 := by
    funext address
    cases half : address.half <;> simp [peek, cells, half]
  have empty (half : Half) : (({ limit } : Tape).cells half).size = 0 := by
    cases half <;> rfl
  simp only [meaning, Memory.blank, zero, empty]

theorem refuses_iff (tape : Tape) (address : Address)
    : tape.refuses address = true ↔ tape.meaning.Refuses address := by
  simp only [refuses, Memory.Refuses, meaning, Bool.and_eq_true, decide_eq_true_eq, and_assoc]

/-- Growth changes how far a half reaches and nothing else that a tape means. -/
theorem meaning_extend (tape : Tape) (address : Address)
    : (tape.extend address).meaning = tape.meaning.reach address := by
  have bytes : (tape.extend address).peek = tape.peek := funext (tape.peek_extend address)
  have extents : (fun half => ((tape.extend address).cells half).size)
      = Function.update (fun half => (tape.cells half).size) address.half
          (max (tape.cells address.half).size (address.index + 1)) := by
    funext half
    rw [size_cells_extend, Function.update_apply]
    split
    · rename_i same
      rw [same]
    · rfl
  simp only [meaning, Memory.reach, bytes, extents, limit_extend]

/-- Replacing the byte of a cell that exists changes one byte of the meaning. -/
theorem meaning_put {tape : Tape} {address : Address} (held : tape.Holds address)
    (value : UInt8)
    : (tape.put address value).meaning = tape.meaning.write address value := by
  have extents : (fun half => ((tape.put address value).cells half).size)
      = fun half => (tape.cells half).size :=
    funext (tape.size_cells_put address value)
  simp only [meaning, Memory.write, peek_put held, extents, limit_put]

/-- One call is answered as the meaning says, and means afterwards what it says; by the kinds of
calls, and by whether the cell that is needed is refused.
-/
theorem meaning_call (tape : Tape) (call : TapeCall)
    : (tape.call call).1 = (tape.meaning.call call).1
      ∧ (tape.call call).2.meaning = (tape.meaning.call call).2 := by
  cases call with
  | resolve address =>
      simp only [Tape.call, Memory.call, Memory.granting, resolve, ← refuses_iff]
      cases tape.refuses address with
      | true => exact ⟨rfl, rfl⟩
      | false => exact ⟨rfl, tape.meaning_extend address⟩
  | get address =>
      simp only [Tape.call, Memory.call, Memory.granting, get_eq, ← refuses_iff]
      cases tape.refuses address with
      | true => exact ⟨rfl, rfl⟩
      | false => exact ⟨rfl, tape.meaning_extend address⟩
  | set address value =>
      simp only [Tape.call, Memory.call, Memory.granting, set_eq, ← refuses_iff]
      cases tape.refuses address with
      | true => exact ⟨rfl, rfl⟩
      | false =>
          refine ⟨rfl, ?_⟩
          rw [← meaning_extend]
          exact meaning_put (tape.holds_extend address) value
  | peek address => exact ⟨rfl, rfl⟩
  | range start stop => exact ⟨rfl, rfl⟩
  | size => exact ⟨rfl, rfl⟩

/-- A sequence of calls is answered as the meaning says, call by call. -/
theorem meaning_run (tape : Tape) (calls : List TapeCall)
    : (tape.run calls).1 = (tape.meaning.run calls).1
      ∧ (tape.run calls).2.meaning = (tape.meaning.run calls).2 := by
  induction calls generalizing tape with
  | nil => exact ⟨rfl, rfl⟩
  | cons first rest ih =>
      obtain ⟨answer, after⟩ := tape.meaning_call first
      obtain ⟨answers, last⟩ := ih (tape.call first).2
      rw [after] at answers last
      exact ⟨List.cons_eq_cons.mpr ⟨answer, answers⟩, last⟩

-----------------------------------------------------------------------------------------
-- What each call does to the map and to the halves
-----------------------------------------------------------------------------------------

/-- What the calls on a tape do to the map it reads as and to its two halves. -/
structure CallLaws (tape : Tape) : Prop where
  /-- A call that needs a cell fails exactly if there is a limit, the cell lies beyond it, and the
  cell does not exist.
  -/
  refused_iff
    : ∀ call address,
        call.needs? = some address
        → ((tape.call call).1.isRefusal = true
            ↔ 0 < tape.limit
              ∧ tape.limit ≤ address.index
              ∧ (tape.cells address.half).size ≤ address.index)
  /-- A call that fails leaves both halves exactly as they were. -/
  kept : ∀ call, (tape.call call).1.isRefusal = true → (tape.call call).2 = tape
  /-- Bringing a cell into being leaves the map as it was. -/
  resolved
    : ∀ address,
        (tape.call (.resolve address)).1.isRefusal = false
        → (tape.call (.resolve address)).2.peek = tape.peek
  /-- Reading a cell gives the value of the map there and leaves the map as it was. -/
  got
    : ∀ address,
        (tape.call (.get address)).1.isRefusal = false
        → (tape.call (.get address)).1 = .byte (tape.peek address)
          ∧ (tape.call (.get address)).2.peek = tape.peek
  /-- Writing a cell updates the map exactly there. -/
  written
    : ∀ address value,
        (tape.call (.set address value)).1.isRefusal = false
        → (tape.call (.set address value)).2.peek
          = Function.update tape.peek address value
  /-- A call that succeeds makes the half of its cell long enough, never shorter, and leaves the
  other half alone.
  -/
  grown
    : ∀ call address,
        call.needs? = some address
        → (tape.call call).1.isRefusal = false
        → address.index + 1 ≤ ((tape.call call).2.cells address.half).size
          ∧ (tape.cells address.half).size ≤ ((tape.call call).2.cells address.half).size
          ∧ ∀ half ≠ address.half, (tape.call call).2.cells half = tape.cells half
  /-- A call that only looks changes nothing. -/
  looked : ∀ call, call.needs? = none → (tape.call call).2 = tape

/-- A call that needs a cell fails exactly if the cell is refused. -/
theorem isRefusal_call_iff (tape : Tape) {call : TapeCall} {address : Address}
    (needs : call.needs? = some address)
    : (tape.call call).1.isRefusal = true ↔ tape.refuses address = true := by
  cases refused : tape.refuses address with
  | true => simp [call_of_refused needs refused, TapeAnswer.isRefusal]
  | false => simp [(call_of_admitted needs refused).1]

/-- A cell that a successful call needed was not refused. -/
theorem admitted_of_call {tape : Tape} {call : TapeCall} {address : Address}
    (needs : call.needs? = some address) (success : (tape.call call).1.isRefusal = false)
    : tape.refuses address = false := by
  rw [← Bool.not_eq_true, ← isRefusal_call_iff tape needs, success]
  exact Bool.false_ne_true

/-- A call that only looks leaves the tape as it was. -/
theorem call_of_looking (tape : Tape) {call : TapeCall} (looks : call.needs? = none)
    : (tape.call call).2 = tape := by
  cases call with
  | resolve | get | set => simp [TapeCall.needs?] at looks
  | peek | range | size => rfl

/-- The laws hold of every tape, whatever calls made it. -/
theorem callLaws (tape : Tape) : tape.CallLaws where
  refused_iff call address needs := by
    rw [isRefusal_call_iff tape needs, refuses_iff]
    rfl
  kept call refusal := by
    cases needs : call.needs? with
    | none => exact tape.call_of_looking needs
    | some address =>
        rw [call_of_refused needs ((isRefusal_call_iff tape needs).mp refusal)]
  resolved address success := by
    have admitted := admitted_of_call rfl success
    simp only [Tape.call, resolve, admitted, Bool.false_eq_true, if_false]
    exact funext (tape.peek_extend address)
  got address success := by
    have admitted := admitted_of_call rfl success
    simp only [Tape.call, get_eq, admitted, Bool.false_eq_true, if_false, true_and]
    exact funext (tape.peek_extend address)
  written address value success := by
    have admitted := admitted_of_call rfl success
    have same : (tape.extend address).peek = tape.peek := funext (tape.peek_extend address)
    simp only [Tape.call, set_eq, admitted, Bool.false_eq_true, if_false]
    rw [peek_put (tape.holds_extend address), same]
  grown call address needs success := by
    have worked := (call_of_admitted needs (admitted_of_call needs success)).2
    have size := worked.size_cells address.half
    rw [if_pos rfl] at size
    exact ⟨by omega, by omega, fun half differ => worked.cells_other differ⟩
  looked call looks := tape.call_of_looking looks

/-- A tape refines a total map of bytes over all addresses. A fresh tape means the map that is zero
everywhere. For every tape, every limit and every sequence of calls at any addresses, the answers
and the meaning afterwards are those of the map, and the laws of calls hold of the tape that the
sequence leaves, so of every call in it.
-/
theorem refines_memory (tape : Tape) (calls : List TapeCall)
    : (∀ limit, ({ limit } : Tape).meaning = Memory.blank limit)
      ∧ (tape.run calls).1 = (tape.meaning.run calls).1
      ∧ (tape.run calls).2.meaning = (tape.meaning.run calls).2
      ∧ (tape.run calls).2.CallLaws := by
  obtain ⟨answers, last⟩ := tape.meaning_run calls
  exact ⟨meaning_fresh, answers, last, callLaws _⟩

end Tape

end TapeMachine
