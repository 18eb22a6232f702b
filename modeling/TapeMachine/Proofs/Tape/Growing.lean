import TapeMachine.Proofs.Tape.Memory

/-! Growth is told of cell by cell.
A tape grows one cell at a time, and whoever watches it is told of each as soon as it exists.
Written down, this is a journal from which the lengths of the two halves can be replayed: the sizes
told for a half go up by one from the first length to the last, however the calls for both halves
interleave.
-/

namespace TapeMachine.Tape

-----------------------------------------------------------------------------------------
-- Growth one cell at a time
-----------------------------------------------------------------------------------------

section Telling

variable {m : Type → Type} [Monad m] (hook : Growth → m Unit)

/-- Adds zero cells to a half one by one until the cell at an address exists, and calls a hook after
each.
-/
def extendTelling (tape : Tape) (address : Address) : m Tape :=
  if address.index < (tape.cells address.half).size then return tape
  else do
    hook ⟨address.half, (tape.cells address.half).size + 1⟩
    (tape.mapCells address.half (·.push 0)).extendTelling address
termination_by address.index + 1 - (tape.cells address.half).size
decreasing_by
  rw [cells_mapCells_same, Array.size_push]
  omega

/-- The tape on which a cell exists, unless the limit refuses it. -/
def resolveTelling (tape : Tape) (address : Address) : m (Except Exhausted Tape) := do
  if tape.refuses address then return .error ⟨address, tape.limit⟩
  else return .ok (← tape.extendTelling hook address)

/-- The answer to a call, and the tape after it. -/
def callTelling (tape : Tape) : TapeCall → m (TapeAnswer × Tape)
  | .resolve address => do
    match ← tape.resolveTelling hook address with
    | .error cause => return (.refused cause, tape)
    | .ok next => return (.ready, next)
  | .get address => do
    match ← tape.resolveTelling hook address with
    | .error cause => return (.refused cause, tape)
    | .ok next => return (.byte (next.peek address), next)
  | .set address value => do
    match ← tape.resolveTelling hook address with
    | .error cause => return (.refused cause, tape)
    | .ok next => return (.ready, next.put address value)
  | .peek address => return (.byte (tape.peek address), tape)
  | .range start stop => return (.bytes (tape.range? start stop), tape)
  | .size => return (.sizes tape.size.1 tape.size.2, tape)

/-- The answers to a sequence of calls, and the tape after it. -/
def runTelling (tape : Tape) : List TapeCall → m (List TapeAnswer × Tape)
  | [] => return ([], tape)
  | first :: rest => do
    let (answer, next) ← tape.callTelling hook first
    let (answers, last) ← next.runTelling rest
    return (answer :: answers, last)

end Telling

/-- The growth that a call tells of. -/
def told (tape : Tape) (call : TapeCall) : List Growth :=
  match call.needs? with
  | some address => if tape.refuses address then [] else tape.growth address
  | none => []

/-- The growth that a sequence of calls tells of, in order. -/
def toldBy (tape : Tape) : List TapeCall → List Growth
  | [] => []
  | first :: rest => tape.told first ++ (tape.call first).2.toldBy rest

-----------------------------------------------------------------------------------------
-- What one call tells of
-----------------------------------------------------------------------------------------

theorem growth_of_holds {tape : Tape} {address : Address} (held : tape.Holds address)
    : tape.growth address = [] := by
  have none : address.index + 1 - (tape.cells address.half).size = 0 := by
    unfold Holds at held
    omega
  simp only [growth, none]
  rfl

/-- A cell that is missing is told of first, and then what is missing behind it. -/
theorem growth_of_missing {tape : Tape} {address : Address} (missing : ¬tape.Holds address)
    : tape.growth address
      = ⟨address.half, (tape.cells address.half).size + 1⟩
        :: (tape.mapCells address.half (·.push 0)).growth address := by
  have count : address.index + 1 - (tape.cells address.half).size
      = address.index + 1 - ((tape.cells address.half).size + 1) + 1 := by
    unfold Holds at missing
    omega
  simp only [growth, cells_mapCells_same, Array.size_push]
  rw [count, List.range'_succ, List.map_cons]

theorem mapCells_mapCells (tape : Tape) (half : Half) (f g : Array UInt8 → Array UInt8)
    : (tape.mapCells half f).mapCells half g = tape.mapCells half fun cells => g (f cells) := by
  cases half <;> rfl

theorem extend_eq (tape : Tape) (address : Address)
    : tape.extend address
      = tape.mapCells address.half fun cells =>
          cells ++ Array.replicate (address.index + 1 - cells.size) 0 := by
  unfold extend
  congr 1
  funext cells
  split
  · rename_i long
    rw [show address.index + 1 - cells.size = 0 by omega]
    simp
  · rfl

/-- One zero cell more is on the way to a cell that is missing. -/
theorem extend_push_of_missing {tape : Tape} {address : Address} (missing : ¬tape.Holds address)
    : (tape.mapCells address.half (·.push 0)).extend address = tape.extend address := by
  have longer {cells : Array UInt8} (short : ¬address.index < cells.size)
      : cells.push 0 ++ Array.replicate (address.index + 1 - (cells.push 0).size) 0
        = cells ++ Array.replicate (address.index + 1 - cells.size) 0 := by
    have count : address.index + 1 - cells.size = address.index + 1 - (cells.size + 1) + 1 := by
      omega
    apply Array.toList_inj.mp
    simp [count, List.replicate_succ]
  simp only [extend_eq, mapCells_mapCells]
  unfold Holds at missing
  cases half : address.half <;> simp only [half, cells] at missing <;>
    simp only [mapCells, longer missing]

section Telling

variable {m : Type → Type} [Monad m] [LawfulMonad m] (hook : Growth → m Unit)

/-- Growing cell by cell gives the tape that has all the missing cells, and calls the hook for each
of them; by the cells that are missing.
-/
theorem extendTelling_eq (tape : Tape) (address : Address)
    : tape.extendTelling hook address = do
        forM (tape.growth address) hook
        return tape.extend address := by
  fun_induction extendTelling hook tape address with
  | case1 tape held =>
      have held : tape.Holds address := held
      rw [growth_of_holds held, held.extend_eq, List.forM_nil, pure_bind]
  | case2 tape missing ih =>
      have missing : ¬tape.Holds address := missing
      rw [ih, extend_push_of_missing missing, growth_of_missing missing, List.forM_cons,
        bind_assoc]

/-- A call tells of its growth and is answered as if nobody were told. -/
theorem callTelling_eq (tape : Tape) (call : TapeCall)
    : tape.callTelling hook call = do
        forM (tape.told call) hook
        return tape.call call := by
  cases call with
  | resolve address | get address | set address value =>
      simp only [callTelling, resolveTelling, told, TapeCall.needs?, Tape.call, resolve, get_eq,
        set_eq, extendTelling_eq]
      cases tape.refuses address with
      | true => simp
      | false => simp [peek_extend]
  | peek address | range start stop | size => simp [callTelling, told, TapeCall.needs?, Tape.call]

/-- So is a sequence of calls, call by call. -/
theorem runTelling_eq (tape : Tape) (calls : List TapeCall)
    : tape.runTelling hook calls = do
        forM (tape.toldBy calls) hook
        return tape.run calls := by
  induction calls generalizing tape with
  | nil => simp [runTelling, toldBy, run]
  | cons first rest ih =>
      simp only [runTelling, callTelling_eq, ih, toldBy, run, List.forM_append, bind_assoc,
        pure_bind]

end Telling

/-- The sizes that are told for one half, in order. -/
def sizesFor (half : Half) (told : List Growth) : List Nat :=
  (told.filter (·.half = half)).map Growth.size

theorem sizesFor_append (half : Half) (first second : List Growth)
    : sizesFor half (first ++ second) = sizesFor half first ++ sizesFor half second := by
  simp only [sizesFor, List.filter_append, List.map_append]

theorem sizesFor_growth (tape : Tape) (address : Address) (half : Half)
    : sizesFor half (tape.growth address)
      = List.range' ((tape.cells half).size + 1)
          (((tape.extend address).cells half).size - (tape.cells half).size) := by
  unfold sizesFor growth
  rw [List.filter_map, List.map_map, size_cells_extend]
  by_cases same : half = address.half
  · subst same
    have count : max (tape.cells address.half).size (address.index + 1)
          - (tape.cells address.half).size
        = address.index + 1 - (tape.cells address.half).size := by
      omega
    simp [Function.comp_def, count]
  · simp [Function.comp_def, same, Ne.symm same]

theorem told_of_looking (tape : Tape) {call : TapeCall} (looks : call.needs? = none)
    : tape.told call = [] := by
  rw [told, looks]

theorem told_of_refused {tape : Tape} {call : TapeCall} {address : Address}
    (needs : call.needs? = some address) (refused : tape.refuses address = true)
    : tape.told call = [] := by
  simp only [told, needs, refused, if_true]

theorem told_of_admitted {tape : Tape} {call : TapeCall} {address : Address}
    (needs : call.needs? = some address) (admitted : tape.refuses address = false)
    : tape.told call = tape.growth address := by
  simp only [told, needs, admitted, Bool.false_eq_true, if_false]

/-- The sizes that are told for a half go up by one from its length on a tape to its length on a
later one.
-/
structure GrowsTo (half : Half) (before after : Tape) (told : List Growth) : Prop where
  longer : (before.cells half).size ≤ (after.cells half).size
  sizes
    : sizesFor half told
      = List.range' ((before.cells half).size + 1)
          ((after.cells half).size - (before.cells half).size)

theorem GrowsTo.refl (half : Half) (tape : Tape) : GrowsTo half tape tape [] where
  longer := Nat.le_refl _
  sizes := by
    rw [Nat.sub_self]
    rfl

/-- What is told later goes on where what is told before stops. -/
theorem GrowsTo.trans {half : Half} {before middle after : Tape} {told more : List Growth}
    (first : GrowsTo half before middle told) (second : GrowsTo half middle after more)
    : GrowsTo half before after (told ++ more) where
  longer := Nat.le_trans first.longer second.longer
  sizes := by
    have longer := first.longer
    have later := second.longer
    rw [sizesFor_append, first.sizes, second.sizes]
    generalize (before.cells half).size = start at *
    generalize (middle.cells half).size = place at *
    generalize (after.cells half).size = stop at *
    have next : place + 1 = start + 1 + 1 * (place - start) := by omega
    have count : stop - start = (place - start) + (stop - place) := by omega
    rw [next, List.range'_append, count]

theorem growsTo_call (tape : Tape) (call : TapeCall) (half : Half)
    : GrowsTo half tape (tape.call call).2 (tape.told call) := by
  cases needs : call.needs? with
  | none =>
      rw [tape.told_of_looking needs, tape.call_of_looking needs]
      exact .refl half tape
  | some address =>
      cases refused : tape.refuses address with
      | true =>
          rw [told_of_refused needs refused, call_of_refused needs refused]
          exact .refl half tape
      | false =>
          have size := (call_of_admitted needs refused).2.size_cells half
          rw [← size_cells_extend] at size
          rw [told_of_admitted needs refused]
          constructor
          · rw [size, size_cells_extend]
            split <;> omega
          · rw [size]
            exact tape.sizesFor_growth address half

-----------------------------------------------------------------------------------------
-- What a sequence of calls tells of
-----------------------------------------------------------------------------------------

/-- However the calls for both halves interleave; by induction on them. -/
theorem growsTo_run (tape : Tape) (calls : List TapeCall) (half : Half)
    : GrowsTo half tape (tape.run calls).2 (tape.toldBy calls) := by
  induction calls generalizing tape with
  | nil => exact .refl half tape
  | cons first rest ih => exact (tape.growsTo_call first half).trans (ih (tape.call first).2)

/-- The lengths of the halves after a growth, the positive one first. -/
def replay (sizes : Nat × Nat) (growth : Growth) : Nat × Nat :=
  match growth.half with
  | .positive => (growth.size, sizes.2)
  | .negative => (sizes.1, growth.size)

/-- Lengths that are replayed for a half are the last size that was told for it. -/
theorem replayed_eq (told : List Growth) (sizes : Nat × Nat)
    : told.foldl replay sizes
      = (((sizesFor .positive told).getLast?).getD sizes.1,
          ((sizesFor .negative told).getLast?).getD sizes.2) := by
  induction told generalizing sizes with
  | nil => rfl
  | cons first rest ih =>
      rw [List.foldl_cons, ih]
      cases first with
      | mk half size => cases half <;> simp [replay, sizesFor, List.getLast?_cons]

theorem getLast?_range' {start stop : Nat} (le : start ≤ stop)
    : ((List.range' (start + 1) (stop - start)).getLast?).getD start = stop := by
  rcases Nat.eq_or_lt_of_le le with rfl | less
  · simp
  · have count : stop - start = stop - start - 1 + 1 := by omega
    rw [count, List.range'_concat]
    simp
    omega

/-- The journal leads from the first lengths to the last. -/
theorem replay_toldBy (tape : Tape) (calls : List TapeCall)
    : (tape.toldBy calls).foldl replay tape.size = (tape.run calls).2.size := by
  have right := tape.growsTo_run calls .positive
  have left := tape.growsTo_run calls .negative
  rw [replayed_eq, right.sizes, left.sizes]
  exact Prod.ext (getLast?_range' right.longer) (getLast?_range' left.longer)

/-- A call that does not set a cell leaves its byte as it was, whether the cell exists or not. -/
theorem peek_call_of_not_set (tape : Tape) {call : TapeCall} {address : Address}
    (unset : ∀ value, call ≠ .set address value)
    : (tape.call call).2.peek address = tape.peek address := by
  have laws := tape.callLaws
  cases refusal : (tape.call call).1.isRefusal with
  | true => rw [laws.kept call refusal]
  | false =>
      cases call with
      | resolve other => rw [laws.resolved other refusal]
      | get other => rw [(laws.got other refusal).2]
      | set other value =>
          have differ : address ≠ other := by
            rintro rfl
            exact unset value rfl
          rw [laws.written other value refusal, Function.update_of_ne differ]
      | peek | range | size => rfl

theorem peek_run_of_not_set (tape : Tape) {calls : List TapeCall} {address : Address}
    (unset : ∀ value, .set address value ∉ calls)
    : (tape.run calls).2.peek address = tape.peek address := by
  induction calls generalizing tape with
  | nil => rfl
  | cons first rest ih =>
      have later := ih (tape.call first).2 fun value member =>
        unset value (List.mem_cons_of_mem _ member)
      refine later.trans (tape.peek_call_of_not_set ?_)
      rintro value rfl
      exact unset value List.mem_cons_self

theorem peek_of_missing {tape : Tape} {address : Address} (missing : ¬tape.Holds address)
    : tape.peek address = 0 := by
  unfold Holds at missing
  rw [peek, Array.getElem?_eq_none (by omega), Option.getD_none]

/-- What holds of the growth that a tape tells of, whatever calls made it. -/
structure TellingLaws (tape : Tape) : Prop where
  /-- A call that fails tells of nothing. -/
  failed : ∀ call, (tape.call call).1.isRefusal = true → tape.told call = []
  /-- Nor does a call for a cell that exists. -/
  present : ∀ call address, call.needs? = some address → tape.Holds address → tape.told call = []
  /-- Nor does a call that only looks. -/
  looked : ∀ call, call.needs? = none → tape.told call = []
  /-- What is told names the half of the cell that was needed, and says that it grew; the other half
  stays as it was.
  -/
  named
    : ∀ call,
        ∀ growth ∈ tape.told call,
          ∃ address,
            call.needs? = some address
            ∧ growth.half = address.half
            ∧ (tape.cells growth.half).size < growth.size
            ∧ growth.size ≤ ((tape.call call).2.cells growth.half).size
            ∧ ∀ half ≠ growth.half, (tape.call call).2.cells half = tape.cells half

theorem tellingLaws (tape : Tape) : tape.TellingLaws where
  failed call refusal := by
    cases needs : call.needs? with
    | none => exact tape.told_of_looking needs
    | some address =>
        exact told_of_refused needs ((tape.isRefusal_call_iff needs).mp refusal)
  present call address needs held := by
    rw [told_of_admitted needs held.not_refused, growth_of_holds held]
  looked call looks := tape.told_of_looking looks
  named call growth member := by
    cases needs : call.needs? with
    | none => simp [tape.told_of_looking needs] at member
    | some address =>
        cases refused : tape.refuses address with
        | true => simp [told_of_refused needs refused] at member
        | false =>
            have worked := (call_of_admitted needs refused).2
            rw [told_of_admitted needs refused] at member
            obtain ⟨size, within, rfl⟩ := List.mem_map.mp member
            rw [List.mem_range'_1] at within
            have reach := worked.size_cells address.half
            rw [if_pos rfl] at reach
            exact ⟨address, rfl, rfl, by dsimp only; omega, by dsimp only; omega,
              fun half differ => worked.cells_other differ⟩

/-- The growth that a sequence of calls tells of is a faithful journal of the tape. -/
structure FaithfulJournal (tape : Tape) (calls : List TapeCall) : Prop where
  /-- The hook is called for exactly this growth, in this order, whatever it does, and the calls are
  answered as if there were none.
  -/
  performed
    : ∀ {m : Type → Type} [Monad m] [LawfulMonad m] (hook : Growth → m Unit),
        tape.runTelling hook calls = do
          forM (tape.toldBy calls) hook
          return tape.run calls
  /-- No half gets shorter. -/
  longer : ∀ half, (tape.cells half).size ≤ ((tape.run calls).2.cells half).size
  /-- The sizes told for a half are its length before and one, and so on up to its length after. -/
  sizes
    : ∀ half,
        sizesFor half (tape.toldBy calls)
        = List.range' ((tape.cells half).size + 1)
            (((tape.run calls).2.cells half).size - (tape.cells half).size)
  /-- A cell that did not exist reads as zero as long as it is not set. -/
  blank
    : ∀ address,
        ¬tape.Holds address
        → (∀ value, .set address value ∉ calls)
        → (tape.run calls).2.peek address = 0
  /-- The lengths before and the journal give the lengths after. -/
  replayed : (tape.toldBy calls).foldl replay tape.size = (tape.run calls).2.size
  /-- The next call tells of nothing but cells that it brings into being. -/
  next : (tape.run calls).2.TellingLaws

/-- Growth is told of faithfully: for every tape, every limit and every sequence of calls at any
addresses, with any hook that does not touch the tape.
-/
theorem faithfulJournal (tape : Tape) (calls : List TapeCall) : tape.FaithfulJournal calls where
  performed hook := tape.runTelling_eq hook calls
  longer half := (tape.growsTo_run calls half).longer
  sizes half := (tape.growsTo_run calls half).sizes
  blank _ missing unset := (tape.peek_run_of_not_set unset).trans (peek_of_missing missing)
  replayed := tape.replay_toldBy calls
  next := tellingLaws _

end TapeMachine.Tape
