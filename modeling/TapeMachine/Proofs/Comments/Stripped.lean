import TapeMachine.Instruction

/-! Programs without their comments. A position of a program is found again in the stripped program
behind as many bytes as there are instructions before it.
-/

namespace TapeMachine

/-- A byte stands for an instruction. All other bytes are comments. -/
def Instruction.spelled (byte : UInt8) : Bool :=
  (ofByte? byte).isSome

namespace Program

/-- The program with its comments removed. -/
def stripped (program : Program) : Program :=
  { program with code := program.code.filter Instruction.spelled }

/-- The number of instructions before a position. -/
def rank (program : Program) (position : Nat) : Nat :=
  (program.code.toList.take position).countP Instruction.spelled

theorem rank_zero (program : Program) : program.rank 0 = 0 := by
  rw [rank, List.take_zero, List.countP_nil]

/-- Behind an instruction there is one more, and behind a comment there are as many as before. -/
theorem rank_succ {program : Program} {position : Nat} {byte : UInt8}
    (present : program.byte? position = some byte)
    : program.rank (position + 1)
      = program.rank position + if Instruction.spelled byte then 1 else 0 := by
  have next : program.code.toList[position]? = some byte := by
    rw [Array.getElem?_toList]
    exact present
  rw [rank, rank, List.take_add_one, next, Option.toList_some, List.countP_append,
    List.countP_singleton]

/-- From the end of the program on, all instructions were passed. -/
theorem rank_of_size_le {program : Program} {position : Nat} (past : program.size ≤ position)
    : program.rank position = program.stripped.size := by
  rw [rank, List.take_of_length_le past, stripped, size, ← Array.length_toList,
    Array.toList_filter, List.countP_eq_length_filter]

/-- An instruction is found again behind the instructions before it. -/
theorem byte?_stripped {program : Program} {position : Nat} {byte : UInt8}
    (present : program.byte? position = some byte) (spelled : Instruction.spelled byte = true)
    : program.stripped.byte? (program.rank position) = some byte := by
  -- The program is split at the position, and the two parts are stripped by themselves.
  obtain ⟨below, here⟩ := Array.getElem?_eq_some_iff.mp present
  have split : program.code.toList
      = program.code.toList.take position ++ byte :: program.code.toList.drop (position + 1) := by
    rw [← here, ← Array.getElem_toList below, List.getElem_cons_drop,
      List.take_append_drop]
  rw [byte?, stripped, ← Array.getElem?_toList, Array.toList_filter, split, List.filter_append,
    rank, List.countP_eq_length_filter, List.getElem?_append_right (Nat.le_refl _),
    Nat.sub_self, List.filter_cons_of_pos spelled, List.getElem?_cons_zero]

theorem size_stripped_le (program : Program) : program.stripped.size ≤ program.size :=
  Array.size_filter_le

end Program

end TapeMachine
