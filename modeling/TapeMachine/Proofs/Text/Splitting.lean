import TapeMachine.Text.Split

/-! Texts cut at separators, and put together again.
A text without the separator is one piece; any other text has a first separator and a last one, and
is cut there.
-/

namespace TapeMachine.Text

variable {separator : Char} {chars front rest : List Char}

-----------------------------------------------------------------------------------------
-- All pieces
-----------------------------------------------------------------------------------------

theorem pieces_of_not_mem (absent : separator ∉ chars) : pieces separator chars = [chars] := by
  induction chars with
  | nil => rfl
  | cons c rest ih =>
      simp only [List.mem_cons, not_or] at absent
      rw [pieces, if_neg (Ne.symm absent.1), ih absent.2]

theorem pieces_append (absent : separator ∉ front)
    : pieces separator (front ++ separator :: rest) = front :: pieces separator rest := by
  induction front with
  | nil => rw [List.nil_append, pieces, if_pos rfl]
  | cons c front ih =>
      simp only [List.mem_cons, not_or] at absent
      rw [List.cons_append, pieces, if_neg (Ne.symm absent.1), ih absent.2]

theorem pieces_ne_nil (separator : Char) (chars : List Char) : pieces separator chars ≠ [] := by
  cases chars with
  | nil => simp [pieces]
  | cons c rest =>
      rw [pieces]
      split
      · simp
      · split <;> simp

theorem eq_of_pieces_eq_singleton {piece : List Char} (cut : pieces separator chars = [piece])
    : chars = piece := by
  by_cases present : separator ∈ chars
  · obtain ⟨front, rest, rfl, absent⟩ := List.eq_append_cons_of_mem present
    rw [pieces_append absent] at cut
    exact absurd (List.cons.inj cut).2 (pieces_ne_nil separator rest)
  · rw [pieces_of_not_mem present] at cut
    exact (List.cons.inj cut).1

/-- When there are more pieces than one, the first stands before a separator and the others are
those of what stands behind it.
-/
theorem exists_of_pieces_eq_cons_cons {piece next : List Char} {others : List (List Char)}
    (cut : pieces separator chars = piece :: next :: others)
    : ∃ rest, chars = piece ++ separator :: rest ∧ pieces separator rest = next :: others := by
  by_cases present : separator ∈ chars
  · obtain ⟨front, rest, rfl, absent⟩ := List.eq_append_cons_of_mem present
    rw [pieces_append absent] at cut
    obtain ⟨rfl, behind⟩ := List.cons.inj cut
    exact ⟨rest, rfl, behind⟩
  · simp [pieces_of_not_mem present] at cut

-----------------------------------------------------------------------------------------
-- The first cut and the last
-----------------------------------------------------------------------------------------

theorem passes_of_not_mem (absent : separator ∉ chars)
    : ∀ c ∈ chars, decide (c ≠ separator) = true := by
  intro c member
  rw [decide_eq_true_eq]
  rintro rfl
  exact absent member

theorem cut_of_not_mem (absent : separator ∉ chars) : cut separator chars = (chars, none) := by
  have passed : (chars ++ []).dropWhile (· ≠ separator) = [] :=
    List.dropWhile_append_of_pos (passes_of_not_mem absent)
  rw [List.append_nil] at passed
  rw [cut, passed]

theorem cut_append (absent : separator ∉ front)
    : cut separator (front ++ separator :: rest) = (front, some rest) := by
  rw [cut, List.dropWhile_append_of_pos (passes_of_not_mem absent),
    List.takeWhile_append_of_pos (passes_of_not_mem absent)]
  simp

theorem cutLast_of_not_mem (absent : separator ∉ chars) : cutLast separator chars = none := by
  rw [cutLast, cut_of_not_mem (by simpa using absent)]

theorem exists_last_of_mem (present : separator ∈ chars)
    : ∃ front rest, chars = front ++ separator :: rest ∧ separator ∉ rest := by
  obtain ⟨last, before, turned, absent⟩ :=
    List.eq_append_cons_of_mem (List.mem_reverse.mpr present)
  refine ⟨before.reverse, last.reverse, ?_, by simpa using absent⟩
  rw [← List.reverse_reverse chars, turned]
  simp

theorem cutLast_append (absent : separator ∉ rest)
    : cutLast separator (front ++ separator :: rest) = some (front, rest) := by
  have turned : (front ++ separator :: rest).reverse
      = rest.reverse ++ separator :: front.reverse := by
    simp
  rw [cutLast, turned, cut_append (by simpa using absent)]
  simp

end TapeMachine.Text
