/-
# Theory.Pieces -- reading off a stream that comes in pieces

A stream delivers its elements in pieces of any sizes.  `readExact` takes a number of
elements off the pieces; what it takes and what it leaves depend on the elements alone
(`readExact_some`), so a reader built from it reads the same at every fragmentation.
-/
import Mathlib.Data.List.Basic

namespace RustSsh.Theory

set_option autoImplicit false

variable {α : Type}

/-- The next `count` elements, and the pieces behind them; `none` if the stream ends first. -/
def readExact (count : Nat) : List (List α) → Option (List α × List (List α))
  | [] => if count = 0 then some ([], []) else none
  | piece :: rest =>
      if piece.length < count then
        (readExact (count - piece.length) rest).map fun read => (piece ++ read.1, read.2)
      else some (piece.take count, piece.drop count :: rest)

theorem readExact_empty {count : Nat} (wanted : 0 < count) (rest : List (List α)) :
    readExact count ([] :: rest) = readExact count rest := by
  rw [readExact, List.length_nil, if_pos wanted, Nat.sub_zero]
  cases readExact count rest <;> rfl

theorem readExact_piece {count : Nat} {piece : List α} (inside : count ≤ piece.length)
    (rest : List (List α)) :
    readExact count (piece :: rest) = some (piece.take count, piece.drop count :: rest) := by
  rw [readExact, if_neg (Nat.not_lt.mpr inside)]

theorem readExact_some {count : Nat} {pieces : List (List α)}
    (enough : count ≤ pieces.flatten.length) :
    ∃ left, readExact count pieces = some (pieces.flatten.take count, left) ∧
      left.flatten = pieces.flatten.drop count := by
  induction pieces generalizing count with
  | nil =>
      obtain rfl : count = 0 := by simpa using enough
      exact ⟨[], rfl, rfl⟩
  | cons piece rest ih =>
      rw [List.flatten_cons, List.length_append] at enough
      rw [readExact, List.flatten_cons]
      by_cases short : piece.length < count
      · obtain ⟨left, read, after⟩ := ih (show count - piece.length ≤ rest.flatten.length by omega)
        refine ⟨left, ?_, ?_⟩
        · rw [if_pos short, read, List.take_append, List.take_of_length_le (Nat.le_of_lt short)]
          rfl
        · rw [after, List.drop_append, List.drop_of_length_le (Nat.le_of_lt short),
            List.nil_append]
      · have inside : count ≤ piece.length := by omega
        refine ⟨piece.drop count :: rest, ?_, ?_⟩
        · rw [if_neg short, List.take_append_of_le_length inside]
        · rw [List.flatten_cons, List.drop_append_of_le_length inside]

/-- A stream that starts with the elements wanted. -/
theorem readExact_append {pieces : List (List α)} {wanted more : List α}
    (stream : pieces.flatten = wanted ++ more) :
    ∃ left, readExact wanted.length pieces = some (wanted, left) ∧ left.flatten = more := by
  have enough : wanted.length ≤ pieces.flatten.length := by
    rw [stream, List.length_append]
    omega
  obtain ⟨left, read, after⟩ := readExact_some enough
  rw [stream, List.take_left] at read
  rw [stream, List.drop_left] at after
  exact ⟨left, read, after⟩

/-- What the piece in front has of the wanted elements is taken first. -/
theorem readExact_front (count : Nat) (piece : List α) (rest : List (List α)) :
    readExact count (piece :: rest) =
      (readExact (count - (piece.take count).length) (piece.drop count :: rest)).map fun later =>
        (piece.take count ++ later.1, later.2) := by
  by_cases short : piece.length < count
  · have positive : 0 < count - piece.length := by omega
    rw [List.take_of_length_le (Nat.le_of_lt short), List.drop_of_length_le (Nat.le_of_lt short),
      readExact_empty positive, readExact, if_pos short]
  · have inside : count ≤ piece.length := by omega
    have taken : count - (piece.take count).length = 0 := by
      rw [List.length_take]
      omega
    rw [readExact_piece inside, taken, readExact_piece (Nat.zero_le _)]
    simp

end RustSsh.Theory
