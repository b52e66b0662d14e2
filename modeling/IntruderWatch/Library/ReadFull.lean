import Mathlib.Tactic

/-!
# Full reads from a pipe

`io.ReadFull` calls `Read` until a buffer is full. A pipe is the list of the pieces in which
its bytes arrive, after which it is at its end; a `Read` never returns bytes of two pieces.
-/

namespace Go

variable {α : Type*}

/-- `io.EOF` and `io.ErrUnexpectedEOF`. -/
inductive ReadError
  | eof
  | unexpectedEOF
deriving DecidableEq

/-- The buffer after `io.ReadFull(r, buf)`, the rest of the pipe, and the error. -/
def readFull : List (List α) → List α → List α × List (List α) × Option ReadError
  | pieces, [] => ([], pieces, none)
  | [], v :: buf => (v :: buf, [], some .eof)
  | piece :: pieces, v :: buf =>
    if piece.length ≤ (v :: buf).length then
      let (rest, pieces, err) := readFull pieces ((v :: buf).drop piece.length)
      (piece ++ rest, pieces, if piece = [] then err else err.map (fun _ => .unexpectedEOF))
    else (piece.take (v :: buf).length, piece.drop (v :: buf).length :: pieces, none)

/-- While the pipe holds enough, a full read takes its first bytes, however they arrive. -/
theorem readFull_of_le {pieces : List (List α)} {buf : List α}
    (h : buf.length ≤ pieces.flatten.length) :
    ∃ rest, readFull pieces buf = (pieces.flatten.take buf.length, rest, none) ∧
      rest.flatten = pieces.flatten.drop buf.length := by
  induction pieces generalizing buf with
  | nil =>
    obtain rfl : buf = [] := by simpa using h
    exact ⟨[], by simp [readFull]⟩
  | cons piece pieces ih =>
    cases buf with
    | nil => exact ⟨piece :: pieces, by simp [readFull]⟩
    | cons v buf =>
      rw [List.flatten_cons] at h ⊢
      rw [readFull]
      by_cases hle : piece.length ≤ (v :: buf).length
      · rw [List.length_append] at h
        have hlen : ((v :: buf).drop piece.length).length ≤ pieces.flatten.length := by
          rw [List.length_drop]
          omega
        obtain ⟨rest, hread, hflat⟩ := ih hlen
        refine ⟨rest, ?_, ?_⟩
        · rw [if_pos hle, hread, List.take_append, List.take_of_length_le hle, List.length_drop]
          simp
        · rw [hflat, List.drop_append, List.drop_of_length_le hle, List.length_drop,
            List.nil_append]
      · have hge : (v :: buf).length ≤ piece.length := by omega
        refine ⟨piece.drop (v :: buf).length :: pieces, ?_, ?_⟩
        · rw [if_neg hle, List.take_append_of_le_length hge]
        · rw [List.flatten_cons, List.drop_append_of_le_length hge]

/-- A pipe that ends too early fails the read and is at its end. -/
theorem readFull_of_lt {pieces : List (List α)} {buf : List α}
    (h : pieces.flatten.length < buf.length) :
    ∃ buf' err, readFull pieces buf = (buf', [], some err) := by
  induction pieces generalizing buf with
  | nil =>
    cases buf with
    | nil => simp at h
    | cons v buf => exact ⟨v :: buf, .eof, by rw [readFull]⟩
  | cons piece pieces ih =>
    rw [List.flatten_cons, List.length_append] at h
    cases buf with
    | nil => simp at h
    | cons v buf =>
      have hle : piece.length ≤ (v :: buf).length := by omega
      have hlen : pieces.flatten.length < ((v :: buf).drop piece.length).length := by
        rw [List.length_drop]
        omega
      obtain ⟨buf', err, hread⟩ := ih hlen
      rw [readFull, if_pos hle, hread]
      by_cases hp : piece = []
      · exact ⟨piece ++ buf', err, by simp [hp]⟩
      · exact ⟨piece ++ buf', .unexpectedEOF, by simp [hp]⟩

end Go
