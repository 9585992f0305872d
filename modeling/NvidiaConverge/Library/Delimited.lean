import Mathlib.Data.List.Basic

/-!
# Records behind a separator

A stream cut into the records that a separator ends and what follows the last one, as `split` and
`pop` give them. `cut_append` says how a cut goes on when more arrives, so that a reader that
carries the rest sees the records of the whole stream.
-/

namespace Delimited

variable {α : Type} [DecidableEq α]

/-- One more element before a stream that has been cut joins its first line. -/
def attach (a : α) : List (List α) × List α → List (List α) × List α
  | ([], rest) => ([], a :: rest)
  | (line :: lines, rest) => ((a :: line) :: lines, rest)

/-- `lines = stream.split(sep)` and `rest = lines.pop()`. -/
def cut (sep : α) : List α → List (List α) × List α
  | [] => ([], [])
  | a :: stream =>
      if a = sep then ([] :: (cut sep stream).1, (cut sep stream).2)
      else attach a (cut sep stream)

/-- The records of a whole stream: the last one may lack its separator. -/
def records (sep : α) (stream : List α) : List (List α) :=
  (cut sep stream).1 ++ if (cut sep stream).2 = [] then [] else [(cut sep stream).2]

variable {sep : α} {stream more : List α}

/-- A stream that goes on is cut as far as it was, and then from the rest that was left over. -/
theorem cut_append (sep : α) (stream more : List α) :
    cut sep (stream ++ more) =
      ((cut sep stream).1 ++ (cut sep ((cut sep stream).2 ++ more)).1,
        (cut sep ((cut sep stream).2 ++ more)).2) := by
  induction stream with
  | nil => rfl
  | cons a stream ih =>
      rw [List.cons_append, cut, cut, ih]
      by_cases ha : a = sep
      · simp only [if_pos ha]
        rfl
      · simp only [if_neg ha]
        obtain ⟨lines, rest⟩ := cut sep stream
        cases lines with
        | nil => simp only [attach, List.nil_append, List.cons_append, cut, if_neg ha]
        | cons line lines => rfl

/-- The records of a stream that goes on are the ones it had, then those behind its rest. -/
theorem records_append (sep : α) (stream more : List α) :
    records sep (stream ++ more) =
      (cut sep stream).1 ++ records sep ((cut sep stream).2 ++ more) := by
  rw [records, cut_append, records, List.append_assoc]

/-- What a separator does not interrupt stays in one piece. -/
theorem cut_append_of_not_mem (h : sep ∉ stream) :
    cut sep (stream ++ more) =
      match cut sep more with
      | ([], rest) => ([], stream ++ rest)
      | (line :: lines, rest) => ((stream ++ line) :: lines, rest) := by
  induction stream with
  | nil =>
      rw [List.nil_append]
      obtain ⟨lines, rest⟩ := cut sep more
      cases lines <;> rfl
  | cons a stream ih =>
      have ha : a ≠ sep := fun heq => h (heq ▸ List.mem_cons_self)
      rw [List.cons_append, cut, if_neg ha, ih fun hmem => h (List.mem_cons_of_mem _ hmem)]
      obtain ⟨lines, rest⟩ := cut sep more
      cases lines <;> rfl

theorem not_mem_rest (sep : α) (stream : List α) : sep ∉ (cut sep stream).2 := by
  induction stream with
  | nil => simp [cut]
  | cons a stream ih =>
      rw [cut]
      split
      · exact ih
      · next ha =>
          revert ih
          obtain ⟨lines, rest⟩ := cut sep stream
          intro ih
          cases lines with
          | nil => exact fun hmem => (List.mem_cons.mp hmem).elim (fun heq => ha heq.symm) ih
          | cons line lines => exact ih

/-- A stream without a separator is one record, or none. -/
theorem records_of_not_mem (h : sep ∉ stream) :
    records sep stream = if stream = [] then [] else [stream] := by
  have hcut := @cut_append_of_not_mem _ _ sep stream [] h
  rw [List.append_nil] at hcut
  rw [records, hcut]
  simp [cut]

/-- What a separator does not interrupt is in one record. -/
theorem exists_record_of_not_mem (h : sep ∉ stream) (hne : stream ≠ []) (more : List α) :
    ∃ record ∈ records sep (stream ++ more), stream <+: record := by
  rw [records, cut_append_of_not_mem h]
  obtain ⟨lines, rest⟩ := cut sep more
  cases lines with
  | nil => exact ⟨stream ++ rest, by simp [hne], List.prefix_append ..⟩
  | cons line lines => exact ⟨stream ++ line, by simp, List.prefix_append ..⟩

end Delimited
