import Mathlib.Data.List.Basic

/-!
# Runs of characters

A run of characters that pass a test, with nothing behind it that passes, is all that is taken
from the front of a text while the test passes. So the text determines where the run ends.
-/

namespace BytePattern

variable {test : Char → Bool} {run run' after after' : List Char}

theorem takeWhile_run (all : ∀ c ∈ run, test c = true) (ends : ∀ c ∈ after.head?, test c = false) :
    (run ++ after).takeWhile test = run := by
  rw [List.takeWhile_append_of_pos all]
  cases after with
  | nil => simp
  | cons c rest => simp [ends c rfl]

theorem dropWhile_run (all : ∀ c ∈ run, test c = true) (ends : ∀ c ∈ after.head?, test c = false) :
    (run ++ after).dropWhile test = after := by
  rw [List.dropWhile_append_of_pos all]
  cases after with
  | nil => rfl
  | cons c rest => simp [ends c rfl]

/-- A run that ends where the test fails is determined by the whole text. -/
theorem run_append_inj (all : ∀ c ∈ run, test c = true) (all' : ∀ c ∈ run', test c = true)
    (ends : ∀ c ∈ after.head?, test c = false) (ends' : ∀ c ∈ after'.head?, test c = false)
    (same : run ++ after = run' ++ after') : run = run' ∧ after = after' := by
  constructor
  · rw [← takeWhile_run all ends, same, takeWhile_run all' ends']
  · rw [← dropWhile_run all ends, same, dropWhile_run all' ends']

/-- What a text ends with is what its second part ends with, unless that part is empty. -/
theorem forall_getLast?_append_iff {test : Char → Prop} {front before : List Char} :
    (∀ c ∈ (front ++ before).getLast?, test c) ↔
      (before = [] → ∀ c ∈ front.getLast?, test c) ∧ ∀ c ∈ before.getLast?, test c := by
  rcases before.eq_nil_or_concat' with rfl | ⟨others, last, rfl⟩
  · simp
  · rw [← List.append_assoc, List.getLast?_concat, List.getLast?_concat]
    simp

end BytePattern
