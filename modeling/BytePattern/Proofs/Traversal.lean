import Mathlib.Data.List.Forall2

/-!
# Traversals that can fail

A function that can fail is applied to the members of a list from the left to the right. Either it
succeeds on all of them, or the first one on which it fails decides.
-/

namespace BytePattern

namespace Traversal

variable {Fault Input Output : Type} {f : Input → Except Fault Output}

theorem mapM_cons_of_ok {input : Input} {output : Output} (rest : List Input)
    (passed : f input = .ok output) :
    (input :: rest).mapM f = (rest.mapM f).map (output :: ·) := by
  rw [List.mapM_cons, passed]
  cases rest.mapM f <;> rfl

theorem mapM_cons_of_error {input : Input} {fault : Fault} (rest : List Input)
    (failed : f input = .error fault) : (input :: rest).mapM f = .error fault := by
  rw [List.mapM_cons, failed]
  rfl

theorem mapM_eq_ok_iff {inputs : List Input} {outputs : List Output} :
    inputs.mapM f = .ok outputs ↔
      List.Forall₂ (fun input output => f input = .ok output) inputs outputs := by
  induction inputs generalizing outputs with
  | nil =>
      rw [List.forall₂_nil_left_iff]
      constructor
      · rintro ⟨⟩
        rfl
      · rintro rfl
        rfl
  | cons input rest ih =>
      constructor
      · intro passed
        cases here : f input with
        | error fault =>
            rw [mapM_cons_of_error rest here] at passed
            cases passed
        | ok output =>
            rw [mapM_cons_of_ok rest here] at passed
            cases others : rest.mapM f with
            | error fault =>
                rw [others] at passed
                cases passed
            | ok results =>
                rw [others] at passed
                cases passed
                exact .cons here (ih.1 others)
      · rintro (_ | ⟨here, others⟩)
        rw [mapM_cons_of_ok rest here, ih.2 others]
        rfl

/-- A traversal stops at the first input that fails. -/
theorem mapM_eq_error_iff {inputs : List Input} {fault : Fault} :
    inputs.mapM f = .error fault ↔
      ∃ valid bad rest, inputs = valid ++ bad :: rest ∧
        (∀ input ∈ valid, ∃ output, f input = .ok output) ∧ f bad = .error fault := by
  induction inputs with
  | nil => simp [pure, Except.pure]
  | cons input rest ih =>
      constructor
      · intro failed
        cases here : f input with
        | error earlier =>
            rw [mapM_cons_of_error rest here] at failed
            cases failed
            exact ⟨[], input, rest, rfl, by simp, here⟩
        | ok output =>
            rw [mapM_cons_of_ok rest here] at failed
            cases others : rest.mapM f with
            | ok results =>
                rw [others] at failed
                cases failed
            | error later =>
                rw [others] at failed
                cases failed
                obtain ⟨valid, bad, behind, rfl, allValid, isBad⟩ := ih.1 others
                exact ⟨input :: valid, bad, behind, rfl,
                  List.forall_mem_cons.2 ⟨⟨output, here⟩, allValid⟩, isBad⟩
      · rintro ⟨valid, bad, behind, split, allValid, isBad⟩
        cases valid with
        | nil =>
            obtain ⟨rfl, rfl⟩ := List.cons.inj split
            exact mapM_cons_of_error _ isBad
        | cons first valid =>
            obtain ⟨rfl, rfl⟩ := List.cons.inj split
            obtain ⟨⟨output, here⟩, others⟩ := List.forall_mem_cons.1 allValid
            have failed := ih.2 ⟨valid, bad, behind, rfl, others, isBad⟩
            rw [mapM_cons_of_ok _ here, failed]
            rfl

end Traversal

end BytePattern
