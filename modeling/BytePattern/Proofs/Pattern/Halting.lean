import BytePattern.Proofs.Pattern.Driving
import BytePattern.Proofs.Pattern.Shifting

/-!
# A search ends inside its data

A request is answered by one pass after another, each of which looks at the window at one position
and goes on to a later one. A shift leads past the anchor at most, and the anchor lies in the
window, so a pass over a window that fits never leads out of the data. It leads forwards too,
because no shift is zero, and hence only so many passes follow each other as there are positions
left. Nothing here is about what is found: the passes are the same if no window matches.
-/

namespace BytePattern

namespace Pattern

variable {pattern : Pattern} {data : Bytes} {position middle following count : Nat}

/-- A shift leads past the anchor at most. -/
theorem shifts_get_le {anchor : Anchor} (anchored : pattern.anchor = some anchor) (byte : UInt8) :
    pattern.shifts.get byte ≤ anchor.index + 1 := by
  rw [pattern.shifts_eq]
  exact (ShiftTable.reaches_get (pattern.anchor_eq.symm.trans anchored) byte).le

/-- Short of the end the whole pattern fits. Nothing fits into data shorter than the pattern, whose
end is zero. -/
theorem lt_searchEnd_iff : position < pattern.searchEnd data ↔
    position + pattern.span ≤ data.size := by
  unfold searchEnd
  omega

/-- One pass of a search, from a position to the next. The byte under the anchor is looked up, so
there is no pass where it is missing. -/
inductive Pass (pattern : Pattern) (data : Bytes) : Nat → Nat → Prop where
  | anchored {position : Nat} {anchor : Anchor} {byte : UInt8}
      (anchored : pattern.anchor = some anchor) (short : position < pattern.searchEnd data)
      (seen : data[position + anchor.index]? = some byte) :
      Pass pattern data position (position + pattern.shifts.get byte)
  | blank {position : Nat} (unanchored : pattern.anchor = none)
      (short : position < pattern.searchEnd data) : Pass pattern data position (position + 1)

namespace Pass

theorem lt_searchEnd (pass : Pass pattern data position following) :
    position < pattern.searchEnd data := by
  cases pass with
  | anchored anchored short seen => exact short
  | blank unanchored short => exact short

theorem add_span_le (pass : Pass pattern data position following) :
    position + pattern.span ≤ data.size :=
  lt_searchEnd_iff.1 pass.lt_searchEnd

/-- A pass leads forwards, past its own window at most. -/
theorem lt_and_le (pass : Pass pattern data position following) :
    position < following ∧ following ≤ position + pattern.span := by
  cases pass with
  | @anchored anchor byte anchored short seen =>
      have forwards := pattern.shifts.get_pos byte
      have bounded := shifts_get_le anchored byte
      have inside := anchor_index_lt anchored
      omega
  | blank unanchored short =>
      have := pattern.span_pos
      omega

theorem le_size (pass : Pass pattern data position following) : following ≤ data.size :=
  pass.lt_and_le.2.trans pass.add_span_le

/-- Short of the end no window is in the way of a pass. -/
theorem exists_of_lt (short : position < pattern.searchEnd data) :
    ∃ following, Pass pattern data position following := by
  cases anchored : pattern.anchor with
  | none => exact ⟨_, blank anchored short⟩
  | some anchor =>
      have fits := lt_searchEnd_iff.1 short
      have inside : position + anchor.index < data.size := by
        have := anchor_index_lt anchored
        omega
      exact ⟨_, .anchored anchored short (Array.getElem?_eq_getElem inside)⟩

end Pass

/-- A number of passes, each from where the one before it led to. -/
inductive Passes (pattern : Pattern) (data : Bytes) : Nat → Nat → Nat → Prop where
  | none (position : Nat) : Passes pattern data 0 position position
  | more {count position middle following : Nat} (pass : Pass pattern data position middle)
      (rest : Passes pattern data count middle following) :
      Passes pattern data (count + 1) position following

namespace Passes

theorem trans {first second : Nat} (near : Passes pattern data first position middle)
    (far : Passes pattern data second middle following) :
    Passes pattern data (first + second) position following := by
  induction near with
  | none position => rwa [Nat.zero_add]
  | more pass rest ih =>
      rw [Nat.succ_add_eq_add_succ]
      exact .more pass (ih far)

theorem concat (passes : Passes pattern data count position middle)
    (pass : Pass pattern data middle following) :
    Passes pattern data (count + 1) position following :=
  passes.trans (.more pass (.none following))

/-- Passes that start in the data stay there. -/
theorem le_size (passes : Passes pattern data count position following)
    (inside : position ≤ data.size) : following ≤ data.size := by
  induction passes with
  | none position => exact inside
  | more pass rest ih => exact ih pass.le_size

/-- Every pass takes at least one position off those left before the end. -/
theorem count_add_le (passes : Passes pattern data count position following) :
    count + (pattern.searchEnd data - following) ≤ pattern.searchEnd data - position := by
  induction passes with
  | none position => omega
  | more pass rest ih =>
      have short := pass.lt_searchEnd
      have forwards := pass.lt_and_le.1
      omega

end Passes

/-- Seeking passes over windows. It ends with the pass over the one that matches, or where there
are no more windows. -/
theorem seek_passes (anchor : Anchor) (anchored : pattern.anchor = some anchor) (stop : Nat)
    (bound : stop = pattern.searchEnd data) (position : Nat) :
    match pattern.seek data anchor anchored stop bound position with
    | (some offset, reached) => ∃ count, Passes pattern data count position offset ∧
        Pass pattern data offset reached
    | (none, reached) => ∃ count, Passes pattern data count position reached ∧
        pattern.searchEnd data ≤ reached := by
  fun_induction seek pattern data anchor anchored stop bound position with
  | case1 position fits inside byte following matched =>
      -- The position moves on before the window is compared, so the match takes a whole pass too.
      exact ⟨0, .none position, .anchored anchored (bound ▸ fits)
        (Array.getElem?_eq_getElem inside)⟩
  | case2 position fits inside byte following unmatched ih =>
      have pass : Pass pattern data position following :=
        .anchored anchored (bound ▸ fits) (Array.getElem?_eq_getElem inside)
      generalize pattern.seek data anchor anchored stop bound following = outcome at ih ⊢
      split at ih
      · obtain ⟨count, passes, last⟩ := ih
        exact ⟨count + 1, .more pass passes, last⟩
      · obtain ⟨count, passes, past⟩ := ih
        exact ⟨count + 1, .more pass passes, past⟩
  | case3 position beyond =>
      exact ⟨0, .none position, bound ▸ Nat.le_of_not_lt beyond⟩

end Pattern

namespace Search

open Pattern

variable {pattern : Pattern} {data : Bytes}

theorem next_passes (search : Search pattern data) :
    match search.next with
    | (some offset, following) => ∃ count, Passes pattern data count search.position offset ∧
        Pass pattern data offset following.position
    | (none, following) => ∃ count, Passes pattern data count search.position following.position ∧
        pattern.searchEnd data ≤ following.position := by
  generalize outcome : search.next = result
  unfold next at outcome
  split at outcome
  · rename_i unanchored
    split at outcome
    · rename_i short
      subst outcome
      exact ⟨0, .none _, .blank unanchored short⟩
    · rename_i beyond
      subst outcome
      exact ⟨0, .none _, Nat.le_of_not_lt beyond⟩
  · rename_i anchor anchored
    subst outcome
    have passes := seek_passes anchor anchored (pattern.searchEnd data) rfl search.position
    generalize pattern.seek data anchor anchored _ _ search.position = reached at passes ⊢
    split at passes
    · exact passes
    · exact passes

/-- A search that goes on from another one after some passes. -/
def LeadsTo (search following : Search pattern data) : Prop :=
  ∃ count, Passes pattern data count search.position following.position

namespace LeadsTo

variable {search middle following : Search pattern data}

theorem refl (search : Search pattern data) : LeadsTo search search :=
  ⟨0, .none _⟩

theorem trans (near : LeadsTo search middle) (far : LeadsTo middle following) :
    LeadsTo search following := by
  obtain ⟨first, nearPasses⟩ := near
  obtain ⟨second, farPasses⟩ := far
  exact ⟨first + second, nearPasses.trans farPasses⟩

end LeadsTo

theorem leadsTo_next (search : Search pattern data) : LeadsTo search search.next.2 := by
  have passes := search.next_passes
  split at passes
  · rename_i offset following step
    obtain ⟨count, before, last⟩ := passes
    rw [step]
    exact ⟨count + 1, before.concat last⟩
  · rename_i following step
    obtain ⟨count, before, -⟩ := passes
    rw [step]
    exact ⟨count, before⟩

theorem leadsTo_nth (count : Nat) (search : Search pattern data) :
    LeadsTo search (search.nth count).2 := by
  induction count generalizing search with
  | zero => exact search.leadsTo_next
  | succ count ih =>
      have near := search.leadsTo_next
      rw [nth]
      split
      · rename_i offset following step
        rw [step] at near
        exact near.trans (ih following)
      · rename_i following step
        rwa [step] at near

theorem leadsTo_takeOnto (found : Array Nat) (count : Nat) (search : Search pattern data) :
    LeadsTo search (search.takeOnto found count).2 := by
  induction count generalizing found search with
  | zero => exact LeadsTo.refl search
  | succ count ih =>
      have near := search.leadsTo_next
      rw [takeOnto]
      split
      · rename_i offset following step
        rw [step] at near
        exact near.trans (ih (found.push offset) following)
      · rename_i following step
        rwa [step] at near

theorem leadsTo_step (search : Search pattern data) (step : Step) :
    LeadsTo search (search.step step).2 := by
  cases step with
  | next => exact search.leadsTo_next
  | nth passed => exact search.leadsTo_nth passed
  | take count => exact search.leadsTo_takeOnto #[] count
  | bound => exact LeadsTo.refl search

theorem leadsTo_after (steps : List Step) (search : Search pattern data) :
    LeadsTo search (search.after steps) := by
  induction steps generalizing search with
  | nil => exact LeadsTo.refl search
  | cons step rest ih => exact (search.leadsTo_step step).trans (ih _)

theorem position_after_start_le (pattern : Pattern) (data : Bytes) (steps : List Step) :
    ((start pattern data).after steps).position ≤ data.size := by
  obtain ⟨count, passes⟩ := leadsTo_after steps (start pattern data)
  exact passes.le_size (Nat.zero_le _)

/-- Whatever a search was asked for before, its position is inside the data or at their end. The
next occurrence is found by passes that end with the one over its window, and without one they end
where the pattern no longer fits. Passes from there on never leave the data and are no more than
there are positions before the end. None of them lacks the byte under the anchor or any other byte
of its window, none moves on past the last 64-bit word, and each comes nearer to the end. -/
theorem search_ends_inside_data (pattern : Pattern) (data : Bytes) (small : data.size < 2 ^ 63)
    (before : List Step) :
    let search := (start pattern data).after before
    let stop := pattern.searchEnd data
    search.position ≤ data.size ∧
    (match search.next with
      | (some offset, following) => ∃ count, Passes pattern data count search.position offset ∧
          Pass pattern data offset following.position
      | (none, following) => ∃ count,
          Passes pattern data count search.position following.position ∧
          stop ≤ following.position) ∧
    ∀ count position, Passes pattern data count search.position position →
      position ≤ data.size ∧
      count + (stop - position) ≤ stop - search.position ∧
      (position < stop → ∃ following, Pass pattern data position following) ∧
      ∀ following, Pass pattern data position following →
        position + pattern.span ≤ data.size ∧
        (∀ anchor, pattern.anchor = some anchor → position + anchor.index < data.size) ∧
        following < 2 ^ 64 ∧
        stop - following < stop - position := by
  intro search stop
  have inside : search.position ≤ data.size := position_after_start_le pattern data before
  refine ⟨inside, search.next_passes, fun count position passes => ?_⟩
  refine ⟨passes.le_size inside, passes.count_add_le, Pass.exists_of_lt, fun following pass => ?_⟩
  have window := pass.add_span_le
  refine ⟨window, fun anchor anchored => ?_, ?_, ?_⟩
  · have := anchor_index_lt anchored
    omega
  · have := pass.le_size
    omega
  · exact Nat.sub_lt_sub_left pass.lt_searchEnd pass.lt_and_le.1

/-- A pattern of two bytes has four windows in five bytes. A search that has found the first
occurrence makes three passes at most, and in a single byte it makes none. -/
theorem at_most_three_passes_after_first :
    ∃ pattern, Pattern.ofTokens? [.fixed 0x90, .wildcard] = some pattern ∧
      ∃ (short long : Bytes), short = #[0x90] ∧ long = #[0x90, 0x90, 0x00, 0x90, 0x90] ∧
        short.size < 2 ^ 63 ∧ long.size < 2 ^ 63 ∧
        (∀ count position, Passes pattern short count 0 position → count = 0) ∧
        ((start pattern long).after [.next]).position = 1 ∧
        ∀ count position, Passes pattern long count 1 position → count ≤ 3 := by
  let pattern : Pattern :=
    ⟨[.fixed 0x90, .wildcard], some ⟨0, 0x90⟩, _, by decide, rfl, rfl⟩
  let short : Bytes := #[0x90]
  let long : Bytes := #[0x90, 0x90, 0x00, 0x90, 0x90]
  have shortSmall : short.size < 2 ^ 63 := by decide
  have longSmall : long.size < 2 ^ 63 := by decide
  have one : ((start pattern long).after [.next]).position = 1 := by
    decide +kernel
  refine ⟨pattern, rfl, short, long, rfl, rfl, shortSmall, longSmall, ?_, one, ?_⟩
  · intro count position passes
    have bound := ((search_ends_inside_data pattern short shortSmall []).2.2 count position
      passes).2.1
    have noWindow : pattern.searchEnd short = 0 := rfl
    rw [noWindow, Nat.zero_sub, Nat.zero_sub] at bound
    exact Nat.eq_zero_of_le_zero bound
  · intro count position passes
    have bound := ((search_ends_inside_data pattern long longSmall [.next]).2.2 count position
      (one.symm ▸ passes)).2.1
    have fourWindows : pattern.searchEnd long = 4 := rfl
    rw [one, fourWindows] at bound
    omega

end Search

end BytePattern
