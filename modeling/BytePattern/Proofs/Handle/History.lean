import BytePattern.HandleTable
import BytePattern.Proofs.Pattern.Searching
import Mathlib.Data.List.Induction

/-!
# Histories of handles

What a call answers depends on the calls before it in a way that can be said without a table. A
handle is live for a pattern if one of these calls parsed a text of the pattern into it and none of
the later ones freed it, whatever they did with other handles. The table that a history leaves
behind has exactly the live handles, which is shown call by call from the last one backwards.
-/

namespace BytePattern.HandleTable

/-- Whether the bytes before the first zero byte are a text in UTF-8 that compiles to a pattern. -/
def BytesSpell (bytes : Bytes) (pattern : Pattern) : Prop :=
  ∃ text, bytes.takeWhile (· != 0) = Text.encode text ∧ Pattern.compile text = .ok pattern

theorem patternOfBytes?_eq_some_iff {bytes : Bytes} {pattern : Pattern} :
    patternOfBytes? bytes = some pattern ↔ BytesSpell bytes pattern := by
  simp only [patternOfBytes?, BytesSpell, Option.bind_eq_bind, Option.bind_eq_some_iff,
    Text.decode?_eq_some_iff, Except.toOption]
  constructor
  · rintro ⟨text, encoded, compiled⟩
    split at compiled
    · rename_i found
      exact ⟨text, encoded, found.trans (congrArg Except.ok (Option.some.inj compiled))⟩
    · cases compiled
  · rintro ⟨text, encoded, compiled⟩
    exact ⟨text, encoded, by rw [compiled]⟩

/-! ### What one call does to the table -/

variable {table : HandleTable} {handle : Nat} {pattern : Pattern}

theorem lt_of_pattern?_eq_some (found : table.pattern? handle = some pattern) :
    handle < table.patterns.length := by
  by_contra outside
  rw [pattern?, List.getElem?_eq_none (Nat.le_of_not_lt outside)] at found
  cases found

theorem pattern?_parse (table : HandleTable) (text : Option Bytes) (handle : Nat) :
    (table.parse text).pattern? handle =
      if handle = table.patterns.length then text.bind patternOfBytes?
      else table.pattern? handle := by
  split
  · rename_i last
    rw [pattern?, parse, last, List.getElem?_concat_length]
    rfl
  · rename_i other
    rcases Nat.lt_or_gt_of_ne other with before | behind
    · rw [pattern?, parse, List.getElem?_append_left before]
      rfl
    · rw [pattern?, pattern?, parse, List.getElem?_eq_none (by simp; omega),
        List.getElem?_eq_none (Nat.le_of_lt behind)]

theorem pattern?_free (table : HandleTable) (freed handle : Nat) :
    (table.free freed).pattern? handle =
      if handle = freed then none else table.pattern? handle := by
  split
  · rename_i same
    rw [pattern?, free, same, List.getElem?_set_self']
    cases table.patterns[freed]? <;> rfl
  · rename_i other
    rw [pattern?, free, List.getElem?_set_ne (Ne.symm other)]
    rfl

/-- Offsets are written as long as there are both offsets and slots; the slots behind them stay as
they are. -/
theorem scan_of_pattern?_eq_some {data : Bytes} {length limit : Nat} {slots : List (Option Nat)}
    (found : table.pattern? handle = some pattern) (room : limit ≤ slots.length) :
    let offsets := pattern.occurrences (data.extract 0 length)
    let count := min limit offsets.length
    table.scan (some handle) (some data) length true limit slots =
      (count, (offsets.take count).map some ++ slots.drop count) := by
  intro offsets count
  have capacity : (slots.take limit).length = limit := List.length_take_of_le room
  have bounded : count ≤ limit := Nat.min_le_left _ _
  have untouched : (slots.take limit).drop count ++ slots.drop limit = slots.drop count := by
    rw [← List.drop_append_of_le_length (by rwa [capacity]), List.take_append_drop]
  simp only [scan, Option.bind_some, found]
  split
  · rw [Pattern.scanInto_eq, capacity, List.append_assoc, untouched]
  · rename_i stopped
    -- No slot is asked for or no byte is looked at, so the limit or the occurrences are none.
    have nothing : count = 0 := by
      rcases (by simpa [imp_iff_not_or] using stopped : limit = 0 ∨ length = 0) with rfl | rfl
      · exact Nat.zero_min _
      · have noBytes : offsets = [] := by simp [offsets, Pattern.occurrences]
        rw [show count = min limit offsets.length from rfl, noBytes]
        exact Nat.min_zero _
    rw [nothing]
    rfl

theorem scan_of_idle {handle : Option Nat} {data : Option Bytes} {length limit : Nat}
    {writable : Bool} {slots : List (Option Nat)}
    (idle : handle.bind table.pattern? = none ∨ data = none ∨ length = 0 ∨ writable = false ∨
      limit = 0) :
    table.scan handle data length writable limit slots = (0, slots) := by
  unfold scan
  split
  · rename_i pattern bytes live
    simp only [live, reduceCtorEq, false_or] at idle
    rw [if_neg]
    rcases idle with rfl | rfl | rfl <;> simp
  · rfl

/-! ### Histories -/

def Call.isParse : Call → Bool
  | .parse _ => true
  | _ => false

/-- How many handles the calls have asked for; the next one to be handed out has this number. -/
def handedOut (history : List Call) : Nat :=
  history.countP Call.isParse

/-- Whether a handle stands for a pattern after the calls of a history: one of them parsed the
pattern into it, and none of the later ones freed it. -/
def LiveAfter (history : List Call) (handle : Nat) (pattern : Pattern) : Prop :=
  ∃ before bytes later, history = before ++ .parse (some bytes) :: later ∧
    handedOut before = handle ∧ BytesSpell bytes pattern ∧ .free (some handle) ∉ later

theorem not_liveAfter_nil : ¬ LiveAfter [] handle pattern := by
  rintro ⟨before, bytes, later, split, -⟩
  cases before <;> cases split

/-- The last call of a history makes one handle live or none, and leaves those live that it does
not free. -/
theorem liveAfter_concat_iff {history : List Call} {call : Call} :
    LiveAfter (history ++ [call]) handle pattern ↔
      (LiveAfter history handle pattern ∧ call ≠ .free (some handle)) ∨
      ∃ bytes, call = .parse (some bytes) ∧ handedOut history = handle ∧
        BytesSpell bytes pattern := by
  constructor
  · rintro ⟨before, bytes, later, split, number, spells, kept⟩
    rcases List.eq_nil_or_concat later with rfl | ⟨rest, last, rfl⟩
    · obtain ⟨rfl, same⟩ := List.append_inj' split rfl
      exact Or.inr ⟨bytes, List.head_eq_of_cons_eq same, number, spells⟩
    · rw [List.concat_eq_append] at split kept
      rw [← List.cons_append, ← List.append_assoc] at split
      obtain ⟨rfl, same⟩ := List.append_inj' split rfl
      obtain rfl := List.head_eq_of_cons_eq same
      rw [List.mem_append, List.mem_singleton, not_or] at kept
      exact Or.inl ⟨⟨before, bytes, rest, rfl, number, spells, kept.1⟩, Ne.symm kept.2⟩
  · rintro (⟨⟨before, bytes, later, rfl, number, spells, kept⟩, notFreed⟩ |
      ⟨bytes, rfl, number, spells⟩)
    · refine ⟨before, bytes, later ++ [call], by simp, number, spells, ?_⟩
      rw [List.mem_append, List.mem_singleton, not_or]
      exact ⟨kept, Ne.symm notFreed⟩
    · exact ⟨history, bytes, [], rfl, number, spells, List.not_mem_nil⟩

/-- The table that a history leaves behind. -/
def tableAfter (history : List Call) : HandleTable :=
  (performAll empty history).2

theorem performAll_cons (table : HandleTable) (call : Call) (rest : List Call) :
    table.performAll (call :: rest) =
      ((table.perform call).1 :: ((table.perform call).2.performAll rest).1,
        ((table.perform call).2.performAll rest).2) := rfl

theorem performAll_append (table : HandleTable) (first second : List Call) :
    table.performAll (first ++ second) =
      ((table.performAll first).1 ++ ((table.performAll first).2.performAll second).1,
        ((table.performAll first).2.performAll second).2) := by
  induction first generalizing table with
  | nil => rfl
  | cons call rest ih =>
      rw [List.cons_append, performAll_cons, performAll_cons, ih]
      rfl

@[simp] theorem tableAfter_nil : tableAfter [] = empty := rfl

@[simp] theorem tableAfter_concat (history : List Call) (call : Call) :
    tableAfter (history ++ [call]) = ((tableAfter history).perform call).2 := by
  rw [tableAfter, performAll_append]
  rfl

theorem length_performAll (table : HandleTable) (calls : List Call) :
    (table.performAll calls).1.length = calls.length := by
  induction calls generalizing table with
  | nil => rfl
  | cons call rest ih => exact congrArg Nat.succ (ih _)

theorem getElem?_performAll (before : List Call) (call : Call) (later : List Call) :
    (performAll empty (before ++ call :: later)).1[before.length]? =
      some ((tableAfter before).perform call).1 := by
  rw [performAll_append, List.getElem?_append_right (Nat.le_of_eq (length_performAll _ _)),
    length_performAll, Nat.sub_self]
  rfl

/-- Every call for a handle takes one place in the table, also one that is refused. -/
theorem length_patterns_tableAfter (history : List Call) :
    (tableAfter history).patterns.length = handedOut history := by
  induction history using List.reverseRecOn with
  | nil => rfl
  | append_singleton history call ih =>
      rw [tableAfter_concat, handedOut, List.countP_append, ← handedOut, ← ih]
      cases call with
      | parse text => simp [perform, parse, Call.isParse]
      | free handle => cases handle <;> simp [perform, free, Call.isParse]
      | scan handle data length writable limit slots => simp [perform, Call.isParse]

/-- The handles of the table are the live ones. -/
theorem pattern?_tableAfter_iff {history : List Call} :
    (tableAfter history).pattern? handle = some pattern ↔ LiveAfter history handle pattern := by
  induction history using List.reverseRecOn with
  | nil => exact iff_of_false (by simp [pattern?, empty]) not_liveAfter_nil
  | append_singleton history call ih =>
      rw [liveAfter_concat_iff, ← ih, tableAfter_concat]
      cases call with
      | parse text =>
          -- The next handle is behind all entries, so handing it out takes over no live one.
          have fresh : (tableAfter history).pattern? (handedOut history) ≠ some pattern := by
            intro found
            have inside := lt_of_pattern?_eq_some found
            rw [length_patterns_tableAfter] at inside
            exact Nat.lt_irrefl _ inside
          rw [perform, pattern?_parse, length_patterns_tableAfter]
          split
          · rename_i next
            simp [next, fresh, Option.bind_eq_some_iff, patternOfBytes?_eq_some_iff]
          · rename_i other
            simp [Ne.symm other]
      | free freed =>
          cases freed with
          | none => simp [perform]
          | some freed =>
              rw [perform, pattern?_free]
              split
              · rename_i same
                simp [same]
              · rename_i other
                simp [Ne.symm other]
      | scan scanned data length writable limit slots => simp [perform]

/-! ### What calls answer -/

/-- What the caller of a scan promises: the data has the bytes that are to be scanned, and there
are as many slots as may be written. -/
def Call.Permitted : Call → Prop
  | .scan _ data length writable limit slots =>
    (∀ bytes ∈ data, length ≤ bytes.size) ∧ (writable = true → limit ≤ slots.length)
  | _ => True

/-- What a call after a history is to answer. -/
inductive Answers (history : List Call) : Call → Answer → Prop
  | parsed {bytes : Bytes} {pattern : Pattern} (spells : BytesSpell bytes pattern) :
      Answers history (.parse (some bytes)) (.parsed (some (handedOut history)))
  | refused {text : Option Bytes}
      (unspelled : ∀ bytes ∈ text, ∀ pattern, ¬ BytesSpell bytes pattern) :
      Answers history (.parse text) (.parsed .none)
  | freed {handle : Option Nat} : Answers history (.free handle) .freed
  | scanned {handle length limit count : Nat} {pattern : Pattern} {data : Bytes}
      {slots : List (Option Nat)} {offsets : List Nat} (live : LiveAfter history handle pattern)
      (found : offsets = pattern.occurrences (data.extract 0 length))
      (counted : count = min limit offsets.length) :
      Answers history (.scan (some handle) (some data) length true limit slots)
        (.scanned count ((offsets.take count).map some ++ slots.drop count))
  | idle {handle : Option Nat} {data : Option Bytes} {length limit : Nat} {writable : Bool}
      {slots : List (Option Nat)}
      (idle : (∀ live ∈ handle, ∀ pattern, ¬ LiveAfter history live pattern) ∨
        data = none ∨ length = 0 ∨ writable = false ∨ limit = 0) :
      Answers history (.scan handle data length writable limit slots) (.scanned 0 slots)

theorem answers_perform {history : List Call} {call : Call} (permitted : call.Permitted) :
    Answers history call ((tableAfter history).perform call).1 := by
  cases call with
  | parse text =>
      have entry := pattern?_parse (tableAfter history) text (tableAfter history).patterns.length
      rw [if_pos rfl] at entry
      rw [perform, entry]
      cases spelled : text.bind patternOfBytes? with
      | none =>
          refine .refused ?_
          intro bytes given pattern spells
          obtain rfl := Option.mem_def.1 given
          rw [Option.bind_some, patternOfBytes?_eq_some_iff.2 spells] at spelled
          cases spelled
      | some pattern =>
          obtain ⟨bytes, rfl, spells⟩ := Option.bind_eq_some_iff.1 spelled
          rw [Option.map_some, length_patterns_tableAfter]
          exact .parsed (patternOfBytes?_eq_some_iff.1 spells)
  | free handle => cases handle <;> exact .freed
  | scan handle data length writable limit slots =>
      cases bound : handle.bind (tableAfter history).pattern? with
      | none =>
          rw [perform, scan_of_idle (Or.inl bound)]
          refine .idle (Or.inl ?_)
          intro number given pattern live
          obtain rfl := Option.mem_def.1 given
          rw [Option.bind_some, pattern?_tableAfter_iff.2 live] at bound
          cases bound
      | some pattern =>
          obtain ⟨number, rfl, found⟩ := Option.bind_eq_some_iff.1 bound
          cases data with
          | none =>
              rw [perform, scan_of_idle (Or.inr (Or.inl rfl))]
              exact .idle (Or.inr (Or.inl rfl))
          | some bytes =>
              cases writable with
              | false =>
                  have idle : length = 0 ∨ false = false ∨ limit = 0 := Or.inr (Or.inl rfl)
                  rw [perform, scan_of_idle (Or.inr (Or.inr idle))]
                  exact .idle (Or.inr (Or.inr idle))
              | true =>
                  rw [perform, scan_of_pattern?_eq_some found (permitted.2 rfl)]
                  exact .scanned (pattern?_tableAfter_iff.1 found) rfl rfl

/-- Handles work as their callers are told. However calls are mixed, each of them is answered, and
by what the calls before it say: a text is parsed into a fresh handle exactly if it spells a
pattern, a scan lists the occurrences of the pattern that its own handle is live for, and a scan
without a live handle, data or slots leaves the slots alone. The handles with a pattern are always
the live ones; freeing a null handle changes nothing, and freeing another leaves all others. -/
theorem calls_are_answered_by_their_own_handles (calls : List Call)
    (permitted : ∀ call ∈ calls, call.Permitted) :
    (performAll empty calls).1.length = calls.length ∧
    (∀ before call later, calls = before ++ call :: later →
      ∃ answer, (performAll empty calls).1[before.length]? = some answer ∧
        Answers before call answer) ∧
    (∀ handle pattern, (performAll empty calls).2.pattern? handle = some pattern ↔
      LiveAfter calls handle pattern) ∧
    ∀ before freed later, calls = before ++ .free freed :: later →
      (freed = none → tableAfter (before ++ [.free freed]) = tableAfter before) ∧
      ∀ other, freed ≠ some other →
        (tableAfter (before ++ [.free freed])).pattern? other =
          (tableAfter before).pattern? other := by
  refine ⟨length_performAll _ _, ?_, fun _ _ => pattern?_tableAfter_iff, ?_⟩
  · rintro before call later rfl
    refine ⟨_, getElem?_performAll before call later, ?_⟩
    exact answers_perform (permitted call (List.mem_append_right _ List.mem_cons_self))
  · intro before freed later _
    rw [tableAfter_concat]
    cases freed with
    | none => exact ⟨fun _ => rfl, fun _ _ => rfl⟩
    | some freed =>
        refine ⟨nofun, fun other notFreed => ?_⟩
        rw [perform, pattern?_free, if_neg]
        rintro rfl
        exact notFreed rfl

/-- Two of three texts are patterns. The first handle is scanned while the other is live; once it
has been freed, a scan with it leaves the slots alone and the other one still finds its bytes. -/
theorem scans_around_a_freed_handle :
    let before : List Call := [
      .parse (some #[0x41, 0x41, 0x20, 0x3F, 0x20, 0x43, 0x43, 0]), .parse (some #[0x5A, 0]),
      .parse (some #[0x41, 0x41]), .free none,
      .scan (some 0) (some #[0xAA, 1, 0xCC, 0xAA, 2, 0xCC]) 6 true 2 [none, none, some 7],
      .free (some 0),
      .scan (some 0) (some #[0xAA, 1, 0xCC, 0xAA, 2, 0xCC]) 6 true 2 [none, none, some 7]]
    let call : Call := .scan (some 2) (some #[0xAA, 1, 0xCC, 0xAA]) 3 true 2 [none, none, some 7]
    (∀ each ∈ before ++ [call], each.Permitted) ∧
    (performAll empty (before ++ [call])).1 = [
      .parsed (some 0), .parsed none, .parsed (some 2), .freed,
      .scanned 2 [some 0, some 3, some 7], .freed, .scanned 0 [none, none, some 7],
      .scanned 1 [some 0, none, some 7]] ∧
    Answers before call (.scanned 1 [some 0, none, some 7]) := by
  intro before call
  have permitted : ∀ each ∈ before ++ [call], each.Permitted := by
    simp [before, call, Call.Permitted]
  have answers : (performAll empty (before ++ [call])).1 = [
      .parsed (some 0), .parsed none, .parsed (some 2), .freed,
      .scanned 2 [some 0, some 3, some 7], .freed, .scanned 0 [none, none, some 7],
      .scanned 1 [some 0, none, some 7]] := by
    decide +kernel
  obtain ⟨answer, last, answered⟩ :=
    (calls_are_answered_by_their_own_handles _ permitted).2.1 before call [] rfl
  rw [answers] at last
  obtain rfl := Option.some.inj last
  exact ⟨permitted, answers, answered⟩

end BytePattern.HandleTable
