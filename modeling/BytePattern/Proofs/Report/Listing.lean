import BytePattern.Expression.Evaluation
import BytePattern.Proofs.Expression.Padding
import BytePattern.Proofs.Pattern.Canonical
import BytePattern.Proofs.Text.Address
import BytePattern.Report

/-!
# Printed addresses

An address is printed as a numeral with the mark `0x`. Such a numeral is an address for the command
line and an expression without operators, and both stand for the address that was printed. The
addresses of a report are its lines behind the first empty one: the header consists of lines of
plain characters, none of them empty, so it neither ends early nor reaches into the listing.
-/

namespace BytePattern

namespace Text

/-! ## Lines -/

/-- A line without the carriage return that belongs to the line break behind it. -/
def withoutReturn (line : List Char) : List Char :=
  if line.getLast? = some '\r' then line.dropLast else line

/-- The lines of a text. A line break ends a line, also one of a carriage return and a line feed;
what stands behind the last line break is a line too, unless it is empty. -/
def lines (text : String) : List String :=
  let pieces := text.toList.splitOn '\n'
  let unended := pieces.getLast?.filter (· ≠ [])
  (pieces.dropLast.map withoutReturn ++ unended.toList).map String.ofList

/-- A text of plain characters only, none of them below the space. -/
def IsPlain (text : String) : Prop :=
  ∀ c ∈ text.toList, ' ' ≤ c

-- The instance for quantifiers over all characters would enumerate them.
instance (text : String) : Decidable (IsPlain text) :=
  decidable_of_iff (text.toList.all fun c => decide (' ' ≤ c)) (by simp [IsPlain])

@[simp] theorem isPlain_append_iff {first second : String} :
    IsPlain (first ++ second) ↔ IsPlain first ∧ IsPlain second := by
  simp only [IsPlain, String.toList_append, List.forall_mem_append]

theorem IsPlain.lineBreak_notMem {text : String} (plain : IsPlain text) : '\n' ∉ text.toList :=
  fun member => absurd (plain _ member) (by decide)

theorem IsPlain.withoutReturn_eq {text : String} (plain : IsPlain text) :
    withoutReturn text.toList = text.toList := by
  rw [withoutReturn, if_neg]
  intro ends
  exact absurd (plain _ (List.mem_of_getLast? ends)) (by decide)

theorem le_of_isHexDigit {c : Char} (digit : IsHexDigit c) : ' ' ≤ c :=
  of_decide_eq_true (digit.all (fun c => decide (' ' ≤ c)) (by decide))

theorem isPlain_toString (number : Nat) : IsPlain (toString number) := by
  intro c member
  have written : (toString number).toList = Nat.toDigits 10 number := Nat.toList_repr
  rw [written] at member
  have digit := Nat.isDigit_of_mem_toDigits (by decide) (by decide) member
  simp only [Char.isDigit, Bool.and_eq_true, decide_eq_true_eq] at digit
  exact Char.le_trans (by decide) digit.1

theorem isPlain_address (value : UInt64) : IsPlain (address value) := by
  rw [address, isPlain_append_iff, hex]
  refine ⟨by decide, fun c member => ?_⟩
  rw [String.toList_ofList] at member
  exact le_of_isHexDigit ((hexDigits_spec .upper value.toNat).2.1 c member)

theorem isPlain_byteDigits (byte : UInt8) : IsPlain (String.ofList (byteDigits byte)) := by
  have inRange := byte.toNat_lt
  have high := (hexDigit_spec .upper (show byte.toNat / 16 < 16 by omega)).1
  have low := (hexDigit_spec .upper (show byte.toNat % 16 < 16 by omega)).1
  rw [IsPlain, String.toList_ofList]
  exact List.forall_mem_cons.2
    ⟨le_of_isHexDigit high, List.forall_mem_singleton.2 (le_of_isHexDigit low)⟩

theorem isPlain_intercalate {parts : List String} (plain : ∀ part ∈ parts, IsPlain part) :
    IsPlain (" ".intercalate parts) := by
  induction parts with
  | nil => decide
  | cons part rest ih =>
      obtain ⟨partPlain, restPlain⟩ := List.forall_mem_cons.1 plain
      cases rest with
      | nil => simpa using partPlain
      | cons next others =>
          rw [String.intercalate_cons_cons, isPlain_append_iff, isPlain_append_iff]
          exact ⟨⟨partPlain, by decide⟩, ih restPlain⟩

/-- Lines that are written with a line break behind each are joined by line breaks, with nothing
behind the last one. -/
theorem flatMap_append_lineBreak (runs : List (List Char)) :
    runs.flatMap (· ++ ['\n']) = ['\n'].intercalate (runs ++ [[]]) := by
  induction runs with
  | nil => rfl
  | cons run rest ih =>
      have nonempty : rest ++ [[]] ≠ [] := List.concat_ne_nil _ _
      obtain ⟨next, others, equal⟩ := List.exists_cons_of_ne_nil nonempty
      rw [List.flatMap_cons, ih, List.cons_append, equal, List.intercalate_cons_cons]

/-- Plain lines are read back from the text that they are written to. -/
theorem lines_ofLines {written : List String} (plain : ∀ line ∈ written, IsPlain line) :
    lines (Report.ofLines written) = written := by
  have text : (Report.ofLines written).toList =
      ['\n'].intercalate (written.map String.toList ++ [[]]) := by
    rw [Report.ofLines, String.toList_join, ← flatMap_append_lineBreak, List.flatMap_map,
      List.flatMap_map]
    simp only [String.toList_append]
    rfl
  have unbroken : ∀ run ∈ written.map String.toList ++ [[]], '\n' ∉ run := by
    rw [List.forall_mem_append, List.forall_mem_map]
    exact ⟨fun line member => (plain line member).lineBreak_notMem, by simp⟩
  have pieces : (Report.ofLines written).toList.splitOn '\n' =
      written.map String.toList ++ [[]] := by
    rw [text, List.splitOn_intercalate '\n' unbroken (by simp)]
  have kept : (written.map String.toList).map withoutReturn = written.map String.toList := by
    rw [List.map_map]
    exact List.map_congr_left fun line member => (plain line member).withoutReturn_eq
  calc lines (Report.ofLines written)
      = ((written.map String.toList).map withoutReturn ++ []).map String.ofList := by
        rw [lines, pieces, List.dropLast_concat, List.getLast?_concat]
        rfl
    _ = written := by
        rw [kept, List.append_nil, List.map_map]
        exact (List.map_congr_left fun line _ => String.ofList_toList).trans (List.map_id written)

theorem isPlain_spacedBytes (bytes : List UInt8) : IsPlain (spacedBytes bytes) :=
  isPlain_intercalate (List.forall_mem_map.2 fun byte _ => isPlain_byteDigits byte)

end Text

theorem Pattern.isPlain_text (pattern : Pattern) : Text.IsPlain pattern.text := by
  refine Text.isPlain_intercalate (List.forall_mem_map.2 fun token _ => ?_)
  cases token with
  | fixed byte => exact Text.isPlain_byteDigits byte
  | wildcard => decide

/-- The lines above the empty one are plain, and none of them is empty, whatever is reported. -/
theorem Report.isPlain_of_mem_header (report : Report) :
    ∀ line ∈ report.header, Text.IsPlain line ∧ line ≠ "" := by
  have interpolated (text : String) : toString text = text := rfl
  unfold header
  rw [List.forall_mem_append]
  constructor
  · refine List.forall_mem_cons.2 ⟨⟨?_, by simp⟩, List.forall_mem_singleton.2 ⟨?_, by simp⟩⟩
    · simp only [interpolated, Text.isPlain_append_iff, Text.isPlain_toString,
        report.pattern.isPlain_text, true_and, and_true]
      decide
    · simp only [interpolated, Text.isPlain_append_iff, Text.isPlain_toString,
        Text.isPlain_spacedBytes, and_true]
      decide
  · split
    · refine List.forall_mem_singleton.2 ⟨?_, by simp⟩
      simp only [interpolated, Text.isPlain_append_iff, Text.isPlain_toString, and_true]
      decide
    · exact List.forall_mem_nil _

theorem Report.lines_render (report : Report) :
    Text.lines (report.render .text) = report.header ++ "" :: report.results.map Text.address := by
  have plain : ∀ line ∈ report.lines, Text.IsPlain line := by
    rw [lines, List.forall_mem_append, List.forall_mem_append, List.forall_mem_map]
    exact ⟨⟨fun line member => (report.isPlain_of_mem_header line member).1,
      List.forall_mem_singleton.2 (by decide)⟩, fun address _ => Text.isPlain_address address⟩
  rw [render, Text.lines_ofLines plain, lines, List.append_assoc, List.singleton_append]

/-! ## Reading addresses back -/

namespace Expression

open Grammar

/-- A printed address is read as an expression that is nothing but this number. -/
theorem exists_read_address (address : UInt64) :
    ∃ expression, Expression.read (Text.address address) = .ok expression ∧
      expression.root = .number address := by
  have standsFor := standsFor_word (.number (Text.printedNumeral address))
  rw [Word.term, Text.hexNumber_printedNumeral, UInt64.ofNat_toNat] at standsFor
  let expression : Expression :=
    ⟨String.ofList (Text.trim (Text.address address).toList), .number address⟩
  refine ⟨expression, read_eq_ok_iff_standsFor.2 ⟨rfl, ?_⟩, rfl⟩
  rwa [Text.toList_address]

end Expression

/-- A text is read as an address, and as an expression that has this address as its value for every
match over all regions. -/
def ReadsAs (text : String) (address : UInt64) : Prop :=
  Text.readAddress? text.toList = some address ∧
    ∃ expression, Expression.read text = .ok expression ∧
      ∀ (here : UInt64) (regions : List Region), expression.evaluate here regions = .ok address

theorem readsAs_address (address : UInt64) : ReadsAs (Text.address address) address := by
  obtain ⟨⟨source, root⟩, read, rfl⟩ := Expression.exists_read_address address
  exact ⟨Text.readAddress?_eq_some_iff.2 (.inl (Text.isAddress_address address)), _, read,
    fun here regions => rfl⟩

/-- Every address that is printed reads back, on the command line and as an expression: that of a
resolved signature, and those of a report, which are exactly the lines behind its first empty one,
in the order of the results. -/
theorem printed_addresses_read_back :
    (∀ address : UInt64, ReadsAs (Resolution.resolved address).text address) ∧
    ∀ report : Report, ∃ listing,
      Text.lines (report.render .text) = report.header ++ "" :: listing ∧ "" ∉ report.header ∧
      List.Forall₂ ReadsAs listing report.results ∧
      listing.map (fun line => Text.readAddress? line.toList) = report.results.map some := by
  refine ⟨readsAs_address, fun report => ?_⟩
  refine ⟨report.results.map Text.address, report.lines_render, ?_, ?_, ?_⟩
  · exact fun empty => (report.isPlain_of_mem_header "" empty).2 rfl
  · rw [List.forall₂_map_left_iff, List.forall₂_same]
    exact fun address _ => readsAs_address address
  · rw [List.map_map]
    exact List.map_congr_left fun address _ => (readsAs_address address).1

end BytePattern
