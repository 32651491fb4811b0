import BytePattern.Image.Loading
import BytePattern.Proofs.Scan.Scanning
import BytePattern.Proofs.Traversal

/-!
# What loading an image gives

A file is either cut into all the entries that have bytes, each of which lies inside it, or the
first entry that does not is the fault. So every segment of an image has its own bytes of the file,
and the addresses that a scan lists are those of the matches in these bytes. Nothing of this depends
on how the entries were found: they may overlap, reach past the last address, or be anything else
that numbers of 64 bits can say.
-/

namespace BytePattern

namespace SegmentEntry

/-- Whether an entry has bytes, but some of them are behind the end of the file, or even behind all
places that have a number. -/
def Outside (fileSize : Nat) (entry : SegmentEntry) : Prop :=
  entry.size ≠ 0 ∧
    (addressLimit ≤ entry.offset.toNat + entry.size.toNat ∨
      fileSize < entry.offset.toNat + entry.size.toNat)

instance (fileSize : Nat) : DecidablePred (Outside fileSize) :=
  fun _ => inferInstanceAs (Decidable (_ ∧ _))

theorem outside_iff {fileSize : Nat} {entry : SegmentEntry} (small : fileSize < addressLimit) :
    entry.Outside fileSize ↔ entry.hasBytes = true ∧ ¬ entry.Inside fileSize := by
  simp only [Outside, hasBytes, Inside, bne_iff_ne, Nat.not_le]
  constructor
  · rintro ⟨nonempty, behind⟩
    exact ⟨nonempty, by omega⟩
  · rintro ⟨nonempty, behind⟩
    exact ⟨nonempty, Or.inr behind⟩

end SegmentEntry

namespace Pe.Section

/-- Whether an entry is a section at its address, the image base being added. -/
structure PlacedAt (base : UInt64) (part : Section) (entry : SegmentEntry) : Prop where
  name : entry.name = part.name
  address : entry.address.toNat = base.toNat + part.relative.toNat
  offset : entry.offset = part.offset
  size : entry.size = part.size

theorem rebase_eq_ok_iff {base : UInt64} {part : Section} {entry : SegmentEntry} :
    rebase base part = .ok entry ↔ part.PlacedAt base entry := by
  constructor
  · intro placed
    unfold rebase at placed
    split at placed
    · rename_i address found
      cases placed
      exact ⟨rfl, (addressAt?_eq_some_iff.1 found).symm, rfl, rfl⟩
    · cases placed
  · rintro ⟨sameName, placed, sameOffset, sameSize⟩
    rw [rebase, addressAt?_eq_some_iff.2 placed.symm]
    obtain ⟨name, address, offset, size⟩ := entry
    cases sameName
    cases sameOffset
    cases sameSize
    rfl

theorem rebase_eq_error_iff {base : UInt64} {part : Section} {fault : ImageError} :
    rebase base part = .error fault ↔
      addressLimit ≤ base.toNat + part.relative.toNat ∧
        fault = .addressOverflow part.name base part.relative := by
  constructor
  · intro failed
    unfold rebase at failed
    split at failed
    · cases failed
    · rename_i missing
      cases failed
      exact ⟨addressAt?_eq_none_iff.1 missing, rfl⟩
  · rintro ⟨behind, rfl⟩
    rw [rebase, addressAt?_eq_none_iff.2 behind]

theorem exists_rebase_iff {base : UInt64} {part : Section} :
    (∃ entry, rebase base part = .ok entry) ↔
      base.toNat + part.relative.toNat < addressLimit := by
  cases placed : rebase base part with
  | ok entry =>
      have address := (rebase_eq_ok_iff.1 placed).address
      have below := entry.address.toNat_lt
      unfold addressLimit
      exact iff_of_true ⟨entry, rfl⟩ (by omega)
  | error fault =>
      have behind := (rebase_eq_error_iff.1 placed).1
      exact iff_of_false (by simp) (Nat.not_lt.2 behind)

end Pe.Section

namespace Image

variable {file : Bytes} {format : ImageFormat} {entries : List SegmentEntry}

/-- What cutting a file into entries gives: the first entry outside is to blame, or all entries with
bytes are kept. -/
inductive Cuts (file : Bytes) (format : ImageFormat) (entries : List SegmentEntry) :
    Except ImageError Image → Prop
  | outside {valid rest : List SegmentEntry} {bad : SegmentEntry}
      (split : entries = valid ++ bad :: rest) (first : ∀ entry ∈ valid, ¬ entry.Outside file.size)
      (outside : bad.Outside file.size) :
      Cuts file format entries (.error (.segmentOutOfBounds bad.name bad.offset bad.size))
  | kept {image : Image} (all : ∀ entry ∈ entries, ¬ entry.Outside file.size)
      (sameFile : image.file = file) (sameFormat : image.format = format)
      (segments : image.segments = entries.filter fun entry => entry.size ≠ 0) :
      Cuts file format entries (.ok image)

theorem eq_of_parts {first second : Image} (files : first.file = second.file)
    (formats : first.format = second.format) (segments : first.segments = second.segments) :
    first = second := by
  obtain ⟨file, format, kept, inside⟩ := first
  cases files
  cases formats
  cases segments
  rfl

/-- Whether the entries without bytes are dropped before or after, the first one outside is the
same. -/
theorem find?_outside (entries : List SegmentEntry) {fileSize : Nat}
    (small : fileSize < addressLimit) :
    (entries.filter SegmentEntry.hasBytes).find? (fun entry => !decide (entry.Inside fileSize)) =
      entries.find? fun entry => entry.Outside fileSize := by
  rw [List.find?_filter]
  congr 1
  funext entry
  rw [decide_eq_decide, SegmentEntry.outside_iff small, Bool.not_eq_true', decide_eq_false_iff_not]

theorem find?_outside_eq_some_iff {fileSize : Nat} {bad : SegmentEntry} :
    (entries.find? fun entry => entry.Outside fileSize) = some bad ↔
      bad.Outside fileSize ∧ ∃ valid rest, entries = valid ++ bad :: rest ∧
        ∀ entry ∈ valid, ¬ entry.Outside fileSize := by
  simp only [List.find?_eq_some_iff_append, decide_eq_true_eq, Bool.not_eq_true',
    decide_eq_false_iff_not]

theorem find?_outside_eq_none_iff {fileSize : Nat} :
    (entries.find? fun entry => entry.Outside fileSize) = none ↔
      ∀ entry ∈ entries, ¬ entry.Outside fileSize := by
  simp only [List.find?_eq_none, decide_eq_true_eq]

theorem ofEntries_of_find?_eq_some {bad : SegmentEntry} (small : file.size < addressLimit)
    (found : (entries.find? fun entry => entry.Outside file.size) = some bad) :
    ofEntries file format entries =
      .error (.segmentOutOfBounds bad.name bad.offset bad.size) := by
  rw [← find?_outside entries small] at found
  unfold ofEntries
  dsimp only
  split
  · rename_i other fault
    rw [found] at fault
    cases fault
    rfl
  · rename_i fault
    rw [found] at fault
    cases fault

theorem exists_ofEntries_of_find?_eq_none (format : ImageFormat)
    (small : file.size < addressLimit)
    (clean : (entries.find? fun entry => entry.Outside file.size) = none) :
    ∃ image, ofEntries file format entries = .ok image ∧ image.file = file ∧
      image.format = format ∧ image.segments = entries.filter fun entry => entry.size ≠ 0 := by
  rw [← find?_outside entries small] at clean
  unfold ofEntries
  dsimp only
  split
  · rename_i other fault
    rw [clean] at fault
    cases fault
  · refine ⟨_, rfl, rfl, rfl, List.filter_congr fun entry _ => ?_⟩
    rw [Bool.eq_iff_iff, SegmentEntry.hasBytes, bne_iff_ne, decide_eq_true_eq]

theorem ofEntries_eq_iff_cuts {result : Except ImageError Image}
    (small : file.size < addressLimit) :
    ofEntries file format entries = result ↔ Cuts file format entries result := by
  constructor
  · rintro rfl
    cases found : entries.find? fun entry => entry.Outside file.size with
    | some bad =>
        obtain ⟨outside, valid, rest, split, first⟩ := find?_outside_eq_some_iff.1 found
        rw [ofEntries_of_find?_eq_some small found]
        exact .outside split first outside
    | none =>
        obtain ⟨image, cut, sameFile, sameFormat, segments⟩ :=
          exists_ofEntries_of_find?_eq_none format small found
        rw [cut]
        exact .kept (find?_outside_eq_none_iff.1 found) sameFile sameFormat segments
  · intro cuts
    cases cuts with
    | @outside valid rest bad split first outside =>
        exact ofEntries_of_find?_eq_some small
          (find?_outside_eq_some_iff.2 ⟨outside, valid, rest, split, first⟩)
    | @kept image all sameFile sameFormat segments =>
        obtain ⟨loaded, cut, loadedFile, loadedFormat, loadedSegments⟩ :=
          exists_ofEntries_of_find?_eq_none format small (find?_outside_eq_none_iff.2 all)
        rw [cut]
        exact congrArg Except.ok (eq_of_parts (loadedFile.trans sameFile.symm)
          (loadedFormat.trans sameFormat.symm) (loadedSegments.trans segments.symm))

/-- Whether segments are the whole file: one segment, or none if the file is empty. -/
structure AreWhole (file : Bytes) (segments : List SegmentEntry) : Prop where
  empty : file.size = 0 → segments = []
  single : file.size ≠ 0 →
    ∃ size : UInt64, size.toNat = file.size ∧ segments = [⟨"raw", 0, 0, size⟩]

theorem AreWhole.unique {first second : List SegmentEntry} (firstWhole : AreWhole file first)
    (secondWhole : AreWhole file second) : first = second := by
  by_cases noBytes : file.size = 0
  · rw [firstWhole.empty noBytes, secondWhole.empty noBytes]
  · obtain ⟨size, all, rfl⟩ := firstWhole.single noBytes
    obtain ⟨other, otherAll, rfl⟩ := secondWhole.single noBytes
    rw [UInt64.toNat_inj.1 (all.trans otherAll.symm)]

theorem AreWhole.size_ne_zero {segments : List SegmentEntry} (whole : AreWhole file segments) :
    ∀ segment ∈ segments, segment.size ≠ 0 := by
  intro segment member
  by_cases noBytes : file.size = 0
  · rw [whole.empty noBytes] at member
    cases member
  · obtain ⟨size, all, rfl⟩ := whole.single noBytes
    rw [List.mem_singleton] at member
    subst member
    rintro rfl
    exact noBytes all.symm

theorem areWhole_raw (small : file.size < addressLimit) : AreWhole file (raw file).segments where
  empty noBytes := if_pos noBytes
  single someBytes := ⟨_, UInt64.toNat_ofNat_of_lt' small, if_neg someBytes⟩

/-- What loading a file gives that is recognised as something. A file of no known format is one
segment that holds all of it, and so is one that is too short for any. -/
inductive Loads (file : Bytes) : Contents → Except ImageError Image → Prop
  | flat {contents : Contents} {image : Image}
      (unknown : file.size < 16 ∨ contents = .unknown)
      (sameFile : image.file = file) (rawFormat : image.format = .raw)
      (whole : AreWhole file image.segments) :
      Loads file contents (.ok image)
  | segments {format : ImageFormat} {entries : List SegmentEntry}
      {result : Except ImageError Image} (long : 16 ≤ file.size)
      (cuts : Cuts file format entries result) :
      Loads file (.segments format entries) result
  | sections {base : UInt64} {parts : List Pe.Section} {entries : List SegmentEntry}
      {result : Except ImageError Image} (long : 16 ≤ file.size)
      (placed : List.Forall₂ (Pe.Section.PlacedAt base) parts entries)
      (cuts : Cuts file .pe entries result) :
      Loads file (.sections base parts) result
  | overflow {base : UInt64} {parts valid rest : List Pe.Section} {bad : Pe.Section}
      (long : 16 ≤ file.size) (split : parts = valid ++ bad :: rest)
      (first : ∀ part ∈ valid, base.toNat + part.relative.toNat < addressLimit)
      (overflows : addressLimit ≤ base.toNat + bad.relative.toNat) :
      Loads file (.sections base parts)
        (.error (.addressOverflow bad.name base bad.relative))

theorem loads_raw {contents : Contents} (small : file.size < addressLimit)
    (unknown : file.size < 16 ∨ contents = .unknown) : Loads file contents (.ok (raw file)) :=
  .flat unknown rfl rfl (areWhole_raw small)

theorem eq_raw_of_areWhole {image : Image} (small : file.size < addressLimit)
    (sameFile : image.file = file) (rawFormat : image.format = .raw)
    (whole : AreWhole file image.segments) : raw file = image :=
  eq_of_parts sameFile.symm rawFormat.symm ((areWhole_raw small).unique whole)

theorem loads_ofContents (contents : Contents) (small : file.size < addressLimit)
    (long : 16 ≤ file.size) : Loads file contents (ofContents file contents) := by
  cases contents with
  | segments format entries => exact .segments long ((ofEntries_eq_iff_cuts small).1 rfl)
  | sections base parts =>
      rw [ofContents]
      cases placed : parts.mapM (Pe.Section.rebase base) with
      | ok entries =>
          have rebased := Traversal.mapM_eq_ok_iff.1 placed
          refine .sections long ?_ ((ofEntries_eq_iff_cuts small).1 rfl)
          exact rebased.imp fun _ _ => Pe.Section.rebase_eq_ok_iff.1
      | error fault =>
          obtain ⟨valid, bad, rest, split, first, failed⟩ := Traversal.mapM_eq_error_iff.1 placed
          obtain ⟨overflows, rfl⟩ := Pe.Section.rebase_eq_error_iff.1 failed
          refine .overflow long split ?_ overflows
          exact fun part member => Pe.Section.exists_rebase_iff.1 (first part member)
  | unknown => exact loads_raw small (Or.inr rfl)

theorem Loads.ofContents_eq {contents : Contents} {result : Except ImageError Image}
    (loads : Loads file contents result) (small : file.size < addressLimit)
    (long : 16 ≤ file.size) : ofContents file contents = result := by
  cases loads with
  | flat unknown sameFile rawFormat whole =>
      rcases unknown with short | rfl
      · omega
      · exact congrArg Except.ok (eq_raw_of_areWhole small sameFile rawFormat whole)
  | segments _ cuts => exact (ofEntries_eq_iff_cuts small).2 cuts
  | @sections base parts entries result _ placed cuts =>
      have rebased := placed.imp fun _ _ => Pe.Section.rebase_eq_ok_iff.2
      rw [ofContents, Traversal.mapM_eq_ok_iff.2 rebased]
      exact (ofEntries_eq_iff_cuts small).2 cuts
  | @overflow base parts valid rest bad _ split first overflows =>
      have failed := Pe.Section.rebase_eq_error_iff.2 ⟨overflows, rfl⟩
      rw [ofContents, Traversal.mapM_eq_error_iff.2 ⟨valid, bad, rest, split, ?_, failed⟩]
      · rfl
      · exact fun part member => Pe.Section.exists_rebase_iff.2 (first part member)

theorem loadWith_eq_iff_loads {recognize : Bytes → Contents} {result : Except ImageError Image}
    (small : file.size < addressLimit) :
    loadWith recognize file = result ↔ Loads file (recognize file) result := by
  unfold loadWith minimumSize
  generalize recognize file = contents
  split
  · rename_i short
    constructor
    · rintro rfl
      exact loads_raw small (Or.inl short)
    · intro loads
      cases loads with
      | flat _ sameFile rawFormat whole =>
          exact congrArg Except.ok (eq_raw_of_areWhole small sameFile rawFormat whole)
      | segments long _ => omega
      | sections long _ _ => omega
      | overflow long _ _ _ => omega
  · rename_i notShort
    constructor
    · rintro rfl
      exact loads_ofContents _ small (Nat.le_of_not_lt notShort)
    · intro loads
      exact loads.ofContents_eq small (Nat.le_of_not_lt notShort)

theorem Cuts.image_spec {image : Image} (cuts : Cuts file format entries (.ok image)) :
    image.file = file ∧ ∀ segment ∈ image.segments, segment.size ≠ 0 := by
  cases cuts with
  | kept _ sameFile _ segments =>
      refine ⟨sameFile, fun segment member => ?_⟩
      rw [segments, List.mem_filter, decide_eq_true_eq] at member
      exact member.2

theorem Loads.image_spec {contents : Contents} {image : Image}
    (loads : Loads file contents (.ok image)) :
    image.file = file ∧ ∀ segment ∈ image.segments, segment.size ≠ 0 := by
  cases loads with
  | flat _ sameFile _ whole => exact ⟨sameFile, whole.size_ne_zero⟩
  | segments _ cuts => exact cuts.image_spec
  | sections _ _ cuts => exact cuts.image_spec

/-! ### Regions and addresses -/

/-- Whether a region has the bytes of a segment and no others, at the address of the segment. -/
structure Shows (file : Bytes) (segment : SegmentEntry) (region : Region) : Prop where
  name : region.name = segment.name
  base : region.base = segment.address
  size : region.size = segment.size.toNat
  bytes : ∀ k < segment.size.toNat, region.bytes[k]? = file[segment.offset.toNat + k]?

theorem shows_region {segment : SegmentEntry} (inside : segment.Inside file.size) :
    Shows file segment (region file segment) where
  name := rfl
  base := rfl
  size := by
    unfold SegmentEntry.Inside at inside
    rw [Region.size, region, Array.size_extract, Nat.min_eq_left inside, Nat.add_sub_cancel_left]
  bytes k within := by
    unfold SegmentEntry.Inside at inside
    rw [region, Array.getElem?_extract, if_pos (by omega)]

theorem occursAt_region_iff {segment : SegmentEntry} {pattern : Pattern} {k : Nat}
    (inside : segment.Inside file.size) :
    pattern.OccursAt (region file segment).bytes k ↔
      k + pattern.span ≤ segment.size.toNat ∧
        pattern.OccursAt file (segment.offset.toNat + k) := by
  have size := (shows_region inside).size
  constructor
  · intro occurs
    have within : k + pattern.span ≤ segment.size.toNat := size ▸ occurs.1
    exact ⟨within, (Pattern.occursAt_extract_iff (by omega)).1 occurs⟩
  · rintro ⟨within, occurs⟩
    exact (Pattern.occursAt_extract_iff (by omega)).2 occurs

theorem mem_matchAddresses_regions_iff {image : Image} {pattern : Pattern} {address : UInt64} :
    address ∈ RegionScan.matchAddresses pattern image.regions ↔
      ∃ segment ∈ image.segments, ∃ k, k + pattern.span ≤ segment.size.toNat ∧
        pattern.OccursAt image.file (segment.offset.toNat + k) ∧
        segment.address.toNat + k = address.toNat := by
  rw [RegionScan.mem_matchAddresses_iff]
  constructor
  · rintro ⟨_, shown, k, matched, placed⟩
    obtain ⟨segment, member, rfl⟩ := List.mem_map.1 shown
    obtain ⟨within, occurs⟩ := (occursAt_region_iff (image.inside segment member)).1
      ((Pattern.matchesAt_iff_occursAt _ _ _).1 matched)
    exact ⟨segment, member, k, within, occurs, placed⟩
  · rintro ⟨segment, member, k, within, occurs, placed⟩
    refine ⟨_, List.mem_map.2 ⟨segment, member, rfl⟩, k, ?_, placed⟩
    rw [Pattern.matchesAt_iff_occursAt]
    exact (occursAt_region_iff (image.inside segment member)).2 ⟨within, occurs⟩

/-- Whatever a file is recognised as, loading it yields no segment with bytes outside the file, and
a scan of it reports the addresses at which its segments show the bytes that match. Entries are the
fault exactly if one with bytes does not lie inside the file, and the first such entry is named; a
section past the last address is a fault before that. Otherwise exactly the entries with bytes are
kept, in order, and what is not recognised is one segment. A scan lists the lowest of the addresses,
each once and in order, and all of them if the limit allows for as many. -/
theorem images_are_cut_inside_files_and_scanned_at_their_addresses
    (recognize : Bytes → Contents) (file : Bytes) (small : file.size < addressLimit) :
    (∀ result, loadWith recognize file = result ↔ Loads file (recognize file) result) ∧
    (∀ fault, loadWith recognize file = .error fault → ∀ settings pattern,
      scanFileWith recognize settings pattern file = .error fault) ∧
    ∀ image, loadWith recognize file = .ok image →
      (∀ segment ∈ image.segments, segment.size ≠ 0 ∧
        segment.offset.toNat + segment.size.toNat ≤ file.size) ∧
      List.Forall₂ (Shows file) image.segments image.regions ∧
      ∀ pattern : Pattern, ∃ all : List UInt64, all.Pairwise (· < ·) ∧
        (∀ address, address ∈ all ↔ ∃ segment ∈ image.segments, ∃ k,
          k + pattern.span ≤ segment.size.toNat ∧
          pattern.OccursAt file (segment.offset.toNat + k) ∧
          segment.address.toNat + k = address.toNat) ∧
        ∀ settings, scanFileWith recognize settings pattern file =
          .ok (all.take settings.maxResults.toNat) := by
  refine ⟨fun _ => loadWith_eq_iff_loads small, ?_, ?_⟩
  · intro fault failed settings pattern
    rw [scanFileWith, failed]
    rfl
  · intro image loaded
    obtain ⟨rfl, nonempty⟩ := ((loadWith_eq_iff_loads small).1 loaded).image_spec
    refine ⟨fun segment member => ⟨nonempty segment member, image.inside segment member⟩, ?_, ?_⟩
    · rw [regions, List.forall₂_map_right_iff, List.forall₂_same]
      exact fun segment member => shows_region (image.inside segment member)
    · intro pattern
      refine ⟨RegionScan.matchAddresses pattern image.regions,
        RegionScan.pairwise_lt_matchAddresses pattern image.regions,
        fun address => mem_matchAddresses_regions_iff, fun settings => ?_⟩
      rw [scanFileWith, loaded]
      exact congrArg Except.ok (RegionScan.scan_eq_take settings pattern image.regions)

/-- An ELF file with one segment that shows the whole file at 0x400000. -/
theorem scan_of_whole_elf_file :
    let file : Bytes := #[
      0x7F, 0x45, 0x4C, 0x46, 2, 1, 1, 0, 0, 0, 0, 0, 0, 0, 0, 0,
      2, 0, 0x3E, 0, 1, 0, 0, 0, 0x78, 0, 0x40, 0, 0, 0, 0, 0,
      64, 0, 0, 0, 0, 0, 0, 0, 0, 0, 0, 0, 0, 0, 0, 0,
      0, 0, 0, 0, 64, 0, 56, 0, 1, 0, 64, 0, 0, 0, 0, 0,
      1, 0, 0, 0, 5, 0, 0, 0, 0, 0, 0, 0, 0, 0, 0, 0,
      0, 0, 0x40, 0, 0, 0, 0, 0, 0, 0, 0x40, 0, 0, 0, 0, 0,
      124, 0, 0, 0, 0, 0, 0, 0, 124, 0, 0, 0, 0, 0, 0, 0,
      0, 0x10, 0, 0, 0, 0, 0, 0, 0xDE, 0xAD, 0xBE, 0xEF]
    let tokens : List Token := [.fixed 0xDE, .wildcard, .fixed 0xBE]
    let pattern : Pattern :=
      ⟨tokens, Anchor.ofTokens? tokens, ShiftTable.ofTokens tokens, by decide, rfl, rfl⟩
    file.size < addressLimit ∧
    Loads file (contents file) (loadWith contents file) ∧
    (loadWith contents file).toOption.map Image.segments = some [⟨"LOAD0", 0x400000, 0, 124⟩] ∧
    (scanFileWith contents { } pattern file).toOption = some [0x400078] := by
  intro file tokens pattern
  have small : file.size < addressLimit := by decide +kernel
  have loads := (images_are_cut_inside_files_and_scanned_at_their_addresses contents file small).1
  exact ⟨small, (loads _).1 rfl, by decide +kernel, by decide +kernel⟩

end Image

end BytePattern
