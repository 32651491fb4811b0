import BytePattern.Proofs.Json.Decoding
import BytePattern.Settings.Loading
import BytePattern.Signature.Loading

/-!
# What is written in JSON is read back

Signature files and settings are written as JSON texts. Whatever lawful codec writes and reads them,
reading the text of a signature file gives the file back if it has any signatures, and reading the
text of settings gives them back if they are usable. The names of the fields agree on both sides;
absent texts are left out when they are written and are absent again when they are missing. Nothing
depends on the settings that would be taken for missing members, since none is missing.
-/

namespace BytePattern

open Json

/-- What is decoded for a field is put into its place. -/
theorem bind_of_ok {ε α β : Type} {decoded : Except ε α} {value : α}
    (success : decoded = .ok value) (place : α → Except ε β) :
    (decoded >>= place) = place value := by
  rw [success]
  rfl

section Codecs

variable {codec : Codec} {Holds : codec.Tree → Value → Prop}

namespace Signature

/-- What has been read of a signature when all members of its object have been taken. -/
def Draft.ofSignature (signature : Signature) : Draft where
  name := some signature.name
  category := some signature.category
  description := signature.description.map some
  pattern := some signature.pattern
  count := some signature.count
  index := some signature.index
  ops := signature.ops.map some

theorem Draft.finish?_ofSignature (signature : Signature) :
    (Draft.ofSignature signature).finish? = some signature := by
  obtain ⟨name, category, description, pattern, count, index, ops⟩ := signature
  cases description <;> cases ops <;> rfl

theorem forall_plain_optionalMember (name : String) (text : Option String) (depth : Nat) :
    ∀ member ∈ optionalMember name text, member.2.Plain depth := by
  cases text with
  | none => exact fun member absent => nomatch absent
  | some text => exact List.forall_mem_singleton.2 (.string text)

theorem plain_toJson (signature : Signature) (depth : Nat) :
    signature.toJson.Plain (depth + 1) := by
  refine .object ?_
  simp only [List.forall_mem_append, List.forall_mem_cons]
  exact ⟨⟨⟨⟨.string _, .string _, nofun⟩, forall_plain_optionalMember _ _ _⟩,
    .string _, .number _, .number _, nofun⟩, forall_plain_optionalMember _ _ _⟩

/-- An absent text leaves its field unset. -/
theorem takes_optionalMember {Tree Fault δ ρ : Type} {shape : RecordShape Tree Fault δ ρ}
    {Holds : Tree → Value → Prop} {draft : δ} {name : String} {field : Json.Field Tree Fault δ}
    (found : shape.field? name = some field) (unset : field.isSet draft = false)
    (set : Option String → δ) (absent : set none = draft)
    (decodes : ∀ (text : String) (tree : Tree), Holds tree (.string text) →
      field.decode tree draft = .ok (set (some text))) (text : Option String) :
    shape.Takes Holds draft (optionalMember name text) (set text) := by
  cases text with
  | none =>
      rw [absent]
      exact .nil
  | some text => exact .cons found unset (decodes text) .nil

section Reading

variable (lawful : codec.Lawful Holds)

include lawful

theorem nullable_string_of_holds {tree : codec.Tree} {text : String}
    (holds : Holds tree (.string text)) :
    codec.nullable codec.string tree = .ok (some text) :=
  lawful.nullable Value.noConfusion holds (lawful.string holds)

theorem variant_of_holds_category {category : Category} {tree : codec.Tree}
    (holds : Holds tree (.string category.text)) :
    codec.variant ([Category.function, .data].map fun category => (category.text, category)) tree =
      .ok category := by
  have known : ([Category.function, .data].map fun category =>
      (category.text, category)).lookup category.text = some category := by
    cases category <;> rfl
  exact lawful.variant known holds

/-- The members of a signature's object fill an empty draft with the signature. -/
theorem takes_members (signature : Signature) :
    (recordShape codec).Takes Holds {} ([("name", .string signature.name),
        ("category", .string signature.category.text)] ++
      optionalMember "description" signature.description ++
      [("pattern", .string signature.pattern), ("count", .number signature.count.toNat),
        ("index", .number signature.index.toNat)] ++
      optionalMember "ops" signature.ops) (.ofSignature signature) := by
  have heading : (recordShape codec).Takes Holds {} [("name", .string signature.name),
      ("category", .string signature.category.text)]
      { name := some signature.name, category := some signature.category } := by
    refine .cons rfl rfl (fun tree holds => bind_of_ok (lawful.string holds) _) ?_
    exact .cons rfl rfl (fun tree holds =>
      bind_of_ok (variant_of_holds_category lawful holds) _) .nil
  have description : (recordShape codec).Takes Holds
      { name := some signature.name, category := some signature.category }
      (optionalMember "description" signature.description)
      { name := some signature.name, category := some signature.category,
        description := signature.description.map some } :=
    takes_optionalMember rfl rfl
      (fun text => show Draft from {
        name := some signature.name
        category := some signature.category
        description := text.map some }) rfl
      (fun text tree holds => bind_of_ok (nullable_string_of_holds lawful holds) _) _
  have body : (recordShape codec).Takes Holds
      { name := some signature.name, category := some signature.category,
        description := signature.description.map some }
      [("pattern", .string signature.pattern), ("count", .number signature.count.toNat),
        ("index", .number signature.index.toNat)]
      { Draft.ofSignature signature with ops := none } := by
    refine .cons rfl rfl (fun tree holds => bind_of_ok (lawful.string holds) _) ?_
    refine .cons rfl rfl (fun tree holds => bind_of_ok (lawful.word holds) _) ?_
    exact .cons rfl rfl (fun tree holds => bind_of_ok (lawful.word holds) _) .nil
  have operations : (recordShape codec).Takes Holds { Draft.ofSignature signature with ops := none }
      (optionalMember "ops" signature.ops) (.ofSignature signature) :=
    takes_optionalMember rfl rfl
      (fun text => { Draft.ofSignature signature with ops := text.map some }) rfl
      (fun text tree holds => bind_of_ok (nullable_string_of_holds lawful holds) _) _
  exact ((heading.append description).append body).append operations

theorem ofJson_of_holds (signature : Signature) (tree : codec.Tree)
    (holds : Holds tree signature.toJson) : ofJson codec tree = .ok signature := by
  refine lawful.record (takes_members lawful signature) ?_ (Draft.finish?_ofSignature signature)
    holds
  simp [recordShape, Draft.ofSignature]

end Reading

end Signature

namespace SignatureFile

theorem plain_toJson (file : SignatureFile) (depth : Nat) : file.toJson.Plain (depth + 3) := by
  refine .object (List.forall_mem_singleton.2 (.array ?_))
  exact List.forall_mem_map.2 fun signature _ => signature.plain_toJson depth

section Reading

variable (lawful : codec.Lawful Holds)

include lawful

theorem takes_members (file : SignatureFile) :
    (recordShape codec).Takes Holds none
      [("signatures", .array (file.signatures.map Signature.toJson))] (some file.signatures) := by
  refine .cons rfl rfl (fun tree holds => bind_of_ok (lawful.list ?_ holds) _) .nil
  rw [List.forall₂_map_left_iff, List.forall₂_same]
  exact fun signature _ => Signature.ofJson_of_holds lawful signature

theorem ofJson_of_holds (file : SignatureFile) (tree : codec.Tree)
    (holds : Holds tree file.toJson) : ofJson codec tree = .ok file := by
  refine lawful.record (takes_members lawful file) ?_ rfl holds
  simp [recordShape]

theorem readJsonWith_write (file : SignatureFile) :
    readJsonWith codec (codec.write file.toJson) = file.check := by
  rw [readJsonWith, lawful.read_write (file.plain_toJson 124) (ofJson_of_holds lawful file)]

end Reading

theorem check_eq_ok_of_ne_nil {file : SignatureFile} (some : file.signatures ≠ []) :
    file.check = .ok file := by
  rw [check, if_neg (by simpa using some)]

end SignatureFile

namespace Settings

/-- A draft that holds all settings. -/
def Draft.ofSettings (settings : Settings) : Draft where
  maxResults := some settings.maxResults
  chunkSize := some settings.chunkSize
  parallel := some settings.parallel
  threads := some settings.threads
  skipEmptyRegions := some settings.skipEmptyRegions

theorem plain_toJson (settings : Settings) (depth : Nat) : settings.toJson.Plain (depth + 1) := by
  refine .object ?_
  simp only [List.forall_mem_cons]
  exact ⟨.number _, .number _, .bool _, .number _, .bool _, nofun⟩

section Reading

variable (lawful : codec.Lawful Holds)

include lawful

theorem takes_members (base settings : Settings) :
    (recordShape codec base).Takes Holds {} [
      ("max_results", .number settings.maxResults.toNat),
      ("chunk_size", .number settings.chunkSize.toNat),
      ("parallel", .bool settings.parallel),
      ("threads", .number settings.threads.toNat),
      ("skip_empty_regions", .bool settings.skipEmptyRegions)] (.ofSettings settings) := by
  refine .cons rfl rfl (fun tree holds => bind_of_ok (lawful.word holds) _) ?_
  refine .cons rfl rfl (fun tree holds => bind_of_ok (lawful.word holds) _) ?_
  refine .cons rfl rfl (fun tree holds => bind_of_ok (lawful.bool holds) _) ?_
  refine .cons rfl rfl (fun tree holds => bind_of_ok (lawful.word holds) _) ?_
  exact .cons rfl rfl (fun tree holds => bind_of_ok (lawful.bool holds) _) .nil

theorem ofJson_of_holds (base settings : Settings) (tree : codec.Tree)
    (holds : Holds tree settings.toJson) : ofJson codec base tree = .ok settings := by
  refine lawful.record (takes_members lawful base settings) ?_ rfl holds
  simp [recordShape]

theorem readJsonWith_write (base settings : Settings) :
    readJsonWith codec base (codec.write settings.toJson) = settings.check := by
  rw [readJsonWith,
    lawful.read_write (settings.plain_toJson 126) (ofJson_of_holds lawful base settings)]

end Reading

theorem check_eq_ok_iff {settings : Settings} :
    settings.check = .ok settings ↔ settings.chunkSize ≠ 0 ∧ settings.threads ≠ 0 := by
  rw [← fault?_eq_none_iff, check]
  cases settings.fault? <;> simp

theorem exists_fault_of_check_ne_ok {settings : Settings}
    (refused : settings.check ≠ .ok settings) :
    ∃ fault, settings.fault? = some fault ∧ settings.check = .error (.unusable fault) := by
  unfold check at refused ⊢
  cases faulty : settings.fault? with
  | none => simp [faulty] at refused
  | some fault => exact ⟨fault, rfl, rfl⟩

theorem loadWith_of_entry?_eq {base : Settings} {directory : Directory} {path text : String}
    (entry : directory.entry? path = some (.file (Text.encode text))) :
    loadWith codec base directory path = readJsonWith codec base text := by
  have decoded : Text.decode? (Text.encode text) = some text := Text.decode?_eq_some_iff.2 rfl
  simp only [loadWith, Directory.readText, entry, decoded]

end Settings

end Codecs

/-- Whatever lawful codec is used, the compact text of a signature file reads as the same file,
whatever the texts and numbers in it, unless the file has no signatures. A file that holds the
compact text of settings loads as the same settings exactly if they are usable, whatever would be
taken for missing members, and it is refused for the fault of the settings otherwise. -/
theorem written_files_and_settings_read_back (codec : Codec) {Holds : codec.Tree → Value → Prop}
    (lawful : codec.Lawful Holds) :
    (∀ file : SignatureFile,
      (file.signatures ≠ [] →
        SignatureFile.readJsonWith codec (codec.write file.toJson) = .ok file) ∧
      (file.signatures = [] →
        SignatureFile.readJsonWith codec (codec.write file.toJson) = .error .noSignatures)) ∧
    ∀ (base settings : Settings) (directory : Directory) (path : String),
      directory.entry? path = some (.file (Text.encode (codec.write settings.toJson))) →
        (Settings.loadWith codec base directory path = .ok settings ↔
          settings.chunkSize ≠ 0 ∧ settings.threads ≠ 0) ∧
        (¬ (settings.chunkSize ≠ 0 ∧ settings.threads ≠ 0) →
          ∃ fault, settings.fault? = some fault ∧
            Settings.loadWith codec base directory path = .error (.unusable fault)) := by
  refine ⟨fun file => ⟨fun some => ?_, fun none => ?_⟩,
    fun base settings directory path entry => ?_⟩
  · rw [SignatureFile.readJsonWith_write lawful, SignatureFile.check_eq_ok_of_ne_nil some]
  · rw [SignatureFile.readJsonWith_write lawful, SignatureFile.check, if_pos (by simp [none])]
  · rw [Settings.loadWith_of_entry?_eq entry, Settings.readJsonWith_write lawful]
    refine ⟨Settings.check_eq_ok_iff, fun unusable => ?_⟩
    exact Settings.exists_fault_of_check_ne_ok fun checked =>
      unusable (Settings.check_eq_ok_iff.1 checked)

/-- The codec of nodes is lawful. It reads back a file whose name needs two escapes, and settings
that are loaded by the program. -/
theorem quoted_name_and_usual_settings_read_back :
    Json.codec.Lawful Node.Represents ∧
    SignatureFile.readJson
        (SignatureFile.toJson ⟨[{ name := "\"é\"\n", pattern := "E8 ?" }]⟩).text =
      .ok ⟨[{ name := "\"é\"\n", pattern := "E8 ?" }]⟩ ∧
    Settings.load { threads := 0 }
        ⟨[("s", .file (Text.encode (Settings.toJson {}).text))]⟩ "s" = .ok {} := by
  have back := written_files_and_settings_read_back Json.codec codec_lawful
  refine ⟨codec_lawful, (back.1 _).1 (by decide), ?_⟩
  have split : "s".splitOn "/" = ["s"] := by
    rw [String.splitOn, String.splitOnAux, String.splitOnAux]
    decide +kernel
  have isFile : Directory.asksForDirectory "s" = false := by
    rw [Directory.asksForDirectory, Directory.steps, split]
    decide +kernel
  have entry (content : Bytes) :
      Directory.entry? ⟨[("s", .file content)]⟩ "s" = some (.file content) := by
    simp [Directory.entry?, Directory.samePath, isFile]
  exact (back.2 _ _ _ "s" (entry _)).1.2 (by decide)

end BytePattern
