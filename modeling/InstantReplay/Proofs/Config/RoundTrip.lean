import InstantReplay.Config.Store
import InstantReplay.Proofs.Act
import InstantReplay.Proofs.Files.Tree
import InstantReplay.Proofs.Text.Utf8
import InstantReplay.Proofs.Toml.Document

/-!
# Settings that are saved and loaded

The document that settings are written as is read as the same settings (`Settings.parse?_toToml`):
it is the document of their sections (`Settings.toToml_eq_document`), whatever the texts in them.
So settings that were saved to a file are loaded from it as they were (`Settings.load_save`).
-/

namespace InstantReplay

open TomlDocument

/-! ## The tables of settings -/

/-- The number as a TOML value. -/
def TomlValue.ofWord (value : UInt32) : TomlValue := .integer value.toNat

@[simp] theorem TomlValue.word32?_ofWord (value : UInt32) : (ofWord value).word32? = some value := by
  have hlt : (value.toNat : Int) < 4294967296 := by
    have := value.toNat_lt
    omega
  rw [ofWord, word32?, if_pos ⟨Int.natCast_nonneg _, hlt⟩, Int.toNat_natCast,
    UInt32.ofNat_toNat]

@[simp] theorem TomlEntries.read?_self {α : Type} (name : String) (value : TomlValue)
    (entries : TomlEntries) (read : TomlValue → Option α) (default : α) :
    TomlEntries.read? ((name, value) :: entries) name read default = read value := by
  simp [read?, value?]

@[simp] theorem TomlEntries.read?_of_ne {α : Type} {other name : String} (h : other ≠ name)
    (value : TomlValue) (entries : TomlEntries) (read : TomlValue → Option α) (default : α) :
    TomlEntries.read? ((other, value) :: entries) name read default =
      entries.read? name read default := by
  simp [read?, value?, h]

@[simp] theorem TomlEntries.read?_nil {α : Type} (name : String) (read : TomlValue → Option α)
    (default : α) : TomlEntries.read? [] name read default = some default :=
  rfl

/-- The entries of the section `replay`. -/
def ReplaySettings.entries (replay : ReplaySettings) : TomlEntries := [
  ("seconds", .ofWord replay.seconds),
  ("start_on_keyframe", .boolean replay.startOnKeyframe)]

/-- The entries of the section `capture`. -/
def CaptureSettings.entries (capture : CaptureSettings) : TomlEntries := [
  ("backend", .string capture.backend.name),
  ("device", .string capture.device),
  ("framerate", .ofWord capture.framerate),
  ("socket", .string capture.socket)]

/-- The entries of the section `video`. -/
def VideoSettings.entries (video : VideoSettings) : TomlEntries := [
  ("encoder", .string video.encoder),
  ("bitrate", .ofWord video.bitrate),
  ("preset", .string video.preset)]

/-- The entries of the section `audio`. -/
def AudioSettings.entries (audio : AudioSettings) : TomlEntries := [
  ("enabled", .boolean audio.enabled),
  ("source", .string audio.source),
  ("encoder", .string audio.encoder),
  ("sample_rate", .ofWord audio.sampleRate),
  ("channels", .ofWord audio.channels),
  ("bitrate", .ofWord audio.bitrate)]

/-- The entries of the section `output`. -/
def OutputSettings.entries (output : OutputSettings) : TomlEntries := [
  ("template", .string output.template),
  ("post_save", .string output.postSave)]

/-- The entries of the section `trigger`. -/
def TriggerSettings.entries (trigger : TriggerSettings) : TomlEntries :=
  [("kind", .string trigger.kind.name), ("hotkey", .string trigger.hotkey)] ++
    match trigger.socket with
    | some path => [("socket", .string path)]
    | none => []

/-- The sections of settings. -/
def Settings.sections (settings : Settings) : List (String × TomlEntries) := [
  ("replay", settings.replay.entries),
  ("capture", settings.capture.entries),
  ("video", settings.video.entries),
  ("audio", settings.audio.entries),
  ("output", settings.output.entries),
  ("trigger", settings.trigger.entries)]

/-- A value of a field as it is written. -/
def TomlValue.written : TomlValue → String
  | .integer value => toString value
  | .string text => TomlText.write text
  | .boolean flag => if flag then "true" else "false"
  | _ => ""

theorem ReplaySettings.ofToml?_entries (replay : ReplaySettings) :
    ofToml? (.table .headed replay.entries) = some replay := by
  rw [ofToml?, TomlValue.fields?, Option.bind_eq_bind, Option.bind_some]
  simp [entries, TomlValue.flag?]

@[simp] theorem CaptureBackend.ofToml?_name (backend : CaptureBackend) :
    ofToml? (.string backend.name) = some backend := by
  cases backend <;> decide

@[simp] theorem TriggerKind.ofToml?_name (kind : TriggerKind) :
    ofToml? (.string kind.name) = some kind := by
  cases kind <;> decide

theorem CaptureSettings.ofToml?_entries (capture : CaptureSettings) :
    ofToml? (.table .headed capture.entries) = some capture := by
  rw [ofToml?, TomlValue.fields?, Option.bind_eq_bind, Option.bind_some]
  simp [entries, TomlValue.text?]

theorem VideoSettings.ofToml?_entries (video : VideoSettings) :
    ofToml? (.table .headed video.entries) = some video := by
  rw [ofToml?, TomlValue.fields?, Option.bind_eq_bind, Option.bind_some]
  simp [entries, TomlValue.text?]

theorem AudioSettings.ofToml?_entries (audio : AudioSettings) :
    ofToml? (.table .headed audio.entries) = some audio := by
  rw [ofToml?, TomlValue.fields?, Option.bind_eq_bind, Option.bind_some]
  simp [entries, TomlValue.text?, TomlValue.flag?]

theorem OutputSettings.ofToml?_entries (output : OutputSettings) :
    ofToml? (.table .headed output.entries) = some output := by
  rw [ofToml?, TomlValue.fields?, Option.bind_eq_bind, Option.bind_some]
  simp [entries, TomlValue.text?]

theorem TriggerSettings.ofToml?_entries (trigger : TriggerSettings) :
    ofToml? (.table .headed trigger.entries) = some trigger := by
  rw [ofToml?, TomlValue.fields?, Option.bind_eq_bind, Option.bind_some]
  obtain ⟨kind, hotkey, _ | path⟩ := trigger <;>
    simp [entries, TomlValue.text?]

namespace Settings

/-- **The tables of settings are read as the settings.** -/
theorem ofToml?_sections (settings : Settings) :
    ofToml? (settings.sections.map fun part => (part.1, .table .headed part.2)) =
      some settings := by
  simp [ofToml?, sections, ReplaySettings.ofToml?_entries,
    CaptureSettings.ofToml?_entries, VideoSettings.ofToml?_entries,
    AudioSettings.ofToml?_entries, OutputSettings.ofToml?_entries,
    TriggerSettings.ofToml?_entries]

/-! ## The document of sections -/

/-- The lines of fields. -/
def linesText : TomlEntries → String
  | [] => ""
  | field :: fields => line field.1 field.2.written ++ linesText fields

/-- The header of a section and its lines. -/
def sectionText (part : String × TomlEntries) : String :=
  "[" ++ part.1 ++ "]\n" ++ linesText part.2

/-- The document of sections, with an empty line between each two. -/
def document : List (String × TomlEntries) → String
  | [] => ""
  | [part] => sectionText part
  | part :: parts => sectionText part ++ "\n" ++ document parts

/-- A field whose key needs no quotes and whose value is written as it is read. -/
structure IsPlain (field : String × TomlValue) : Prop where
  key : IsBareKey field.1
  value : Writes field.2.written field.2

theorem says_linesText {fields : TomlEntries} (h : ∀ field ∈ fields, IsPlain field) :
    Says (linesText fields) (fields.map assignOf) := by
  induction fields with
  | nil => exact says_empty
  | cons field fields ih =>
    rw [List.forall_mem_cons] at h
    exact (says_line h.1.key h.1.value).append (ih h.2)

/-- A section whose name needs no quotes, with plain fields. -/
structure IsPlainSection (part : String × TomlEntries) : Prop where
  name : IsBareKey part.1
  fields : ∀ field ∈ part.2, IsPlain field

theorem says_sectionText {part : String × TomlEntries} (h : IsPlainSection part) :
    Says (sectionText part) (.header [] part.1 :: part.2.map assignOf) :=
  (says_header h.name).append (says_linesText h.fields)

/-- **A document says its sections.** -/
theorem says_document {sections : List (String × TomlEntries)}
    (h : ∀ part ∈ sections, IsPlainSection part) : Says (document sections) (outline sections) := by
  induction sections with
  | nil => exact says_empty
  | cons part parts ih =>
    rw [List.forall_mem_cons] at h
    have hpart := says_sectionText h.1
    have houtline : outline (part :: parts) =
        (.header [] part.1 :: part.2.map assignOf) ++ outline parts := rfl
    rw [houtline]
    cases parts with
    | nil => exact hpart.of_eq (List.append_nil _).symm
    | cons next parts =>
      exact ((hpart.append says_blank).append (ih h.2)).of_eq (by rw [List.append_nil])

/-- A document begins with a header, or is empty. -/
theorem head?_document (sections : List (String × TomlEntries)) :
    (document sections).toList.head? ≠ some '\ufeff' := by
  have hstart (part : String × TomlEntries) (behind : String) :
      (sectionText part ++ behind).toList.head? = some '[' := by
    simp [sectionText]
  rcases sections with _ | ⟨part, _ | ⟨next, parts⟩⟩
  · decide
  · rw [document, ← String.append_empty (s := sectionText part), hstart]
    decide
  · show (sectionText part ++ "\n" ++ document (next :: parts)).toList.head? ≠ _
    rw [String.append_assoc, hstart]
    decide

/-- **A document of plain sections makes their tables**, if no name and no key of a section comes
twice. -/
theorem parse?_document {sections : List (String × TomlEntries)}
    (hplain : ∀ part ∈ sections, IsPlainSection part) (hnames : (sections.map (·.1)).Nodup)
    (hkeys : ∀ part ∈ sections, (part.2.map (·.1)).Nodup) :
    TomlDocument.parse? (document sections) =
      some (sections.map fun part => (part.1, .table .headed part.2)) :=
  ((says_document hplain).parse? (head?_document sections)).trans (build?_outline hnames hkeys)

/-! ## The document of settings -/

theorem linesText_word (key : String) (value : UInt32) (fields : TomlEntries) :
    linesText ((key, .ofWord value) :: fields) = numberLine key value ++ linesText fields :=
  rfl

theorem linesText_string (key text : String) (fields : TomlEntries) :
    linesText ((key, .string text) :: fields) = textLine key text ++ linesText fields :=
  rfl

theorem linesText_boolean (key : String) (flag : Bool) (fields : TomlEntries) :
    linesText ((key, .boolean flag) :: fields) = flagLine key flag ++ linesText fields :=
  rfl

theorem linesText_nil : linesText [] = "" := rfl

theorem linesText_trigger (trigger : TriggerSettings) :
    linesText trigger.entries = textLine "kind" trigger.kind.name ++
      (textLine "hotkey" trigger.hotkey ++
        match trigger.socket with
        | some path => textLine "socket" path
        | none => "") := by
  rw [TriggerSettings.entries, List.cons_append, List.cons_append, List.nil_append,
    linesText_string, linesText_string]
  cases trigger.socket with
  | none => rfl
  | some path => rw [linesText_string, linesText_nil, String.append_empty]

theorem header_append (name header : String) (h : "[" ++ name ++ "]\n" = header)
    (lines : String) : "[" ++ (name ++ ("]\n" ++ lines)) = header ++ lines := by
  rw [← h, String.append_assoc, String.append_assoc]

theorem blank_append (header opening : String) (h : "\n" ++ header = opening) (lines : String) :
    "\n" ++ (header ++ lines) = opening ++ lines := by
  rw [← h, String.append_assoc]

/-- **Settings are written as the document of their sections.** -/
theorem toToml_eq_document (settings : Settings) :
    settings.toToml = document settings.sections := by
  unfold toToml
  dsimp only
  simp only [document, sections, sectionText, linesText_trigger, ReplaySettings.entries,
    CaptureSettings.entries, VideoSettings.entries, AudioSettings.entries, OutputSettings.entries,
    linesText_word, linesText_string, linesText_boolean, linesText_nil,
    String.append_assoc, String.append_empty]
  -- What is left is how the headers are split.
  cases settings.trigger.socket <;>
    rw [header_append "replay" "[replay]\n" rfl, header_append "capture" "[capture]\n" rfl,
      header_append "video" "[video]\n" rfl, header_append "audio" "[audio]\n" rfl,
      header_append "output" "[output]\n" rfl, header_append "trigger" "[trigger]\n" rfl,
      blank_append "[capture]\n" "\n[capture]\n" rfl, blank_append "[video]\n" "\n[video]\n" rfl,
      blank_append "[audio]\n" "\n[audio]\n" rfl, blank_append "[output]\n" "\n[output]\n" rfl,
      blank_append "[trigger]\n" "\n[trigger]\n" rfl]

theorem isPlain_word {key : String} (hkey : IsBareKey key) (value : UInt32) :
    IsPlain (key, .ofWord value) :=
  ⟨hkey, writes_number (by have := value.toNat_lt; omega)⟩

theorem isPlain_string {key : String} (hkey : IsBareKey key) (text : String) :
    IsPlain (key, .string text) :=
  ⟨hkey, writes_text text⟩

theorem isPlain_boolean {key : String} (hkey : IsBareKey key) (flag : Bool) :
    IsPlain (key, .boolean flag) :=
  ⟨hkey, writes_flag flag⟩

theorem isPlainSection_sections (settings : Settings) :
    ∀ part ∈ settings.sections, IsPlainSection part := by
  have htrigger : ∀ field ∈ settings.trigger.entries, IsPlain field := by
    rw [TriggerSettings.entries]
    cases settings.trigger.socket <;> simp (disch := decide) [isPlain_string]
  simp only [sections, List.forall_mem_cons]
  refine ⟨⟨(by decide : IsBareKey "replay"), ?_⟩, ⟨(by decide : IsBareKey "capture"), ?_⟩,
    ⟨(by decide : IsBareKey "video"), ?_⟩, ⟨(by decide : IsBareKey "audio"), ?_⟩,
    ⟨(by decide : IsBareKey "output"), ?_⟩, ⟨(by decide : IsBareKey "trigger"), htrigger⟩, by simp⟩
  all_goals
    simp (disch := decide) [ReplaySettings.entries, CaptureSettings.entries,
      VideoSettings.entries, AudioSettings.entries, OutputSettings.entries, isPlain_word,
      isPlain_string, isPlain_boolean]

theorem nodup_names (settings : Settings) : (settings.sections.map (·.1)).Nodup :=
  (by decide : ["replay", "capture", "video", "audio", "output", "trigger"].Nodup)

theorem nodup_keys (settings : Settings) :
    ∀ part ∈ settings.sections, (part.2.map (·.1)).Nodup := by
  have htrigger : (settings.trigger.entries.map (·.1)).Nodup := by
    rw [TriggerSettings.entries]
    rcases settings.trigger.socket with _ | path
    · exact (by decide : ["kind", "hotkey"].Nodup)
    · exact (by decide : ["kind", "hotkey", "socket"].Nodup)
  simp only [sections, List.forall_mem_cons]
  exact ⟨(by decide : ["seconds", "start_on_keyframe"].Nodup),
    (by decide : ["backend", "device", "framerate", "socket"].Nodup),
    (by decide : ["encoder", "bitrate", "preset"].Nodup),
    (by decide : ["enabled", "source", "encoder", "sample_rate", "channels", "bitrate"].Nodup),
    (by decide : ["template", "post_save"].Nodup), htrigger, by simp⟩

theorem parse?_of_toml {text : String} {root : TomlEntries}
    (h : TomlDocument.parse? text = some root) : Settings.parse? text = ofToml? root := by
  rw [Settings.parse?, h]
  rfl

/-- **The document of settings is read as the settings.** -/
theorem parse?_toToml (settings : Settings) : Settings.parse? settings.toToml = some settings := by
  have hparse := parse?_document (isPlainSection_sections settings) (nodup_names settings)
    (nodup_keys settings)
  rw [toToml_eq_document]
  exact (parse?_of_toml hparse).trans (ofToml?_sections settings)

/-! ## The file -/

variable {settings : Settings} {path : String} {tree : FileTree}

theorem readText_of_find {text : String} (h : tree.find path = .ok (.file text.toUTF8)) :
    tree.readText path = .ok text := by
  have htext : String.fromUTF8? text.toUTF8 = some text := by
    have hbytes := Utf8.fromUTF8?_eq_some_iff.2 (rfl : text.toUTF8.toList = text.toUTF8.toList)
    rwa [Utf8.mk_toUTF8] at hbytes
  simp only [FileTree.readText, FileTree.read, h, htext]

/-- Settings are loaded from a file with a document that says them. -/
theorem run_load_of_parse? {text : String} (h : tree.find path = .ok (.file text.toUTF8))
    (hparse : Settings.parse? text = some settings) :
    ((load path).runOn tree).1 = .ok settings := by
  have hholds : tree.holds path = true := by
    rw [FileTree.holds, h]
    rfl
  have hrun : (load path).run.run { state := tree } =
      (.ok settings, ⟨tree, [.info ("Loaded configuration from " ++ quoted path)]⟩) := by
    rw [load, Act.run_bind_ok (Act.run_state _)]
    simp only [hholds, readText_of_find h, hparse]
    rfl
  rw [Act.runOn, hrun]

/-- Settings are loaded from a file with their document. -/
theorem run_load (h : tree.find path = .ok (.file settings.toToml.toUTF8)) :
    ((load path).runOn tree).1 = .ok settings :=
  run_load_of_parse? h (parse?_toToml settings)

/-- Writing the text of a settings file is writing to the tree. -/
theorem write_of_run_writeText {text : String} {scene last : Scene FileTree}
    (h : (writeText path text).run.run scene = (.ok (), last)) :
    (scene.state.write path text.toUTF8).1 = .ok () ∧
      last.state = (scene.state.write path text.toUTF8).2 := by
  rw [writeText, Act.run_bind_ok (Act.run_step _ scene)] at h
  rcases hwrite : (scene.state.write path text.toUTF8).1 with error | _
  · rw [hwrite] at h
    cases h
  · rw [hwrite] at h
    cases h
    exact ⟨rfl, rfl⟩

/-- A save that succeeds ends with writing the document. -/
theorem exists_write_of_save (h : ((settings.save path).runOn tree).1 = .ok ()) :
    ∃ made : FileTree, (made.write path settings.toToml.toUTF8).1 = .ok () ∧
      ((settings.save path).runOn tree).2.1 = (made.write path settings.toToml.toUTF8).2 := by
  have hend : ∀ {scene last : Scene FileTree},
      (do writeText path settings.toToml
          Act.note (.info ("Saved configuration to " ++ quoted path)) : Act FileTree Unit).run.run
        scene = (.ok (), last) →
      (scene.state.write path settings.toToml.toUTF8).1 = .ok () ∧
        last.state = (scene.state.write path settings.toToml.toUTF8).2 := by
    intro scene last hrun
    obtain ⟨_, written, hwrite, hnote⟩ := Act.exists_of_run_bind_ok hrun
    obtain ⟨hok, hstate⟩ := write_of_run_writeText hwrite
    cases hnote
    exact ⟨hok, hstate⟩
  rw [Act.runOn] at h ⊢
  rcases hrun : (settings.save path).run.run { state := tree } with ⟨outcome, last⟩
  rw [hrun] at h
  obtain rfl : outcome = .ok () := h
  rw [save, Act.run_bind_ok (Act.run_state _)] at hrun
  dsimp only at hrun
  split at hrun
  · obtain ⟨-, made, -, hrest⟩ := Act.exists_of_run_bind_ok hrun
    exact ⟨made.state, hend hrest⟩
  · exact ⟨tree, hend hrun⟩

/-- **Settings that were saved are loaded as they were.** Their document is read as the settings,
and so is the file that a save leaves, whatever tree it is saved in. -/
theorem load_save (settings : Settings) :
    Settings.parse? settings.toToml = some settings ∧
      ∀ (tree : FileTree) (path : String) (contents : ByteArray),
        ((settings.save path).runOn tree).1 = .ok () →
        ((settings.save path).runOn tree).2.1.find path = .ok (.file contents) →
          ((load path).runOn ((settings.save path).runOn tree).2.1).1 = .ok settings := by
  refine ⟨parse?_toToml settings, fun tree path contents hsave hfile => ?_⟩
  obtain ⟨made, hwrite, hlast⟩ := exists_write_of_save hsave
  rw [hlast] at hfile ⊢
  rcases FileTree.find_write hwrite with hfound | ⟨hnode, hsame⟩
  · exact run_load hfound
  · rw [hsame, hnode] at hfile
    cases hfile

/-- Settings with texts that each have to be written in another way. -/
def sampleSettings : Settings where
  replay := { seconds := 4294967295, startOnKeyframe := false }
  capture := { backend := .card, device := "it's \"it\"", framerate := 0, socket := "C:\\" }
  audio := { source := "''''\"\"\"\r", encoder := "\x00\x7f\tü" }
  output := { template := "", postSave := "echo \"\"\n\"\"\"" }
  trigger := { kind := .hotkey, hotkey := "'a'\n\\", socket := some "\n" }

theorem load_save_sample :
    let tree := FileTree.ofDirectories ["home"] []
    let saved := (sampleSettings.save "rewind/config.toml").runOn tree
    saved.1 = .ok () ∧ ((load "rewind/config.toml").runOn saved.2.1).1 = .ok sampleSettings := by
  intro tree saved
  have hsave : saved.1 = .ok () := rfl
  have hfile : saved.2.1.find "rewind/config.toml" =
      .ok (.file sampleSettings.toToml.toUTF8) := rfl
  exact ⟨hsave, (load_save sampleSettings).2 tree _ _ hsave hfile⟩

end Settings

end InstantReplay
