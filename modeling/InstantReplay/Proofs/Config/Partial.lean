import InstantReplay.Proofs.Config.RoundTrip

/-!
# Documents with parts left out

What is left of the document of settings when sections and keys are left out of it
(`Settings.document`, `Omission.rest`) is read as the settings with the default for every key that is
missing, whether its section is there or not (`Settings.load_rest`).
-/

namespace InstantReplay

open TomlDocument

/-! ## Settings with defaults put in -/

/-- What is left out of a document: sections as a whole, and keys of the others. -/
structure Omission where
  sections : String → Bool
  /-- The keys of a section. -/
  keys : String → String → Bool

/-- Whether a key of a section is still there. -/
def Omission.keeps (omission : Omission) (part key : String) : Bool :=
  !omission.sections part && !omission.keys part key

/-- The sections of a document without what is left out. -/
def Omission.rest (omission : Omission) (sections : List (String × TomlEntries)) :
    List (String × TomlEntries) :=
  (sections.filter fun part => !omission.sections part.1).map fun part =>
    (part.1, part.2.filter fun entry => !omission.keys part.1 entry.1)

/-! A field that is kept is as it was, and one that is not is as in the default settings. -/

def ReplaySettings.keeping (keeps : String → Bool) (replay : ReplaySettings) : ReplaySettings where
  seconds := if keeps "seconds" then replay.seconds else ReplaySettings.seconds {}
  startOnKeyframe :=
    if keeps "start_on_keyframe" then replay.startOnKeyframe else ReplaySettings.startOnKeyframe {}

def CaptureSettings.keeping (keeps : String → Bool) (capture : CaptureSettings) :
    CaptureSettings where
  backend := if keeps "backend" then capture.backend else CaptureSettings.backend {}
  device := if keeps "device" then capture.device else CaptureSettings.device {}
  framerate := if keeps "framerate" then capture.framerate else CaptureSettings.framerate {}
  socket := if keeps "socket" then capture.socket else CaptureSettings.socket {}

def VideoSettings.keeping (keeps : String → Bool) (video : VideoSettings) : VideoSettings where
  encoder := if keeps "encoder" then video.encoder else VideoSettings.encoder {}
  bitrate := if keeps "bitrate" then video.bitrate else VideoSettings.bitrate {}
  preset := if keeps "preset" then video.preset else VideoSettings.preset {}

def AudioSettings.keeping (keeps : String → Bool) (audio : AudioSettings) : AudioSettings where
  enabled := if keeps "enabled" then audio.enabled else AudioSettings.enabled {}
  source := if keeps "source" then audio.source else AudioSettings.source {}
  encoder := if keeps "encoder" then audio.encoder else AudioSettings.encoder {}
  sampleRate := if keeps "sample_rate" then audio.sampleRate else AudioSettings.sampleRate {}
  channels := if keeps "channels" then audio.channels else AudioSettings.channels {}
  bitrate := if keeps "bitrate" then audio.bitrate else AudioSettings.bitrate {}

def OutputSettings.keeping (keeps : String → Bool) (output : OutputSettings) :
    OutputSettings where
  template := if keeps "template" then output.template else OutputSettings.template {}
  postSave := if keeps "post_save" then output.postSave else OutputSettings.postSave {}

def TriggerSettings.keeping (keeps : String → Bool) (trigger : TriggerSettings) :
    TriggerSettings where
  kind := if keeps "kind" then trigger.kind else TriggerSettings.kind {}
  hotkey := if keeps "hotkey" then trigger.hotkey else TriggerSettings.hotkey {}
  socket := if keeps "socket" then trigger.socket else TriggerSettings.socket {}

/-- The settings where a key is kept, and the default settings where it is not. -/
def Settings.keeping (keeps : String → String → Bool) (settings : Settings) : Settings where
  replay := settings.replay.keeping (keeps "replay")
  capture := settings.capture.keeping (keeps "capture")
  video := settings.video.keeping (keeps "video")
  audio := settings.audio.keeping (keeps "audio")
  output := settings.output.keeping (keeps "output")
  trigger := settings.trigger.keeping (keeps "trigger")

/-! ## Tables with entries left out -/

section Tables

variable {α : Type} (entries : TomlEntries) (keeps : String → Bool)

theorem TomlEntries.value?_filter (name : String) :
    TomlEntries.value? name (entries.filter fun entry => keeps entry.1) =
      if keeps name then entries.value? name else none := by
  rw [value?, value?, List.find?_filter]
  by_cases hkept : keeps name
  · have hsame (entry : String × TomlValue) :
        decide (keeps entry.1 = true ∧ decide (entry.1 = name) = true) =
          decide (entry.1 = name) := by
      by_cases hname : entry.1 = name <;> simp [hname, hkept]
    simp only [hsame, if_pos hkept]
  · rw [if_neg hkept, Option.map_eq_none_iff, List.find?_eq_none]
    rintro entry - hentry
    obtain ⟨hkeeps, hname⟩ := of_decide_eq_true hentry
    exact hkept (of_decide_eq_true hname ▸ hkeeps)

/-- A field is read from the rest of a table as from the table, and is its default if it is left
out. -/
theorem TomlEntries.read?_filter (name : String) (read : TomlValue → Option α) (default : α) :
    TomlEntries.read? (entries.filter fun entry => keeps entry.1) name read default =
      if keeps name then entries.read? name read default else some default := by
  rw [read?, value?_filter]
  by_cases hkept : keeps name
  · rw [if_pos hkept, if_pos hkept]
    rfl
  · rw [if_neg hkept, if_neg hkept]

end Tables

section Sections

variable (keeps : String → Bool)

theorem ReplaySettings.ofToml?_filter (replay : ReplaySettings) :
    ofToml? (.table .headed (replay.entries.filter fun entry => keeps entry.1)) =
      some (replay.keeping keeps) := by
  rw [ofToml?, TomlValue.fields?, Option.bind_eq_bind, Option.bind_some]
  simp [TomlEntries.read?_filter, entries, keeping, TomlValue.flag?, ← apply_ite some,
    FieldDefault.startOnKeyframe]

theorem CaptureSettings.ofToml?_filter (capture : CaptureSettings) :
    ofToml? (.table .headed (capture.entries.filter fun entry => keeps entry.1)) =
      some (capture.keeping keeps) := by
  rw [ofToml?, TomlValue.fields?, Option.bind_eq_bind, Option.bind_some]
  simp [TomlEntries.read?_filter, entries, keeping, TomlValue.text?, ← apply_ite some]

theorem VideoSettings.ofToml?_filter (video : VideoSettings) :
    ofToml? (.table .headed (video.entries.filter fun entry => keeps entry.1)) =
      some (video.keeping keeps) := by
  rw [ofToml?, TomlValue.fields?, Option.bind_eq_bind, Option.bind_some]
  simp [TomlEntries.read?_filter, entries, keeping, TomlValue.text?, ← apply_ite some]

theorem AudioSettings.ofToml?_filter (audio : AudioSettings) :
    ofToml? (.table .headed (audio.entries.filter fun entry => keeps entry.1)) =
      some (audio.keeping keeps) := by
  rw [ofToml?, TomlValue.fields?, Option.bind_eq_bind, Option.bind_some]
  simp [TomlEntries.read?_filter, entries, keeping, TomlValue.text?, TomlValue.flag?,
    ← apply_ite some]

theorem OutputSettings.ofToml?_filter (output : OutputSettings) :
    ofToml? (.table .headed (output.entries.filter fun entry => keeps entry.1)) =
      some (output.keeping keeps) := by
  rw [ofToml?, TomlValue.fields?, Option.bind_eq_bind, Option.bind_some]
  simp [TomlEntries.read?_filter, entries, keeping, TomlValue.text?, ← apply_ite some]

theorem TriggerSettings.ofToml?_filter (trigger : TriggerSettings) :
    ofToml? (.table .headed (trigger.entries.filter fun entry => keeps entry.1)) =
      some (trigger.keeping keeps) := by
  rw [ofToml?, TomlValue.fields?, Option.bind_eq_bind, Option.bind_some]
  obtain ⟨kind, hotkey, _ | path⟩ := trigger <;>
    simp [TomlEntries.read?_filter, entries, keeping, TomlValue.text?, ← apply_ite some]

end Sections

namespace Settings

/-- **The tables that are left are read as the settings with defaults put in.** -/
theorem ofToml?_filter (settings : Settings) (keepsPart : String → Bool)
    (keepsKey : String → String → Bool) :
    ofToml? ((settings.sections.map fun part => (part.1, TomlValue.table .headed
        (part.2.filter fun entry => keepsKey part.1 entry.1))).filter
          fun entry => keepsPart entry.1) =
      some (settings.keeping fun part key => keepsPart part && keepsKey part key) := by
  simp only [ofToml?, TomlEntries.read?_filter]
  simp [sections, ← apply_ite some, ReplaySettings.ofToml?_filter, CaptureSettings.ofToml?_filter,
    VideoSettings.ofToml?_filter, AudioSettings.ofToml?_filter, OutputSettings.ofToml?_filter,
    TriggerSettings.ofToml?_filter, keeping]
  -- A section that is left out as a whole is its default, and so is one without any key.
  refine ⟨?_, ?_, ?_, ?_, ?_, ?_⟩
  · cases keepsPart "replay" <;> rfl
  · cases keepsPart "capture" <;> rfl
  · cases keepsPart "video" <;> rfl
  · cases keepsPart "audio" <;> rfl
  · cases keepsPart "output" <;> rfl
  · cases keepsPart "trigger" <;> rfl

/-! ## What is left of a document -/

variable {omission : Omission} {sections : List (String × TomlEntries)}

/-- The tables of what is left are what is left of the tables. -/
theorem map_rest (omission : Omission) (sections : List (String × TomlEntries)) :
    ((omission.rest sections).map fun part => (part.1, TomlValue.table .headed part.2)) =
      (sections.map fun part => (part.1, TomlValue.table .headed
        (part.2.filter fun entry => !omission.keys part.1 entry.1))).filter
          fun entry => !omission.sections entry.1 := by
  simp [Omission.rest, List.filter_map, Function.comp_def]

theorem mem_rest {part : String × TomlEntries} (h : part ∈ omission.rest sections) :
    ∃ whole ∈ sections, part.1 = whole.1 ∧ part.2.Sublist whole.2 := by
  obtain ⟨whole, hwhole, rfl⟩ := List.mem_map.1 h
  exact ⟨whole, (List.mem_filter.1 hwhole).1, rfl, List.filter_sublist⟩

theorem isPlainSection_rest (h : ∀ part ∈ sections, IsPlainSection part) :
    ∀ part ∈ omission.rest sections, IsPlainSection part := by
  intro part hpart
  obtain ⟨whole, hwhole, hname, hfields⟩ := mem_rest hpart
  exact ⟨hname ▸ (h whole hwhole).name,
    fun field hfield => (h whole hwhole).fields field (hfields.subset hfield)⟩

theorem nodup_names_rest (h : (sections.map (·.1)).Nodup) :
    ((omission.rest sections).map (·.1)).Nodup := by
  rw [Omission.rest, List.map_map]
  exact h.sublist (List.filter_sublist.map _)

theorem nodup_keys_rest (h : ∀ part ∈ sections, (part.2.map (·.1)).Nodup) :
    ∀ part ∈ omission.rest sections, (part.2.map (·.1)).Nodup := by
  intro part hpart
  obtain ⟨whole, hwhole, -, hfields⟩ := mem_rest hpart
  exact (h whole hwhole).sublist (hfields.map _)

/-- **What is left of the document is read as the settings with defaults put in.** -/
theorem parse?_rest (settings : Settings) (omission : Omission) :
    Settings.parse? (document (omission.rest settings.sections)) =
      some (settings.keeping omission.keeps) := by
  have hplain : ∀ part ∈ omission.rest settings.sections, IsPlainSection part :=
    isPlainSection_rest (isPlainSection_sections settings)
  have hparse := parse?_document hplain (nodup_names_rest (nodup_names settings))
    (nodup_keys_rest (nodup_keys settings))
  rw [parse?_of_toml hparse, map_rest, ofToml?_filter settings (fun part => !omission.sections part)
    fun part key => !omission.keys part key]
  rfl

/-- **A file with a part of the settings is loaded as all of them.** Settings are written as the
document of their sections. What is left of it when sections and keys are left out is read as the
settings with the default for every key that is not there, and so is a file with it. -/
theorem load_rest (settings : Settings) (omission : Omission) :
    settings.toToml = document settings.sections ∧
    Settings.parse? (document (omission.rest settings.sections)) =
      some (settings.keeping omission.keeps) ∧
    ∀ (tree : FileTree) (path : String),
      tree.find path = .ok (.file (document (omission.rest settings.sections)).toUTF8) →
        ((load path).runOn tree).1 = .ok (settings.keeping omission.keeps) :=
  ⟨toToml_eq_document settings, parse?_rest settings omission,
    fun _ _ hfile => run_load_of_parse? hfile (parse?_rest settings omission)⟩

/-- The section `audio` is left out, and in the others every key `socket` and `seconds`. -/
def sampleOmission : Omission where
  sections part := part == "audio"
  keys _ key := key == "socket" || key == "seconds"

theorem load_rest_sample :
    let text := document (sampleOmission.rest sampleSettings.sections)
    let tree := ((FileTree.ofDirectories ["home"] []).write "config.toml" text.toUTF8).2
    ((load "config.toml").runOn tree).1 = .ok
      { replay := { seconds := 30, startOnKeyframe := false }
        capture := { backend := .card, device := "it's \"it\"", framerate := 0
                     socket := "/run/rewind/capture.sock" }
        output := { template := "", postSave := "echo \"\"\n\"\"\"" }
        trigger := { kind := .hotkey, hotkey := "'a'\n\\", socket := none } } := by
  intro text tree
  have hfile : tree.find "config.toml" = .ok (.file text.toUTF8) := rfl
  exact (load_rest sampleSettings sampleOmission).2.2 tree _ hfile

end Settings

end InstantReplay
