import InstantReplay.Config.Recording
import InstantReplay.Proofs.Act
import InstantReplay.Save.Desk

/-!
# Which output names can be rendered

A time format is a row of literals and directives, each of which is read for itself
(`TimeFormat.parse?_eq_some_iff`). All of them can be rendered at every moment but one: the
directive `%#z` is read without complaint and cannot be written. So an output name can be rendered
exactly if that directive does not stand in its text (`OutputName.renders_iff`).
-/

namespace InstantReplay

namespace TimeFormat

variable {text part rest before after : List Char} {items found more : List TimeItem}

/-! ## The grammar of time formats -/

/-- The directives of several characters behind the percent sign. -/
def longDirectives : List (List Char × FixedField) :=
  [(['.', '3', 'f'], .fractionDigits 3), (['.', '6', 'f'], .fractionDigits 6),
   (['.', '9', 'f'], .fractionDigits 9), (['.', 'f'], .fraction),
   (['3', 'f'], .bareFractionDigits 3), (['6', 'f'], .bareFractionDigits 6),
   (['9', 'f'], .bareFractionDigits 9), ([':', ':', ':', 'z'], .zoneOffsetHours),
   ([':', ':', 'z'], .zoneOffsetSeconds), ([':', 'z'], .zoneOffsetColon),
   (['#', 'z'], .zoneOffsetAny)]

/-- One literal or one directive, and the items that it stands for. -/
inductive Spells : List Char → List TimeItem → Prop
  | literal {c : Char} (hc : c ≠ '%') : Spells [c] [.literal c]
  | directive {c : Char} {items : List TimeItem} (hitems : directive? c = some items) :
      Spells ['%', c] items
  | padded {mark c : Char} {padding : Padding} {items : List TimeItem} {item : TimeItem}
      (hmark : padding? mark = some padding) (hitems : directive? c = some items)
      (hitem : padded? padding items = some item) : Spells ['%', mark, c] [item]
  | long {name : List Char} {field : FixedField} (hname : (name, field) ∈ longDirectives) :
      Spells ('%' :: name) [.fixed field]

/-- A row of literals and directives, and the items that they stand for in turn. -/
inductive Reads : List Char → List TimeItem → Prop
  | nil : Reads [] []
  | append {part rest : List Char} {found more : List TimeItem} (hpart : Spells part found)
      (hrest : Reads rest more) : Reads (part ++ rest) (found ++ more)

/-- A character with a meaning is none without one. -/
theorem ne_of_eq_some {α : Type} {meaning? : Char → Option α} {value : α} {c other : Char}
    (h : meaning? c = some value) (hother : meaning? other = none) : c ≠ other := by
  rintro rfl
  rw [hother] at h
  cases h

/-- A directive of one character is no padding mark. -/
theorem padding?_of_directive? {c : Char} (h : directive? c = some items) : padding? c = none := by
  rw [padding?]
  all_goals exact ne_of_eq_some h rfl

theorem parse?_literal {c : Char} (hc : c ≠ '%') (rest : List Char) :
    parse? (c :: rest) = (parse? rest).map (.literal c :: ·) := by
  rw [parse?]
  exact hc

/-- A directive of one character is none of the longer ones, whatever follows it. -/
theorem parse?_directive {c : Char} (h : directive? c = some items) (rest : List Char) :
    parse? ('%' :: c :: rest) = (parse? rest).map (items ++ ·) := by
  have hmark := padding?_of_directive? h
  cases rest with
  | nil => simp [parse?, h]
  | cons d rest =>
    rw [parse?, hmark]
    · simp only [h, Option.bind_eq_bind, Option.bind_some]
      cases parse? (d :: rest) <;> rfl
    all_goals (intros; exact ne_of_eq_some h rfl ‹c = _›)

theorem parse?_padded {mark c : Char} {padding : Padding} {item : TimeItem}
    (hmark : padding? mark = some padding) (hitems : directive? c = some items)
    (hitem : padded? padding items = some item) (rest : List Char) :
    parse? ('%' :: mark :: c :: rest) = (parse? rest).map (item :: ·) := by
  rw [parse?, hmark]
  · simp only [hitems, hitem, Option.bind_eq_bind, Option.bind_some]
    cases parse? rest <;> rfl
  all_goals (intros; exact ne_of_eq_some hmark rfl ‹mark = _›)

theorem parse?_long {name : List Char} {field : FixedField} (h : (name, field) ∈ longDirectives)
    (rest : List Char) :
    parse? ('%' :: name ++ rest) = (parse? rest).map (.fixed field :: ·) := by
  simp only [longDirectives, List.mem_cons, List.not_mem_nil, or_false, Prod.mk.injEq] at h
  rcases h with ⟨rfl, rfl⟩ | ⟨rfl, rfl⟩ | ⟨rfl, rfl⟩ | ⟨rfl, rfl⟩ | ⟨rfl, rfl⟩ | ⟨rfl, rfl⟩ |
    ⟨rfl, rfl⟩ | ⟨rfl, rfl⟩ | ⟨rfl, rfl⟩ | ⟨rfl, rfl⟩ | ⟨rfl, rfl⟩ <;>
    simp only [List.cons_append, List.nil_append] <;> rw [parse?]

/-- What is spelled at the start of a format is read there. -/
theorem parse?_of_spells (h : Spells part found) (rest : List Char) :
    parse? (part ++ rest) = (parse? rest).map (found ++ ·) := by
  cases h with
  | literal hc => exact parse?_literal hc rest
  | directive hitems => exact parse?_directive hitems rest
  | padded hmark hitems hitem => exact parse?_padded hmark hitems hitem rest
  | long hname => exact parse?_long hname rest

/-- What is read as a row is read in front of anything, and the rest for itself. -/
theorem parse?_of_reads (h : Reads before items) (rest : List Char) :
    parse? (before ++ rest) = (parse? rest).map (items ++ ·) := by
  induction h with
  | nil => simp
  | append hpart _ ih =>
    rw [List.append_assoc, parse?_of_spells hpart, ih, Option.map_map]
    congr 1
    funext found
    exact (List.append_assoc _ _ found).symm

theorem reads_of_spells (hpart : Spells part found)
    (hrest : ∀ {more}, parse? rest = some more → Reads rest more)
    (h : (parse? rest).map (found ++ ·) = some items) : Reads (part ++ rest) items := by
  obtain ⟨more, hmore, rfl⟩ := Option.map_eq_some_iff.1 h
  exact .append hpart (hrest hmore)

/-- What is read is a row of literals and directives. -/
theorem reads_of_parse? (h : parse? text = some items) : Reads text items := by
  have long (name : List Char) {field : FixedField} (hname : (name, field) ∈ longDirectives) :
      Spells ('%' :: name) [.fixed field] := .long hname
  fun_induction parse? text generalizing items with
  | case1 =>
    cases h
    exact .nil
  | case2 rest ih => exact reads_of_spells (long ['.', '3', 'f'] (by decide)) ih h
  | case3 rest ih => exact reads_of_spells (long ['.', '6', 'f'] (by decide)) ih h
  | case4 rest ih => exact reads_of_spells (long ['.', '9', 'f'] (by decide)) ih h
  | case5 rest ih => exact reads_of_spells (long ['.', 'f'] (by decide)) ih h
  | case6 rest ih => exact reads_of_spells (long ['3', 'f'] (by decide)) ih h
  | case7 rest ih => exact reads_of_spells (long ['6', 'f'] (by decide)) ih h
  | case8 rest ih => exact reads_of_spells (long ['9', 'f'] (by decide)) ih h
  | case9 rest ih => exact reads_of_spells (long [':', ':', ':', 'z'] (by decide)) ih h
  | case10 rest ih => exact reads_of_spells (long [':', ':', 'z'] (by decide)) ih h
  | case11 rest ih => exact reads_of_spells (long [':', 'z'] (by decide)) ih h
  | case12 rest ih => exact reads_of_spells (long ['#', 'z'] (by decide)) ih h
  | case13 => cases h
  | case14 c =>
    rw [← List.append_nil items]
    exact .append (.directive h) .nil
  | case15 mark c rest _ _ _ _ _ _ _ _ _ _ _ padding hmark ih =>
    obtain ⟨found, hitems, h⟩ := Option.bind_eq_some_iff.1 h
    obtain ⟨item, hitem, h⟩ := Option.bind_eq_some_iff.1 h
    obtain ⟨more, hmore, ⟨⟩⟩ := Option.bind_eq_some_iff.1 h
    exact .append (.padded hmark hitems hitem) (ih hmore)
  | case16 mark c rest _ _ _ _ _ _ _ _ _ _ _ _ ih =>
    obtain ⟨found, hitems, h⟩ := Option.bind_eq_some_iff.1 h
    obtain ⟨more, hmore, ⟨⟩⟩ := Option.bind_eq_some_iff.1 h
    exact .append (.directive hitems) (ih hmore)
  | case17 c rest hc ih => exact reads_of_spells (.literal hc) ih h

/-- **A format is read exactly if it is a row of literals and directives.** -/
theorem parse?_eq_some_iff : parse? text = some items ↔ Reads text items := by
  refine ⟨reads_of_parse?, fun h => ?_⟩
  have hread := parse?_of_reads h []
  rwa [List.append_nil, parse?, Option.map_some, List.append_nil] at hread

/-! ## What can be rendered -/

/-- The directive `%#z`, for an offset in any form, stands in the text: behind a format, so that
its percent sign is no part of another directive. -/
def AsksAnyOffset (text : List Char) : Prop :=
  ∃ before after items, Reads before items ∧ text = before ++ ['%', '#', 'z'] ++ after

theorem not_mem_of_directive? {c : Char} (h : directive? c = some items) :
    .fixed .zoneOffsetAny ∉ items := by
  unfold directive? at h
  split at h <;> cases h <;> decide

/-- Only `%#z` is an item that cannot be written. -/
theorem eq_of_spells (h : Spells part items) (hmem : .fixed .zoneOffsetAny ∈ items) :
    part = ['%', '#', 'z'] := by
  cases h with
  | literal => simp at hmem
  | directive hitems => exact absurd hmem (not_mem_of_directive? hitems)
  | @padded _ _ _ items _ _ _ hitem =>
    rw [padded?.eq_def] at hitem
    split at hitem <;> cases hitem
    simp at hmem
  | long hname =>
    cases List.mem_singleton.1 hmem
    simpa [longDirectives] using hname

/-- The item that cannot be written comes from `%#z` alone. -/
theorem mem_iff_asksAnyOffset (h : parse? text = some items) :
    .fixed .zoneOffsetAny ∈ items ↔ AsksAnyOffset text := by
  constructor
  · intro hmem
    replace h := parse?_eq_some_iff.1 h
    induction h with
    | nil => cases hmem
    | @append part rest found more hpart _ ih =>
      rcases List.mem_append.1 hmem with hfound | hmore
      · obtain rfl := eq_of_spells hpart hfound
        exact ⟨[], rest, [], .nil, rfl⟩
      · obtain ⟨before, after, items, hbefore, rfl⟩ := ih hmore
        exact ⟨part ++ before, after, _, .append hpart hbefore, by simp⟩
  · rintro ⟨before, after, earlier, hbefore, rfl⟩
    rw [List.append_assoc, parse?_of_reads hbefore,
      parse?_of_spells (.long (by decide : (['#', 'z'], FixedField.zoneOffsetAny) ∈ _))] at h
    obtain ⟨later, hlater, rfl⟩ := Option.map_eq_some_iff.1 h
    obtain ⟨last, -, rfl⟩ := Option.map_eq_some_iff.1 hlater
    simp

theorem itemText?_eq_none_iff (time : CivilTime) (item : TimeItem) :
    time.itemText? item = none ↔ item = .fixed .zoneOffsetAny := by
  rcases item with c | ⟨field, padding⟩ | field
  · simp [CivilTime.itemText?]
  · simp [CivilTime.itemText?]
  · cases field <;> cases hday : time.isAfternoon <;>
      simp [CivilTime.itemText?, CivilTime.fixedText?, hday]

/-- A moment cannot be rendered exactly if the format has the item that cannot be written, whatever
the moment. -/
theorem render?_eq_none_iff (time : CivilTime) (items : List TimeItem) :
    render? time items = none ↔ .fixed .zoneOffsetAny ∈ items := by
  induction items with
  | nil => simp [render?]
  | cons item items ih =>
    have hitem : .fixed .zoneOffsetAny = item ↔ time.itemText? item = none := by
      rw [itemText?_eq_none_iff, eq_comm]
    rw [render?, List.mem_cons, ← ih, hitem]
    cases time.itemText? item <;> cases render? time items <;> simp

/-- The start of 1970 where clocks are behind by three hours, thirty minutes and forty seconds: the
offset is shown to the nearest minute, unless seconds are asked for. -/
example : (parse? "%F %T %z %::z".toList).bind
    (render? (.ofMoment ⟨0, 0, ⟨-12640, by decide⟩⟩)) =
      some "1969-12-31 20:29:20 -0331 -03:30:40" := by
  decide +kernel

end TimeFormat

/-! ## Output names -/

namespace OutputName

variable {name : OutputName} {text : String}

/-- The failure of a name that cannot be rendered. -/
def unwritable (text : String) : Failure := .config ("Cannot format '" ++ text ++ "'")

theorem text_of_parse (h : parse text = .ok name) : name.text = text := by
  rw [parse] at h
  split at h
  · cases h
  · split at h <;> cases h
    rfl

theorem render?_items_eq_none_iff (name : OutputName) (time : CivilTime) :
    TimeFormat.render? time name.items = none ↔ TimeFormat.AsksAnyOffset name.text.toList := by
  rw [TimeFormat.render?_eq_none_iff, TimeFormat.mem_iff_asksAnyOffset name.parse_text]

theorem exists_render_iff (name : OutputName) (home : HomeSource) (moment : Moment) :
    (∃ path, name.render home moment = .ok path) ↔
      ¬TimeFormat.AsksAnyOffset name.text.toList := by
  rw [← render?_items_eq_none_iff name (.ofMoment moment), render]
  cases TimeFormat.render? (.ofMoment moment) name.items <;> simp

theorem render_of_asksAnyOffset (h : TimeFormat.AsksAnyOffset name.text.toList)
    (home : HomeSource) (moment : Moment) :
    name.render home moment = .error (unwritable name.text) := by
  rw [← render?_items_eq_none_iff name (.ofMoment moment)] at h
  rw [render, h]
  rfl

theorem runOn_prepare_of_render {home : HomeSource} {moment : Moment} {failure : Failure}
    (h : name.render home moment = .error failure) (tree : FileTree) :
    (name.prepare home moment).runOn tree = (.error failure, tree, []) := by
  rw [Act.runOn, prepare, h]
  rfl

/-- A save whose file cannot be named fails with nothing done. -/
theorem runOn_save_of_render {μ : Type} {desk : SaveDesk μ} {failure : Failure}
    (h : desk.saver.name.render desk.home desk.moment = .error failure) :
    (SaveDesk.save : Act (SaveDesk μ) SaveReport).runOn desk = (.error failure, desk, []) := by
  have hnamed : (SaveDesk.onFiles (desk.saver.name.prepare desk.home desk.moment) :
      Act (SaveDesk μ) String).run.run { state := desk } = (.error failure, { state := desk }) := by
    rw [SaveDesk.onFiles, Act.run_within, runOn_prepare_of_render h]
    rfl
  rw [Act.runOn, SaveDesk.save, Act.run_bind_ok (Act.run_state _), Act.run_bind_error hnamed]

/-- Settings that are taken have the name that is read from their template. -/
theorem parse_of_plan {settings : Settings} {usualSocket : String} {plan : RecordingPlan}
    (h : settings.plan usualSocket = .ok plan) :
    parse settings.output.template = .ok plan.output := by
  rw [Settings.plan] at h
  cases hparse : parse settings.output.template with
  | error failure =>
    rw [hparse] at h
    cases h
  | ok output =>
    simp only [hparse, bind, Except.bind] at h
    split at h
    · cases h
    · cases h
      rfl

/-- **An output name that was read can be rendered at every moment, unless it asks for the offset in
any form.** With `%#z` in its text it is read, also as the name of settings that are taken, but it
can be rendered at no moment, and every save under it fails before anything is done. -/
theorem renders_iff (h : parse text = .ok name) :
    (∀ home moment, (∃ path, name.render home moment = .ok path) ↔
      ¬TimeFormat.AsksAnyOffset text.toList) ∧
    (∀ (settings : Settings) (usualSocket : String) (plan : RecordingPlan),
      settings.plan usualSocket = .ok plan → settings.output.template = text →
        plan.output = name) ∧
    (TimeFormat.AsksAnyOffset text.toList → ∀ {μ : Type} (desk : SaveDesk μ),
      desk.saver.name = name →
        (SaveDesk.save : Act (SaveDesk μ) SaveReport).runOn desk =
          (.error (unwritable text), desk, [])) := by
  refine ⟨?_, ?_, ?_⟩
  · rw [← text_of_parse h]
    exact exists_render_iff name
  · rintro settings usualSocket plan hplan rfl
    rw [parse_of_plan hplan] at h
    exact Except.ok.inj h
  · rw [← text_of_parse h]
    rintro hasks μ desk rfl
    exact runOn_save_of_render (render_of_asksAnyOffset hasks _ _)

/-- A percent sign that is asked for is no start of the directive. -/
theorem renders_iff_percent : ∃ name, parse "%%#z" = .ok name ∧
    ∀ home moment, ∃ path, name.render home moment = .ok path := by
  obtain ⟨name, hname⟩ : ∃ name, parse "%%#z" = .ok name := ⟨_, rfl⟩
  have hasks : ¬TimeFormat.AsksAnyOffset "%%#z".toList := by
    rw [← TimeFormat.mem_iff_asksAnyOffset rfl]
    decide
  exact ⟨name, hname, fun home moment => ((renders_iff hname).1 home moment).2 hasks⟩

/-- Settings with `%#z` in the name of the replays are taken, but no replay can be named. -/
theorem not_renders_anyOffset : ∃ plan,
    ({ output := { template := "replay_%#z" } } : Settings).plan "trigger.sock" = .ok plan ∧
    parse "replay_%#z" = .ok plan.output ∧
    ∀ home moment, plan.output.render home moment = .error (unwritable "replay_%#z") :=
  ⟨_, rfl, rfl, fun _ _ => rfl⟩

end OutputName

end InstantReplay
