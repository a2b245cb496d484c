import InstantReplay.Keyboard.Hotkey
import InstantReplay.Proofs.Text.LowerCase
import Mathlib.Data.List.Sort

/-!
# The grammar of hotkeys

A text is a hotkey if its parts are one name of a key and names of keys to be held
(`IsHotkey`), wherever they stand, and it means that key with the set of those to be held (`Means`,
`Hotkey.parse_eq_ok_iff`). So the parts can be put in another order, repeated, written by other
names, in other letters and with blanks around them (`Respelled`), and the hotkey is the same.
-/

namespace InstantReplay

/-! ## Names of keys -/

namespace KeyCode

variable {name : String} {key : KeyCode}

/-- The names of keys that are held with others. -/
def heldNames : List String := holders.flatMap (·.1)

theorem mem_heldNames (h : holder? name = some key) : name ∈ heldNames := by
  obtain ⟨entry, hfind, -⟩ := Option.map_eq_some_iff.1 h
  exact List.mem_flatMap.2
    ⟨entry, List.mem_of_find?_eq_some hfind, by simpa using List.find?_some hfind⟩

theorem mem_names (h : named? name = some key) : name ∈ names.map (·.1) := by
  obtain ⟨front, behind, hsplit, -⟩ := List.lookup_eq_some_iff.1 h
  simp [hsplit]

/-- A key to be held is no key by itself. -/
theorem named?_of_holder? (h : holder? name = some key) : named? name = none := by
  have hall : ∀ name ∈ heldNames, named? name = none := by decide
  exact hall name (mem_heldNames h)

theorem holder?_of_named? (h : named? name = some key) : holder? name = none := by
  cases hholder : holder? name with
  | none => rfl
  | some modifier =>
    rw [named?_of_holder? hholder] at h
    cases h

theorem named?_empty : named? "" = none := by decide

theorem holder?_empty : holder? "" = none := by decide

end KeyCode

namespace Hotkey

open KeyCode (holder? named?)

/-! ## Ascending lists of keys -/

theorem mem_insert {other key : KeyCode} {sorted : List KeyCode} :
    other ∈ insert key sorted ↔ other = key ∨ other ∈ sorted := by
  induction sorted with
  | nil => simp [insert]
  | cons first rest ih =>
    rw [insert]
    split_ifs with hless hsame
    · exact List.mem_cons
    · subst hsame
      simp
    · rw [List.mem_cons, List.mem_cons, ih, or_left_comm]

theorem pairwise_insert {key : KeyCode} {sorted : List KeyCode}
    (h : sorted.Pairwise (· < ·)) : (insert key sorted).Pairwise (· < ·) := by
  induction sorted with
  | nil => simp [insert]
  | cons first rest ih =>
    obtain ⟨hfirst, hrest⟩ := List.pairwise_cons.1 h
    rw [insert]
    split_ifs with hless hsame
    · refine List.pairwise_cons.2 ⟨fun other hother => ?_, h⟩
      rcases List.mem_cons.1 hother with rfl | hother
      · exact hless
      · exact hless.trans (hfirst other hother)
    · exact h
    · refine List.pairwise_cons.2 ⟨fun other hother => ?_, ih hrest⟩
      rcases mem_insert.1 hother with rfl | hother
      · exact lt_of_le_of_ne (not_lt.1 hless) (Ne.symm hsame)
      · exact hfirst other hother

theorem mem_foldl_insert {other : KeyCode} (keys sorted : List KeyCode) :
    other ∈ keys.foldl (fun sorted key => insert key sorted) sorted ↔
      other ∈ keys ∨ other ∈ sorted := by
  induction keys generalizing sorted with
  | nil => simp
  | cons key keys ih =>
    rw [List.foldl_cons, ih, mem_insert, List.mem_cons, or_left_comm, or_assoc]

theorem pairwise_foldl_insert (keys : List KeyCode) {sorted : List KeyCode}
    (h : sorted.Pairwise (· < ·)) :
    (keys.foldl (fun sorted key => insert key sorted) sorted).Pairwise (· < ·) := by
  induction keys generalizing sorted with
  | nil => exact h
  | cons key keys ih => exact ih (pairwise_insert h)

theorem mem_modifiers_make {other key : KeyCode} {modifiers : List KeyCode} :
    other ∈ (make modifiers key).modifiers ↔ other ∈ modifiers := by
  rw [make, mem_foldl_insert]
  simp

theorem pairwise_modifiers_make (modifiers : List KeyCode) (key : KeyCode) :
    (make modifiers key).modifiers.Pairwise (· < ·) :=
  pairwise_foldl_insert modifiers List.Pairwise.nil

/-- A hotkey is made of the keys that are its modifiers, in any order and however often. -/
theorem make_eq {modifiers : List KeyCode} {hotkey : Hotkey}
    (hsorted : hotkey.modifiers.Pairwise (· < ·))
    (hmem : ∀ key, key ∈ hotkey.modifiers ↔ key ∈ modifiers) :
    make modifiers hotkey.key = hotkey := by
  have hmodifiers : (make modifiers hotkey.key).modifiers = hotkey.modifiers :=
    (pairwise_modifiers_make modifiers hotkey.key).eq_of_mem_iff hsorted fun key =>
      mem_modifiers_make.trans (hmem key).symm
  cases hotkey
  exact congrArg (Hotkey.mk · _) hmodifiers

/-! ## Reading the parts -/

variable {text part : String} {reading next last : Reading}

/-- What one more part does. -/
theorem read_eq_ok_iff : read text reading part = .ok next ↔
    (∃ modifier, holder? part = some modifier ∧
      next = { reading with modifiers := reading.modifiers ++ [modifier] }) ∨
    (holder? part = none ∧ reading.key = none ∧
      ∃ key, named? part = some key ∧ next = { reading with key := some key }) := by
  rw [read]
  cases hholder : holder? part with
  | some modifier => simp [eq_comm]
  | none =>
    by_cases hempty : part.isEmpty
    · have hnone : named? part = none := by
        rw [String.isEmpty_iff.1 hempty]
        exact KeyCode.named?_empty
      simp [hempty, hnone]
    · cases hkey : reading.key with
      | some key => simp [hempty]
      | none => cases hnamed : named? part <;> simp [hempty, eq_comm]

/-- A name of a key, or of one to be held. -/
def IsName (name : String) : Prop := (named? name).isSome ∨ (holder? name).isSome

/-- **What all parts do**: each is a name, and there is at most one key among them and those that
were read before. -/
theorem foldlM_read_eq_ok_iff {parts : List String} :
    parts.foldlM (read text) reading = .ok last ↔
      (∀ part ∈ parts, IsName part) ∧
      last.modifiers = reading.modifiers ++ parts.filterMap holder? ∧
      last.key.toList = reading.key.toList ++ parts.filterMap named? := by
  induction parts generalizing reading with
  | nil =>
    obtain ⟨modifiers, _ | key⟩ := reading <;> obtain ⟨modifiers', _ | key'⟩ := last <;>
      simp [pure, Except.pure, eq_comm]
  | cons part parts ih =>
    have hbind : (part :: parts).foldlM (read text) reading = .ok last ↔
        ∃ next, read text reading part = .ok next ∧ parts.foldlM (read text) next = .ok last := by
      rw [List.foldlM_cons]
      cases read text reading part <;> simp [bind, Except.bind]
    rw [hbind, List.forall_mem_cons]
    constructor
    · rintro ⟨next, hread, hrest⟩
      obtain ⟨hnames, hmodifiers, hkey⟩ := ih.1 hrest
      rcases read_eq_ok_iff.1 hread with
        ⟨modifier, hholder, rfl⟩ | ⟨hholder, hfree, key, hnamed, rfl⟩
      · have hnone := KeyCode.named?_of_holder? hholder
        exact ⟨⟨.inr (by simp [hholder]), hnames⟩, by simp [hmodifiers, hholder],
          by simp [hkey, hnone]⟩
      · exact ⟨⟨.inl (by simp [hnamed]), hnames⟩, by simp [hmodifiers, hholder],
          by simp [hkey, hnamed, hfree]⟩
    · rintro ⟨⟨hname, hnames⟩, hmodifiers, hkey⟩
      cases hholder : holder? part with
      | some modifier =>
        have hnone := KeyCode.named?_of_holder? hholder
        exact ⟨_, read_eq_ok_iff.2 (.inl ⟨modifier, hholder, rfl⟩),
          ih.2 ⟨hnames, by simpa [hholder] using hmodifiers, by simpa [hnone] using hkey⟩⟩
      | none =>
        obtain ⟨key, hnamed⟩ : ∃ key, named? part = some key := by
          simpa [IsName, hholder, Option.isSome_iff_exists] using hname
        have hfree : reading.key = none := by
          rw [List.filterMap_cons_some hnamed] at hkey
          have hone : (reading.key.toList ++ key :: parts.filterMap named?).length ≤ 1 :=
            hkey ▸ Option.length_toList_le
          cases hfound : reading.key with
          | none => rfl
          | some other => simp [hfound] at hone
        exact ⟨_, read_eq_ok_iff.2 (.inr ⟨hholder, hfree, key, hnamed, rfl⟩),
          ih.2 ⟨hnames, by simpa [hholder] using hmodifiers, by simpa [hnamed, hfree] using hkey⟩⟩

/-! ## The grammar -/

/-- The grammar of hotkeys, on the parts of a text: none is empty, exactly one is the name of a key,
and all others are names of keys to be held. -/
structure IsHotkey (names : List String) : Prop where
  ne_empty : "" ∉ names
  one_key : names.countP (fun name => (named? name).isSome) = 1
  others : ∀ name ∈ names, named? name = none → (holder? name).isSome

/-- The hotkey that the parts of a text mean: the key that is named, and the set of the left keys of
those to be held. -/
structure Means (names : List String) (hotkey : Hotkey) : Prop where
  key : ∃ name ∈ names, named? name = some hotkey.key
  modifiers : ∀ key, key ∈ hotkey.modifiers ↔ ∃ name ∈ names, holder? name = some key
  ascending : hotkey.modifiers.Pairwise (· < ·)

variable {names : List String} {hotkey : Hotkey}

theorem filterMap_named?_eq_singleton_iff {key : KeyCode} :
    names.filterMap named? = [key] ↔
      names.countP (fun name => (named? name).isSome) = 1 ∧
        ∃ name ∈ names, named? name = some key := by
  rw [← List.length_filterMap_eq_countP, List.length_eq_one_iff, ← List.mem_filterMap]
  constructor
  · intro h
    rw [h]
    exact ⟨⟨key, rfl⟩, List.mem_singleton_self key⟩
  · rintro ⟨⟨other, hother⟩, hmem⟩
    rw [hother, List.mem_singleton] at hmem
    rw [hother, hmem]

/-- The grammar, as the parts are read one by one. -/
theorem isHotkey_and_means_iff : IsHotkey names ∧ Means names hotkey ↔
    (∀ name ∈ names, IsName name) ∧ names.filterMap named? = [hotkey.key] ∧
      (∀ key, key ∈ hotkey.modifiers ↔ ∃ name ∈ names, holder? name = some key) ∧
        hotkey.modifiers.Pairwise (· < ·) := by
  rw [filterMap_named?_eq_singleton_iff]
  constructor
  · rintro ⟨hhotkey, hmeans⟩
    refine ⟨fun name hname => ?_, ⟨hhotkey.one_key, hmeans.key⟩, hmeans.modifiers, hmeans.ascending⟩
    cases hnamed : named? name with
    | some key => exact .inl (by simp [hnamed])
    | none => exact .inr (hhotkey.others name hname hnamed)
  · rintro ⟨hnames, ⟨hone, hkey⟩, hmodifiers, hascending⟩
    refine ⟨⟨fun hempty => ?_, hone, fun name hname hnamed => ?_⟩, hkey, hmodifiers, hascending⟩
    · have hname := hnames "" hempty
      rw [IsName, KeyCode.named?_empty, KeyCode.holder?_empty] at hname
      simp at hname
    · exact (hnames name hname).resolve_left (by simp [hnamed])

theorem parse_eq_ok_iff_foldlM : parse text = .ok hotkey ↔ ∃ last : Reading,
    (parts text).foldlM (read text) {} = .ok last ∧
      last.key = some hotkey.key ∧ make last.modifiers hotkey.key = hotkey := by
  rw [parse]
  cases (parts text).foldlM (read text) {} with
  | error failure => simp [bind, Except.bind]
  | ok last =>
    cases hkey : last.key with
    | none => simp [bind, Except.bind, hkey, throw, throwThe, MonadExceptOf.throw]
    | some key =>
      simp only [bind, Except.bind, hkey, pure, Except.pure, Except.ok.injEq, exists_eq_left',
        Option.some.injEq]
      constructor
      · rintro rfl
        exact ⟨rfl, rfl⟩
      · rintro ⟨rfl, hmake⟩
        exact hmake

/-- **A text is a hotkey if its parts follow the grammar, and it is the one that they mean.** -/
theorem parse_eq_ok_iff :
    parse text = .ok hotkey ↔ IsHotkey (parts text) ∧ Means (parts text) hotkey := by
  rw [parse_eq_ok_iff_foldlM, isHotkey_and_means_iff]
  constructor
  · rintro ⟨last, hread, hkey, hmake⟩
    obtain ⟨hnames, hmodifiers, hkeys⟩ := foldlM_read_eq_ok_iff.1 hread
    have hone : (parts text).filterMap named? = [hotkey.key] := by
      simpa [hkey] using hkeys.symm
    refine ⟨hnames, hone, fun key => ?_, hmake ▸ pairwise_modifiers_make _ _⟩
    rw [← List.mem_filterMap, ← hmake, mem_modifiers_make, hmodifiers, List.nil_append]
  · rintro ⟨hnames, hkey, hmodifiers, hascending⟩
    refine ⟨⟨(parts text).filterMap holder?, some hotkey.key⟩,
      foldlM_read_eq_ok_iff.2 ⟨hnames, (List.nil_append _).symm, ?_⟩, rfl, make_eq hascending ?_⟩
    · simp [hkey]
    · simpa only [List.mem_filterMap] using hmodifiers

/-- Parts that follow the grammar mean a hotkey. -/
theorem exists_means (h : IsHotkey names) : ∃ hotkey, Means names hotkey := by
  obtain ⟨name, hname, hnamed⟩ := List.countP_pos_iff.1 (h.one_key.symm ▸ Nat.one_pos)
  obtain ⟨key, hkey⟩ := Option.isSome_iff_exists.1 hnamed
  exact ⟨make (names.filterMap holder?) key, ⟨name, hname, hkey⟩,
    fun other => mem_modifiers_make.trans List.mem_filterMap, pairwise_modifiers_make _ _⟩

/-! ## Hotkeys that are written in another way -/

/-- The parts of a text as they are written. -/
def pieces (text : String) : List String := (text.toList.splitOn '+').map String.ofList

/-- A part in small letters, without blanks around it. -/
def clean (part : String) : String := trimmed (lowerCase part)

theorem clean_eq (part : String) :
    clean part = String.ofList (trim (LowerCase.ofChars [] part.toList)) := by
  rw [clean, trimmed, lowerCase, String.toList_ofList]

theorem parts_eq_map_clean (text : String) : parts text = (pieces text).map clean := by
  rw [parts, lowerCase, String.toList_ofList, LowerCase.splitOn_ofChars, pieces, List.map_map,
    List.map_map]
  refine List.map_congr_left fun part _ => ?_
  rw [Function.comp_apply, Function.comp_apply, clean_eq, String.toList_ofList]

/-- What a part means: a key to be held or a key, or neither. -/
def meaning (part : String) : Option KeyCode × Option KeyCode :=
  (holder? (clean part), named? (clean part))

/-- A part that is written in another way: in letters of another case, with blanks around it, or by
another name of the same key. -/
inductive SamePart : String → String → Prop
  | letters {part other : String} :
      LowerCase.SameLetters part.toList other.toList → SamePart part other
  | blanks (front part behind : String) : (∀ c ∈ front.toList, isBlank c) →
      (∀ c ∈ behind.toList, isBlank c) → SamePart part (front ++ part ++ behind)
  | held {part other : String} {key : KeyCode} :
      holder? (clean part) = some key → holder? (clean other) = some key → SamePart part other
  | named {part other : String} {key : KeyCode} :
      named? (clean part) = some key → named? (clean other) = some key → SamePart part other

theorem clean_blanks {front behind : String} (part : String)
    (hfront : ∀ c ∈ front.toList, isBlank c) (hbehind : ∀ c ∈ behind.toList, isBlank c) :
    clean (front ++ part ++ behind) = clean part := by
  rw [clean_eq, String.toList_append, String.toList_append,
    LowerCase.ofChars_append_marks fun c hc => LowerCase.isMark_of_isBlank (hbehind c hc),
    LowerCase.ofChars_marks_append fun c hc => LowerCase.isMark_of_isBlank (hfront c hc),
    trim_append hfront hbehind, clean_eq]

/-- Nothing in a name tells of the letters that are not put in lower case by themselves. -/
theorem not_mem_traces_of_isName {name : String} (h : IsName name) :
    ∀ c ∈ name.toList, c ∉ LowerCase.traces := by
  have hall : (KeyCode.heldNames ++ KeyCode.names.map (·.1)).all fun name =>
      name.toList.all (· ∉ LowerCase.traces) := by decide +kernel
  have hname : name ∈ KeyCode.heldNames ++ KeyCode.names.map (·.1) := by
    rw [List.mem_append]
    rcases h with h | h
    · obtain ⟨key, hkey⟩ := Option.isSome_iff_exists.1 h
      exact .inr (KeyCode.mem_names hkey)
    · obtain ⟨key, hkey⟩ := Option.isSome_iff_exists.1 h
      exact .inl (KeyCode.mem_heldNames hkey)
  exact fun c hc =>
    of_decide_eq_true (List.all_eq_true.1 (List.all_eq_true.1 hall name hname) c hc)

/-- A name in letters of another case is the same name. -/
theorem clean_of_sameLetters {part other : String}
    (hsame : LowerCase.SameLetters part.toList other.toList) (hname : IsName (clean part)) :
    clean other = clean part := by
  have htraces : ∀ c ∈ LowerCase.ofChars [] part.toList, c ∉ LowerCase.traces := by
    intro c hc
    rcases isBlank_or_mem_trim hc with hblank | hmem
    · have hall : LowerCase.traces.all (!isBlank ·) := by decide
      intro htrace
      have hc := List.all_eq_true.1 hall c htrace
      rw [hblank] at hc
      cases hc
    · refine not_mem_traces_of_isName hname c ?_
      rwa [clean_eq, String.toList_ofList]
  rw [clean_eq, clean_eq, hsame.ofChars_eq [] [] htraces]

theorem meaning_eq_none {part : String} (h : ¬IsName (clean part)) :
    meaning part = (none, none) := by
  rw [IsName, not_or, Option.not_isSome_iff_eq_none, Option.not_isSome_iff_eq_none] at h
  rw [meaning, h.1, h.2]

theorem SamePart.meaning_eq {part other : String} (h : SamePart part other) :
    meaning part = meaning other := by
  cases h with
  | letters hsame =>
    -- Only names are put in lower case alike; but what is no name means nothing.
    by_cases hpart : IsName (clean part)
    · rw [meaning, meaning, clean_of_sameLetters hsame hpart]
    · by_cases hother : IsName (clean other)
      · rw [meaning, meaning, clean_of_sameLetters hsame.symm hother]
      · rw [meaning_eq_none hpart, meaning_eq_none hother]
  | blanks _ _ _ hfront hbehind => rw [meaning, meaning, clean_blanks part hfront hbehind]
  | held hpart hother =>
    rw [meaning, meaning, hpart, hother, KeyCode.named?_of_holder? hpart,
      KeyCode.named?_of_holder? hother]
  | named hpart hother =>
    rw [meaning, meaning, hpart, hother, KeyCode.holder?_of_named? hpart,
      KeyCode.holder?_of_named? hother]

/-- Parts that are written in another way: in another order, with a key to be held named once more,
or with a part written in another way. -/
inductive Respelled : List String → List String → Prop
  | order {parts others : List String} : parts.Perm others → Respelled parts others
  | again {part : String} {parts : List String} : part ∈ parts → (holder? (clean part)).isSome →
      Respelled parts (part :: parts)
  | part {part other : String} (front behind : List String) : SamePart part other →
      Respelled (front ++ part :: behind) (front ++ other :: behind)
  | symm {parts others : List String} : Respelled parts others → Respelled others parts
  | trans {parts others more : List String} : Respelled parts others → Respelled others more →
      Respelled parts more

/-- What parts mean does not depend on their order, nor on how often a key is to be held. -/
theorem means_congr {names others : List String} (hotkey : Hotkey)
    (hnames : (∀ name ∈ names, IsName name) ↔ ∀ name ∈ others, IsName name)
    (hnamed : (names.filterMap named?).Perm (others.filterMap named?))
    (hheld : ∀ key, key ∈ names.filterMap holder? ↔ key ∈ others.filterMap holder?) :
    IsHotkey names ∧ Means names hotkey ↔ IsHotkey others ∧ Means others hotkey := by
  have hkey : names.filterMap named? = [hotkey.key] ↔ others.filterMap named? = [hotkey.key] :=
    ⟨fun h => List.perm_singleton.1 (h ▸ hnamed.symm), fun h => List.perm_singleton.1 (h ▸ hnamed)⟩
  simp only [List.mem_filterMap] at hheld
  simp only [isHotkey_and_means_iff, hnames, hkey, hheld]

/-- Parts that are written in another way mean the same hotkey, if any. -/
theorem Respelled.means_iff {parts others : List String} (h : Respelled parts others)
    (hotkey : Hotkey) :
    IsHotkey (parts.map clean) ∧ Means (parts.map clean) hotkey ↔
      IsHotkey (others.map clean) ∧ Means (others.map clean) hotkey := by
  induction h with
  | order hperm =>
    have hclean := hperm.map clean
    exact means_congr hotkey (by simp only [hclean.mem_iff]) (hclean.filterMap named?)
      fun key => (hclean.filterMap holder?).mem_iff
  | @again part parts hmem hholder =>
    obtain ⟨key, hkey⟩ := Option.isSome_iff_exists.1 hholder
    have hmem : clean part ∈ parts.map clean := List.mem_map_of_mem hmem
    have hheld : key ∈ (parts.map clean).filterMap holder? := List.mem_filterMap.2 ⟨_, hmem, hkey⟩
    rw [List.map_cons]
    refine means_congr hotkey ?_ ?_ fun other => ?_
    · rw [List.forall_mem_cons, and_iff_right_of_imp fun h => h _ hmem]
    · rw [List.filterMap_cons_none (KeyCode.named?_of_holder? hkey)]
    · rw [List.filterMap_cons_some hkey, List.mem_cons, or_iff_right_of_imp]
      rintro rfl
      exact hheld
  | part front behind hsame =>
    obtain ⟨hholder, hnamed⟩ := Prod.mk.inj hsame.meaning_eq
    simp only [List.map_append, List.map_cons]
    refine means_congr hotkey ?_ ?_ fun key => ?_
    · simp only [List.forall_mem_append, List.forall_mem_cons, IsName, hholder, hnamed]
    · simp only [List.filterMap_append, List.filterMap_cons, hnamed]
      exact List.Perm.refl _
    · simp only [List.filterMap_append, List.filterMap_cons, hholder]
  | symm _ ih => exact ih.symm
  | trans _ _ ih ih' => exact ih.trans ih'

/-- **Hotkeys are read by their grammar.** A text is read as a hotkey just when its parts are one
name of a key and names of keys to be held, and none is empty; the hotkey is that key with the set
of those to be held. So a text whose parts are in another order, or name a key to be held once more,
or are written by other names, in letters of another case or with blanks around them, is read as the
same hotkey. -/
theorem parse_spec (text : String) :
    ((∃ hotkey, parse text = .ok hotkey) ↔ IsHotkey (parts text)) ∧
    (∀ hotkey, parse text = .ok hotkey ↔ IsHotkey (parts text) ∧ Means (parts text) hotkey) ∧
    ∀ other, Respelled (pieces text) (pieces other) →
      ∀ hotkey, parse text = .ok hotkey ↔ parse other = .ok hotkey := by
  refine ⟨⟨?_, fun h => ?_⟩, fun hotkey => parse_eq_ok_iff, fun other hother hotkey => ?_⟩
  · rintro ⟨hotkey, hparse⟩
    exact (parse_eq_ok_iff.1 hparse).1
  · obtain ⟨hotkey, hmeans⟩ := exists_means h
    exact ⟨hotkey, parse_eq_ok_iff.2 ⟨h, hmeans⟩⟩
  · rw [parse_eq_ok_iff, parse_eq_ok_iff, parts_eq_map_clean, parts_eq_map_clean]
    exact hother.means_iff hotkey

/-- The same hotkey with everything changed that can be. -/
theorem parse_spec_respelled :
    Respelled (pieces "ctrl+shift+f9") (pieces "f9\t+SHIFT+control+ctrl") ∧
      parse "f9\t+SHIFT+control+ctrl" = .ok ⟨[29, 42], 67⟩ := by
  have hagain : Respelled ["ctrl", "shift", "f9"] ["ctrl", "ctrl", "shift", "f9"] :=
    .again (by decide) (by decide +kernel)
  have hname : Respelled ["ctrl", "ctrl", "shift", "f9"] ["control", "ctrl", "shift", "f9"] :=
    .part [] _ (.held (by decide +kernel : holder? (clean "ctrl") = some 29) (by decide +kernel))
  have hletters : Respelled ["control", "ctrl", "shift", "f9"] ["control", "ctrl", "SHIFT", "f9"] :=
    .part ["control", "ctrl"] _ (.letters (by rw [LowerCase.SameLetters]; decide +kernel))
  have hblanks :
      Respelled ["control", "ctrl", "SHIFT", "f9"] ["control", "ctrl", "SHIFT", "f9\t"] :=
    .part ["control", "ctrl", "SHIFT"] [] (.blanks "" "f9" "\t" (by simp) (by simp [isBlank]))
  have horder :
      Respelled ["control", "ctrl", "SHIFT", "f9\t"] ["f9\t", "SHIFT", "control", "ctrl"] :=
    .order (by decide)
  have hrespelled : Respelled (pieces "ctrl+shift+f9") (pieces "f9\t+SHIFT+control+ctrl") :=
    hagain.trans (hname.trans (hletters.trans (hblanks.trans horder)))
  have hparse : parse "ctrl+shift+f9" = .ok ⟨[29, 42], 67⟩ := rfl
  exact ⟨hrespelled, ((parse_spec "ctrl+shift+f9").2.2 _ hrespelled _).1 hparse⟩

end Hotkey

end InstantReplay
