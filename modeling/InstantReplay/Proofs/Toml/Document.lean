import InstantReplay.Proofs.Toml.Scalar

/-!
# TOML documents that are read back

A document of sections, each a header and lines with a key and a value, is read line by line
(`TomlDocument.Says`) and makes one table for each section (`TomlDocument.build?_outline`). Keys
are written without quotes.
-/

namespace InstantReplay.TomlDocument

open TomlText (isGap)

variable {key text name : String} {value : TomlValue} {rest behind : List Char}

/-! ## Keys -/

/-- A key that needs no quotes. -/
def IsBareKey (key : String) : Prop := key.toList ≠ [] ∧ ∀ c ∈ key.toList, isBare c

instance (key : String) : Decidable (IsBareKey key) :=
  decidable_of_iff (key.toList ≠ [] ∧ key.toList.all isBare) (by rw [IsBareKey, List.all_eq_true])

/-- A character of a key is none of those that mean something. -/
theorem ne_of_isBare {c other : Char} (hc : isBare c) (hother : isBare other = false) :
    c ≠ other := by
  rintro rfl
  rw [hother] at hc
  cases hc

theorem isGap_of_isBare {c : Char} (hc : isBare c) : isGap c = false := by
  simp [isGap, ne_of_isBare hc (by decide : isBare ' ' = false),
    ne_of_isBare hc (by decide : isBare '\t' = false)]

theorem IsBareKey.exists_cons (hkey : IsBareKey key) :
    ∃ first chars, key.toList = first :: chars ∧ isBare first := by
  obtain ⟨first, chars, hchars⟩ := List.exists_cons_of_ne_nil hkey.1
  exact ⟨first, chars, hchars, hkey.2 first (hchars ▸ List.mem_cons_self)⟩

/-- What begins with a key does not begin with a character that means something. -/
theorem IsBareKey.append_ne_cons (hkey : IsBareKey key) {other : Char}
    (hother : isBare other = false) (rest more : List Char) :
    key.toList ++ rest ≠ other :: more := by
  obtain ⟨first, chars, hchars, hfirst⟩ := hkey.exists_cons
  rw [hchars]
  exact fun h => ne_of_isBare hfirst hother (List.cons.inj h).1

theorem skipGaps_cons {c : Char} (hc : isGap c = false) (rest : List Char) :
    skipGaps (c :: rest) = c :: rest :=
  List.dropWhile_cons_of_neg (by simp [hc])

/-- A key is read up to what cannot be part of it. -/
theorem key?_append (hkey : IsBareKey key) {c : Char} (rest : List Char) (hc : isBare c = false)
    (hdot : (skipGaps (c :: rest)).head? ≠ some '.') :
    key? (key.toList ++ c :: rest) = some (([], key), skipGaps (c :: rest)) := by
  have htake : (key.toList ++ c :: rest).takeWhile isBare = key.toList := by
    rw [List.takeWhile_append_of_pos hkey.2, List.takeWhile_cons_of_neg (by simp [hc]),
      List.append_nil]
  have hdrop : (key.toList ++ c :: rest).dropWhile isBare = c :: rest := by
    rw [List.dropWhile_append_of_pos hkey.2, List.dropWhile_cons_of_neg (by simp [hc])]
  obtain ⟨first, chars, hchars, hfirst⟩ := hkey.exists_cons
  have hpart : keyPart? (key.toList ++ c :: rest) = some (key, c :: rest) := by
    rw [keyPart?]
    · rw [htake, hdrop, hchars]
      simp only [← hchars, String.ofList_toList]
    · exact fun _ => hkey.append_ne_cons (by decide) _ _
    · exact fun _ => hkey.append_ne_cons (by decide) _ _
  have hstart : skipGaps (key.toList ++ c :: rest) = key.toList ++ c :: rest := by
    rw [hchars]
    exact skipGaps_cons (isGap_of_isBare hfirst) _
  have hparts : keyParts? depthLimit (key.toList ++ c :: rest) =
      some ([key], skipGaps (c :: rest)) := by
    obtain ⟨limit, hlimit⟩ : ∃ limit, depthLimit = limit + 1 := ⟨_, rfl⟩
    rw [hlimit, keyParts?, hstart, hpart]
    simp only [Option.bind_eq_bind, Option.bind_some]
    split
    · rename_i heq
      rw [heq] at hdot
      exact absurd rfl hdot
    · rfl
  rw [key?, hparts]
  rfl

/-! ## Lines -/

/-- A line with a key and a value. -/
theorem statement?_assign (hkey : IsBareKey key) (hwrites : Writes text value)
    (behind : List Char) :
    statement? (key.toList ++ ' ' :: '=' :: ' ' :: (text.toList ++ '\n' :: behind)) =
      some (.assign [] key value, behind) := by
  obtain ⟨c, written, htext, hgap⟩ := hwrites.starts
  have hread := key?_append hkey ('=' :: ' ' :: (text.toList ++ '\n' :: behind))
    (by decide : isBare ' ' = false) (show some '=' ≠ some '.' by decide)
  have hvalue : skipGaps (' ' :: (text.toList ++ '\n' :: behind)) =
      text.toList ++ '\n' :: behind := by
    rw [htext]
    exact skipGaps_cons hgap _
  rw [statement?]
  · rw [hread]
    simp only [Option.bind_eq_bind, Option.bind_some]
    show ((after? '=' ('=' :: ' ' :: (text.toList ++ '\n' :: behind))).bind _) = _
    rw [after?, if_pos rfl, Option.bind_some, hvalue, hwrites.reads]
    rfl
  · exact fun _ => hkey.append_ne_cons (by decide) _ _
  · exact fun _ => hkey.append_ne_cons (by decide) _ _

/-- The header of a section. -/
theorem statement?_header (hkey : IsBareKey key) (behind : List Char) :
    statement? ('[' :: (key.toList ++ ']' :: '\n' :: behind)) =
      some (.header [] key, behind) := by
  have hread := key?_append hkey ('\n' :: behind) (by decide : isBare ']' = false)
    (show some ']' ≠ some '.' by decide)
  rw [statement?]
  · rw [hread]
    rfl
  · exact fun _ => hkey.append_ne_cons (by decide) _ _

/-- A part of a document is read as some statements, line by line. -/
structure Says (part : String) (statements : List TomlStatement) : Prop where
  reads : ∃ lines ≤ part.toList.length, ∀ fuel behind,
    statements? (fuel + lines) (part.toList ++ behind) =
      (statements? fuel behind).map (statements ++ ·)
  cr_not_mem : '\r' ∉ part.toList

theorem Says.of_eq {part : String} {statements others : List TomlStatement}
    (h : Says part statements) (heq : statements = others) : Says part others :=
  heq ▸ h

theorem Says.append {first second : String} {front back : List TomlStatement}
    (hfirst : Says first front) (hsecond : Says second back) :
    Says (first ++ second) (front ++ back) where
  reads := by
    obtain ⟨lines, hlines, hreads⟩ := hfirst.reads
    obtain ⟨more, hmore, hreads'⟩ := hsecond.reads
    refine ⟨more + lines, ?_, fun fuel behind => ?_⟩
    · rw [String.toList_append, List.length_append]
      omega
    · rw [String.toList_append, List.append_assoc, ← Nat.add_assoc, hreads, hreads',
        Option.map_map]
      congr 1
      funext found
      exact (List.append_assoc front back found).symm
  cr_not_mem := by
    rw [String.toList_append, List.mem_append, not_or]
    exact ⟨hfirst.cr_not_mem, hsecond.cr_not_mem⟩

theorem says_empty : Says "" [] where
  reads := ⟨0, Nat.le_refl _, fun fuel behind => by simp⟩
  cr_not_mem := List.not_mem_nil

theorem says_blank : Says "\n" [] where
  reads := ⟨1, by decide, fun fuel behind => by
    show statements? fuel behind = _
    simp⟩
  cr_not_mem := by decide

/-- One statement on a line. -/
theorem statements?_cons {chars : List Char} {statement : TomlStatement} {c : Char}
    (hread : statement? (c :: chars) = some (statement, behind)) (hgap : isGap c = false)
    (hline : c ≠ '\n') (hcomment : c ≠ '#') (fuel : Nat) :
    statements? (fuel + 1) (c :: chars) = (statements? fuel behind).map (statement :: ·) := by
  rw [statements?, skipGaps_cons hgap]
  split
  · rename_i h
    cases h
  · rename_i h
    exact absurd (List.cons.inj h).1 hline
  · rename_i h
    exact absurd (List.cons.inj h).1 hcomment
  · simp only [hread, Option.bind_eq_bind, Option.bind_some]
    cases statements? fuel behind <;> rfl

theorem toList_line (key text : String) (behind : List Char) :
    (key ++ " = " ++ text ++ "\n").toList ++ behind =
      key.toList ++ ' ' :: '=' :: ' ' :: (text.toList ++ '\n' :: behind) := by
  simp

/-- **A line says the value of its key.** -/
theorem says_line (hkey : IsBareKey key) (hwrites : Writes text value) :
    Says (key ++ " = " ++ text ++ "\n") [.assign [] key value] where
  reads := by
    refine ⟨1, by simp; omega, fun fuel behind => ?_⟩
    have hread := statement?_assign hkey hwrites behind
    rw [toList_line]
    obtain ⟨first, chars, hchars, hfirst⟩ := hkey.exists_cons
    rw [hchars, List.cons_append] at hread ⊢
    exact statements?_cons hread (isGap_of_isBare hfirst)
      (ne_of_isBare hfirst (by decide)) (ne_of_isBare hfirst (by decide)) fuel
  cr_not_mem := by
    have hreturn : '\r' ∉ key.toList := fun hmem =>
      ne_of_isBare (hkey.2 _ hmem) (by decide) rfl
    simp [hreturn, hwrites.cr_not_mem]

/-- **A header opens its section.** -/
theorem says_header (hkey : IsBareKey key) : Says ("[" ++ key ++ "]\n") [.header [] key] where
  reads := by
    refine ⟨1, by simp, fun fuel behind => ?_⟩
    have hread := statement?_header hkey behind
    have hchars : ("[" ++ key ++ "]\n").toList ++ behind =
        '[' :: (key.toList ++ ']' :: '\n' :: behind) := by simp
    rw [hchars]
    exact statements?_cons hread (by decide) (by decide) (by decide) fuel
  cr_not_mem := by
    have hreturn : '\r' ∉ key.toList := fun hmem =>
      ne_of_isBare (hkey.2 _ hmem) (by decide) rfl
    simp [hreturn]

theorem joinLineEnds_eq_self {chars : List Char} (h : '\r' ∉ chars) :
    joinLineEnds chars = chars := by
  induction chars with
  | nil => rfl
  | cons c chars ih =>
    rw [List.mem_cons, not_or] at h
    rw [joinLineEnds, ih h.2]
    rintro rest hreturn
    exact absurd hreturn.symm h.1

/-- **A document is read as its statements say.** -/
theorem Says.parse? {text : String} {statements : List TomlStatement} (h : Says text statements)
    (hmark : text.toList.head? ≠ some '\ufeff') :
    TomlDocument.parse? text = build? statements := by
  obtain ⟨lines, hlines, hreads⟩ := h.reads
  have hdrop : dropMark text.toList = text.toList := by
    rw [dropMark]
    intro rest hrest
    rw [hrest] at hmark
    exact hmark rfl
  have hend : ∀ fuel, statements? (fuel + 1) [] = some [] := fun fuel => rfl
  have hall := hreads (text.toList.length - lines + 1) []
  rw [List.append_nil, hend, Option.map_some, List.append_nil,
    show text.toList.length - lines + 1 + lines = text.toList.length + 1 by omega] at hall
  rw [TomlDocument.parse?, hdrop, joinLineEnds_eq_self h.cr_not_mem]
  simp only [hall, Option.bind_eq_bind, Option.bind_some]

/-! ## Tables -/

variable {entries inner root : TomlEntries} {opened : List String}

theorem value?_of_not_mem (h : key ∉ entries.map (·.1)) : entries.value? key = none := by
  rw [TomlEntries.value?, Option.map_eq_none_iff, List.find?_eq_none]
  intro entry hentry heq
  exact h (List.mem_map.2 ⟨entry, hentry, by simpa using heq⟩)

theorem value?_concat (h : key ∉ entries.map (·.1)) (value : TomlValue) :
    TomlEntries.value? key (entries ++ [(key, value)]) = some value := by
  have hnone := value?_of_not_mem h
  rw [TomlEntries.value?, Option.map_eq_none_iff] at hnone
  rw [TomlEntries.value?, List.find?_append, hnone]
  simp

theorem replace_concat (h : key ∉ entries.map (·.1)) (value other : TomlValue) :
    TomlEntries.replace key other (entries ++ [(key, value)]) = entries ++ [(key, other)] := by
  have hkept : ∀ entry ∈ entries, (if entry.1 = key then (key, other) else entry) = entry := by
    intro entry hentry
    exact if_neg fun heq => h (List.mem_map.2 ⟨entry, hentry, heq⟩)
  rw [TomlEntries.replace, List.map_append, List.map_congr_left hkept, List.map_id']
  simp

/-- A header makes a new table. -/
theorem apply_header (h : name ∉ root.map (·.1)) (opened : List String) :
    apply root opened (.header [] name) = some (root ++ [(name, .table .headed [])], [name]) := by
  have hnone := value?_of_not_mem h
  simp only [apply, TomlEntries.openTable, TomlEntries.change, hnone, Option.bind_eq_bind,
    Option.bind_some, List.nil_append]
  rfl

/-- A line puts a value into the table that is open. -/
theorem apply_assign (hname : name ∉ root.map (·.1)) (hkey : key ∉ inner.map (·.1))
    (value : TomlValue) :
    apply (root ++ [(name, .table .headed inner)]) [name] (.assign [] key value) =
      some (root ++ [(name, .table .headed (inner ++ [(key, value)]))], [name]) := by
  have hnone := value?_of_not_mem hkey
  have hdefine : TomlEntries.define [] key value inner = some (inner ++ [(key, value)]) := by
    simp [TomlEntries.define, TomlEntries.change, hnone]
  simp only [apply, TomlEntries.change, value?_concat hname, hdefine, replace_concat hname,
    Option.bind_eq_bind, Option.bind_some]
  rfl

/-- The statement of a field. -/
def assignOf (field : String × TomlValue) : TomlStatement := .assign [] field.1 field.2

/-- The statements of a document with a table for each section. -/
def outline (sections : List (String × TomlEntries)) : List TomlStatement :=
  sections.flatMap fun (name, fields) => .header [] name :: fields.map assignOf

theorem buildFrom_fields (hname : name ∉ root.map (·.1)) {fields : TomlEntries}
    (hkeys : ((inner ++ fields).map (·.1)).Nodup) (more : List TomlStatement) :
    buildFrom (root ++ [(name, .table .headed inner)]) [name] (fields.map assignOf ++ more) =
      buildFrom (root ++ [(name, .table .headed (inner ++ fields))]) [name] more := by
  induction fields generalizing inner with
  | nil => rw [List.append_nil, List.map_nil, List.nil_append]
  | cons field fields ih =>
    have hkey : field.1 ∉ inner.map (·.1) := by
      rw [List.map_append, List.nodup_append] at hkeys
      exact fun hmem => hkeys.2.2 _ hmem _ List.mem_cons_self rfl
    rw [List.append_cons] at hkeys
    have hmore := ih hkeys
    rw [List.append_assoc, List.singleton_append] at hmore
    rw [List.map_cons, List.cons_append, buildFrom, assignOf, apply_assign hname hkey]
    exact hmore

theorem buildFrom_outline {sections : List (String × TomlEntries)}
    (hnames : (root.map (·.1) ++ sections.map (·.1)).Nodup)
    (hkeys : ∀ part ∈ sections, (part.2.map (·.1)).Nodup) (opened : List String) :
    buildFrom root opened (outline sections) =
      some (root ++ sections.map fun part => (part.1, .table .headed part.2)) := by
  induction sections generalizing root opened with
  | nil => simp [outline, buildFrom]
  | cons part sections ih =>
    rw [List.forall_mem_cons] at hkeys
    have hname : part.1 ∉ root.map (·.1) := by
      rw [List.nodup_append] at hnames
      exact fun hmem => hnames.2.2 _ hmem _ List.mem_cons_self rfl
    have hpart : ((([] : TomlEntries) ++ part.2).map (·.1)).Nodup := hkeys.1
    have hfields := buildFrom_fields hname hpart (outline sections)
    rw [outline, List.flatMap_cons, List.cons_append, buildFrom, apply_header hname]
    simp only [Option.bind_eq_bind, Option.bind_some]
    rw [← outline, hfields, List.nil_append, ih (by simpa using hnames) hkeys.2]
    simp

/-- **A document makes a table for each of its sections**, if no name and no key of a section comes
twice. -/
theorem build?_outline {sections : List (String × TomlEntries)}
    (hnames : (sections.map (·.1)).Nodup) (hkeys : ∀ part ∈ sections, (part.2.map (·.1)).Nodup) :
    build? (outline sections) =
      some (sections.map fun part => (part.1, .table .headed part.2)) :=
  buildFrom_outline (by simpa using hnames) hkeys []

end InstantReplay.TomlDocument
