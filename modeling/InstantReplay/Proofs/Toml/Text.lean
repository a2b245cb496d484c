import InstantReplay.Toml.Text
import Mathlib.Data.List.Basic
import Mathlib.Data.List.TakeWhile

/-!
# TOML strings that are read back

Whichever way a text is written as a string, it is read as the text (`TomlText.read?_write`). The
delicate part is the marks: between three marks up to two of them stand in the text as they are,
also right before the closing ones, and the reader has to tell these from the end of the string
(`TomlText.ending?_append`).
-/

namespace InstantReplay.TomlText

/-! ## Runs of marks -/

variable {mark : Char} {rest : List Char}

theorem run_replicate (hrest : rest.head? ≠ some mark) (count : Nat) :
    run mark (List.replicate count mark ++ rest) = (count, rest) := by
  have hall : ∀ c ∈ List.replicate count mark, (c == mark) = true := by
    intro c hc
    rw [List.eq_of_mem_replicate hc, beq_self_eq_true]
  have hstop : rest.takeWhile (· == mark) = [] ∧ rest.dropWhile (· == mark) = rest := by
    cases rest with
    | nil => exact ⟨rfl, rfl⟩
    | cons c rest =>
      have hc : ¬ (c == mark) = true := by simpa using hrest
      exact ⟨List.takeWhile_cons_of_neg hc, List.dropWhile_cons_of_neg hc⟩
  rw [run, List.takeWhile_append_of_pos hall, List.dropWhile_append_of_pos hall, hstop.1, hstop.2,
    List.append_nil, List.length_replicate]

theorem run_cons_self (mark : Char) (body : List Char) :
    run mark (mark :: body) = ((run mark body).1 + 1, (run mark body).2) := by
  simp [run]

theorem run_cons_of_ne {c : Char} (h : c ≠ mark) (body : List Char) :
    run mark (c :: body) = (0, c :: body) := by
  simp [run, h]

/-- A text starts with a run of a mark, and goes on with something else. -/
theorem eq_replicate_append (mark : Char) (body : List Char) :
    body = List.replicate (run mark body).1 mark ++ (run mark body).2 ∧
      (run mark body).2.head? ≠ some mark := by
  constructor
  · have hmarks : body.takeWhile (· == mark) =
        List.replicate (body.takeWhile (· == mark)).length mark :=
      List.eq_replicate_of_mem fun c hc => by simpa using List.mem_takeWhile_imp hc
    rw [run, ← hmarks, List.takeWhile_append_dropWhile]
  · intro hhead
    have hmark := List.head?_dropWhile_not (· == mark) body
    rw [show body.dropWhile (· == mark) = (run mark body).2 from rfl, hhead] at hmark
    simp at hmark

theorem eq_replicate_of_run {body : List Char} (h : (run mark body).2 = []) :
    body = List.replicate (run mark body).1 mark := by
  have hsplit := (eq_replicate_append mark body).1
  rwa [h, List.append_nil] at hsplit

/-- **The end of a string between three marks is found where it is**: at the start of a run of at
most two marks that reaches up to the closing ones. -/
theorem ending?_append (body : List Char) (hbody : (run mark body).1 ≤ 2)
    (hrest : rest.head? ≠ some mark) :
    ending? mark (body ++ (List.replicate 3 mark ++ rest)) =
      if (run mark body).2 = [] then some ((run mark body).1, rest) else none := by
  obtain ⟨hsplit, hhead⟩ := eq_replicate_append mark body
  rcases hrun : run mark body with ⟨count, tail⟩
  rw [hrun] at hbody hsplit hhead
  rw [ending?, hsplit]
  dsimp only at hbody hhead ⊢
  by_cases htail : tail = []
  · have hmarks : List.replicate count mark ++ [] ++ (List.replicate 3 mark ++ rest) =
        List.replicate (count + 3) mark ++ rest := by
      rw [List.append_nil, ← List.append_assoc, List.replicate_append_replicate]
    have htaken : min (count + 3) 5 = count + 3 := by omega
    rw [htail, hmarks, run_replicate hrest, if_pos rfl, if_neg (by omega), htaken,
      Nat.add_sub_cancel, Nat.sub_self]
    rfl
  · have hstop : (tail ++ (List.replicate 3 mark ++ rest)).head? ≠ some mark := by
      rwa [List.head?_append_of_ne_nil _ htail]
    rw [List.append_assoc, run_replicate hstop, if_neg htail, if_pos (by omega)]

theorem le_longestRun (mark : Char) (current : Nat) (chars : List Char) :
    current + (run mark chars).1 ≤ longestRun mark current chars := by
  induction chars generalizing current with
  | nil => exact Nat.le_refl _
  | cons c chars ih =>
    rw [longestRun]
    by_cases hc : c = mark
    · subst hc
      have hnext := ih (current + 1)
      rw [run_cons_self, if_pos (beq_self_eq_true c)]
      dsimp only
      omega
    · rw [run_cons_of_ne hc, if_neg (by simpa using hc)]
      exact Nat.le_max_left _ _

theorem longestRun_le_cons (mark c : Char) (current : Nat) (chars : List Char) :
    longestRun mark 0 chars ≤ longestRun mark current (c :: chars) := by
  have hmono : ∀ (chars : List Char) (low high : Nat), low ≤ high →
      longestRun mark low chars ≤ longestRun mark high chars := by
    intro chars
    induction chars with
    | nil => exact fun low high hle => hle
    | cons c chars ih =>
      intro low high hle
      rw [longestRun, longestRun]
      split
      · exact ih _ _ (Nat.succ_le_succ hle)
      · omega
  rw [longestRun]
  split
  · exact hmono chars 0 (current + 1) (Nat.zero_le _)
  · exact Nat.le_max_right _ _

theorem not_mem_of_longestRun {chars : List Char} (h : longestRun mark 0 chars = 0) :
    mark ∉ chars := by
  induction chars with
  | nil => exact List.not_mem_nil
  | cons c chars ih =>
    have hle := longestRun_le_cons mark c 0 chars
    have hrun := le_longestRun mark 0 (c :: chars)
    have hc : c ≠ mark := by
      rintro rfl
      rw [run_cons_self, h] at hrun
      dsimp only at hrun
      omega
    rw [List.mem_cons, not_or]
    exact ⟨hc.symm, ih (by omega)⟩

/-! ## Between apostrophes -/

theorem readLiteral_short {chars : List Char} (hplain : ∀ c ∈ chars, isPlain c)
    (hmark : '\'' ∉ chars) (before rest : List Char) :
    readLiteral false before (chars ++ '\'' :: rest) = some (before.reverse ++ chars, rest) := by
  induction chars generalizing before with
  | nil => simp [readLiteral]
  | cons c chars ih =>
    rw [List.forall_mem_cons] at hplain
    rw [List.mem_cons, not_or] at hmark
    have hc : (c == '\'') = false := by simpa using Ne.symm hmark.1
    rw [List.cons_append, readLiteral, hc, hplain.1]
    simpa using ih hplain.2 hmark.2 (c :: before)

theorem readLiteral_long {chars : List Char} (hplain : ∀ c ∈ chars, isPlain c ∨ c = '\n')
    (hmarks : longestRun '\'' 0 chars ≤ 2) (hrest : rest.head? ≠ some '\'') (before : List Char) :
    readLiteral true before (chars ++ (List.replicate 3 '\'' ++ rest)) =
      some (before.reverse ++ chars, rest) := by
  induction chars generalizing before with
  | nil =>
    have hend := ending?_append [] (Nat.zero_le _) hrest
    rw [List.nil_append, List.replicate_succ, List.cons_append] at hend ⊢
    rw [readLiteral, hend]
    simp [run]
  | cons c chars ih =>
    rw [List.forall_mem_cons] at hplain
    have hle := longestRun_le_cons '\'' c 0 chars
    have hnext := ih hplain.2 (by omega) (c :: before)
    rw [List.reverse_cons, List.append_assoc, List.singleton_append] at hnext
    rw [List.cons_append, readLiteral]
    by_cases hc : c = '\''
    · subst hc
      have hrun := le_longestRun '\'' 0 ('\'' :: chars)
      have hend := ending?_append ('\'' :: chars) (by omega) hrest
      rw [List.cons_append] at hend
      rw [beq_self_eq_true, if_pos rfl, if_pos rfl, hend]
      by_cases hall : (run '\'' ('\'' :: chars)).2 = []
      · rw [if_pos hall]
        dsimp only
        rw [← eq_replicate_of_run hall]
      · rw [if_neg hall]
        exact hnext
    · rw [if_neg (by simpa using hc), if_pos (by rcases hplain.1 with h | h <;> simp [h])]
      exact hnext

/-! ## Between quotation marks -/

theorem hexValue?_toUpper {digit : Nat} (h : digit < 16) :
    hexValue? (Numeral.hexDigit digit).toUpper = some digit :=
  (by decide : ∀ digit : Fin 16,
    hexValue? (Numeral.hexDigit digit.val).toUpper = some digit.val) ⟨digit, h⟩

theorem readEscaped_digit (long : Bool) (before : List Char) (left value : Nat) {digit : Nat}
    (h : digit < 16) (rest : List Char) :
    readEscaped long before (.code (left + 1) value) ((Numeral.hexDigit digit).toUpper :: rest) =
      readEscaped long before (.code left (value * 16 + digit)) rest := by
  rw [readEscaped, hexValue?_toUpper h]

/-- The code of a character is read as the character. -/
theorem readEscaped_code (long : Bool) (before : List Char) {c : Char} (hc : c.toNat < 65536)
    (rest : List Char) :
    readEscaped long before (.code 3 0)
        ((Numeral.hexDigits 4 c.toNat).map Char.toUpper ++ rest) =
      readEscaped long (c :: before) .plain rest := by
  have hcode : (((0 * 16 + c.toNat / 16 / 16 / 16 % 16) * 16 + c.toNat / 16 / 16 % 16) * 16 +
      c.toNat / 16 % 16) * 16 + c.toNat % 16 = c.toNat := by omega
  have hchar : charOf? c.toNat = some c := by
    rw [charOf?, if_pos (show c.toNat.isValidChar from c.valid), Char.ofNat_toNat]
  simp only [Numeral.hexDigits, List.nil_append, List.cons_append, List.map_cons, List.map_nil]
  rw [readEscaped_digit _ _ _ _ (Nat.mod_lt _ (by decide)),
    readEscaped_digit _ _ _ _ (Nat.mod_lt _ (by decide)),
    readEscaped_digit _ _ _ _ (Nat.mod_lt _ (by decide)), readEscaped,
    hexValue?_toUpper (Nat.mod_lt _ (by decide))]
  simp only [hcode, hchar]

theorem toNat_lt_of_needsEscape {c : Char} (h : needsEscape c) : c.toNat < 65536 := by
  by_contra hlarge
  have hblank : ' ' ≤ c := by
    rw [Char.le_def, UInt32.le_iff_toNat_le]
    exact Nat.le_trans (by decide) (Nat.le_of_not_lt hlarge)
  have hdelete : c ≠ '\x7f' := by
    rintro rfl
    exact hlarge (by decide)
  simp [needsEscape, isPlain, hblank, hdelete] at h

/-- **A character is read as it was written**, except for a quotation mark as it is. -/
theorem readEscaped_writeChar (long : Bool) (marks seen : Nat) (before : List Char) {c : Char}
    (hc : ¬ (c = '"' ∧ seen < marks)) (rest : List Char) :
    readEscaped long before .plain (writeChar long marks seen c ++ rest) =
      readEscaped long (c :: before) .plain rest := by
  rw [writeChar.eq_def]
  split
  · simp [readEscaped, escapeOf?, isGap]
  · simp [readEscaped, escapeOf?, isGap]
  · cases long <;> simp [readEscaped, escapeOf?, isGap]
  · simp [readEscaped, escapeOf?, isGap]
  · simp [readEscaped, escapeOf?, isGap]
  · simp [readEscaped, escapeOf?, isGap]
  · rw [if_neg fun hlt => hc ⟨rfl, hlt⟩]
    simp [readEscaped, escapeOf?, isGap]
  · split
    · rename_i hneeds
      show readEscaped long before .plain ('\\' :: 'u' ::
        ((Numeral.hexDigits 4 c.toNat).map Char.toUpper ++ rest)) = _
      rw [← readEscaped_code long before (toNat_lt_of_needsEscape hneeds) rest]
      simp [readEscaped]
    · rename_i hline _ _ hslash hquote hneeds
      have hplain : isPlain c := by
        by_contra hplain
        exact hneeds (by simp [needsEscape, hplain, show c ≠ '\n' from hline])
      rw [List.singleton_append, readEscaped, if_neg (by simpa using hslash),
        if_neg (by simpa using hquote), if_pos (by simp [hplain])]

/-- A quotation mark that is written as it is comes after fewer than `marks` others. -/
theorem writeEscaped_cons_mark (long : Bool) {marks seen : Nat} (h : seen < marks)
    (chars : List Char) :
    writeEscaped long marks seen ('"' :: chars) =
      '"' :: writeEscaped long marks (seen + 1) chars := by
  simp [writeEscaped, writeChar, h]

theorem writeEscaped_cons_of_not (long : Bool) {marks seen : Nat} {c : Char}
    (h : ¬ (c = '"' ∧ seen < marks)) (chars : List Char) :
    writeEscaped long marks seen (c :: chars) =
      writeChar long marks seen c ++ writeEscaped long marks 0 chars := by
  rw [writeEscaped, if_neg (by simpa using h)]

/-- Except for a quotation mark as it is, no character is written with one in front. -/
theorem exists_writeChar (long : Bool) (marks seen : Nat) {c : Char}
    (h : ¬ (c = '"' ∧ seen < marks)) :
    ∃ first behind, writeChar long marks seen c = first :: behind ∧ first ≠ '"' ∧
      (first = '\n' → c = '\n') := by
  rw [writeChar.eq_def]
  split
  iterate 2 exact ⟨'\\', _, rfl, by decide, by decide⟩
  · cases long
    · exact ⟨'\\', _, rfl, by decide, fun _ => rfl⟩
    · exact ⟨'\n', _, rfl, by decide, fun _ => rfl⟩
  iterate 3 exact ⟨'\\', _, rfl, by decide, by decide⟩
  · rw [if_neg fun hlt => h ⟨rfl, hlt⟩]
    exact ⟨'\\', _, rfl, by decide, by decide⟩
  · rename_i hquote
    split
    · exact ⟨'\\', _, rfl, by decide, fun hline => absurd hline (by decide)⟩
    · exact ⟨_, _, rfl, hquote, fun hline => hline⟩

/-- What is written between quotation marks starts with fewer than three of them, and if there is
nothing else, this is the text. -/
theorem run_writeEscaped (seen : Nat) (hseen : seen ≤ 2) (chars : List Char) :
    (run '"' (writeEscaped true 2 seen chars)).1 + seen ≤ 2 ∧
      ((run '"' (writeEscaped true 2 seen chars)).2 = [] →
        chars = List.replicate (run '"' (writeEscaped true 2 seen chars)).1 '"') := by
  induction chars generalizing seen with
  | nil => exact ⟨by simpa [writeEscaped, run] using hseen, fun _ => rfl⟩
  | cons c chars ih =>
    by_cases hmark : c = '"' ∧ seen < 2
    · obtain ⟨rfl, hlt⟩ := hmark
      obtain ⟨hle, hall⟩ := ih (seen + 1) hlt
      rw [writeEscaped_cons_mark true hlt, run_cons_self]
      refine ⟨by dsimp only; omega, fun hnil => ?_⟩
      rw [List.replicate_succ, ← hall hnil]
    · obtain ⟨first, behind, hwrite, hfirst, -⟩ := exists_writeChar true 2 seen hmark
      rw [writeEscaped_cons_of_not true hmark, hwrite, List.cons_append, run_cons_of_ne hfirst]
      exact ⟨by simpa using hseen, fun hnil => absurd hnil (List.cons_ne_nil _ _)⟩

theorem readEscaped_short (seen : Nat) (chars before rest : List Char) :
    readEscaped false before .plain (writeEscaped false 0 seen chars ++ '"' :: rest) =
      some (before.reverse ++ chars, rest) := by
  induction chars generalizing seen before with
  | nil => simp [writeEscaped, readEscaped]
  | cons c chars ih =>
    have hmark : ¬ (c = '"' ∧ seen < 0) := fun h => Nat.not_lt_zero _ h.2
    rw [writeEscaped_cons_of_not false hmark, List.append_assoc,
      readEscaped_writeChar false 0 seen before hmark, ih, List.reverse_cons, List.append_assoc,
      List.singleton_append]

theorem readEscaped_long {seen : Nat} (hseen : seen ≤ 2) (hrest : rest.head? ≠ some '"')
    (chars before : List Char) :
    readEscaped true before .plain
        (writeEscaped true 2 seen chars ++ (List.replicate 3 '"' ++ rest)) =
      some (before.reverse ++ chars, rest) := by
  induction chars generalizing seen before with
  | nil =>
    have hend := ending?_append [] (Nat.zero_le _) hrest
    rw [List.nil_append, List.replicate_succ, List.cons_append] at hend
    rw [writeEscaped, List.nil_append, List.replicate_succ, List.cons_append, readEscaped,
      if_neg (by decide), beq_self_eq_true, if_pos rfl, if_pos rfl, hend]
    simp [run]
  | cons c chars ih =>
    by_cases hmark : c = '"' ∧ seen < 2
    · obtain ⟨rfl, hlt⟩ := hmark
      have hnext := ih (Nat.succ_le_of_lt hlt) ('"' :: before)
      rw [List.reverse_cons, List.append_assoc, List.singleton_append] at hnext
      obtain ⟨hle, hall⟩ := run_writeEscaped seen hseen ('"' :: chars)
      have hend := ending?_append (writeEscaped true 2 seen ('"' :: chars)) (by omega) hrest
      rw [writeEscaped_cons_mark true hlt] at hle hall hend ⊢
      rw [List.cons_append] at hend ⊢
      rw [readEscaped, if_neg (by decide), beq_self_eq_true, if_pos rfl, if_pos rfl, hend]
      by_cases hnil : (run '"' ('"' :: writeEscaped true 2 (seen + 1) chars)).2 = []
      · rw [if_pos hnil]
        dsimp only
        rw [← hall hnil]
      · rw [if_neg hnil]
        exact hnext
    · rw [writeEscaped_cons_of_not true hmark, List.append_assoc,
        readEscaped_writeChar true 2 seen before hmark, ih (Nat.zero_le _), List.reverse_cons,
        List.append_assoc, List.singleton_append]

/-! ## All four ways -/

/-- One mark that is not the first of three starts a string on one line. -/
theorem read?_of_short {tail : List Char} (h : tail.head? ≠ some mark ∨ tail[1]? ≠ some mark) :
    read? (mark :: tail) = readShort? (mark :: tail) := by
  rw [read?]
  · rintro behind ⟨⟩
    simp at h
  · rintro behind ⟨⟩
    simp at h

theorem read?_short (chars : List Char) (hrest : rest.head? ≠ some '"') :
    read? ('"' :: (writeEscaped false 0 0 chars ++ '"' :: rest)) =
      some (String.ofList chars, rest) := by
  rw [read?_of_short]
  · rw [readShort?, readEscaped_short]
    rfl
  · cases chars with
    | nil => exact Or.inr (by rwa [List.head?_eq_getElem?] at hrest)
    | cons c chars =>
      have hmark : ¬ (c = '"' ∧ 0 < 0) := fun h => Nat.not_lt_zero _ h.2
      obtain ⟨first, behind, hwrite, hfirst, -⟩ := exists_writeChar false 0 0 hmark
      rw [writeEscaped_cons_of_not false hmark, hwrite]
      exact Or.inl (by simpa using hfirst)

theorem read?_shortLiteral {chars : List Char} (hplain : ∀ c ∈ chars, isPlain c)
    (hmark : '\'' ∉ chars) (hrest : rest.head? ≠ some '\'') :
    read? ('\'' :: (chars ++ '\'' :: rest)) = some (String.ofList chars, rest) := by
  rw [read?_of_short]
  · rw [readShort?, readLiteral_short hplain hmark]
    rfl
  · cases chars with
    | nil => exact Or.inr (by rwa [List.head?_eq_getElem?] at hrest)
    | cons c chars =>
      rw [List.mem_cons, not_or] at hmark
      exact Or.inl (by simpa using Ne.symm hmark.1)

/-- What stands before a text on several lines: a line feed, if the text has one. -/
def Opens (start chars : List Char) : Prop := start = ['\n'] ∨ start = [] ∧ '\n' ∉ chars

theorem dropLineFeed_of_opens {start chars tail : List Char} (h : Opens start chars)
    (htail : tail.head? = some '\n' → '\n' ∈ chars) : dropLineFeed (start ++ tail) = tail := by
  rcases h with rfl | ⟨rfl, hchars⟩
  · rfl
  · rw [List.nil_append, dropLineFeed]
    rintro behind rfl
    exact hchars (htail rfl)

theorem read?_long {start : List Char} (chars : List Char) (hstart : Opens start chars)
    (hrest : rest.head? ≠ some '"') :
    read? ('"' :: '"' :: '"' ::
        (start ++ (writeEscaped true 2 0 chars ++ (List.replicate 3 '"' ++ rest)))) =
      some (String.ofList chars, rest) := by
  have hhead : (writeEscaped true 2 0 chars ++ (List.replicate 3 '"' ++ rest)).head? =
      some '\n' → '\n' ∈ chars := by
    cases chars with
    | nil => simp [writeEscaped, List.replicate_succ]
    | cons c chars =>
      by_cases hmark : c = '"' ∧ 0 < 2
      · obtain ⟨rfl, hlt⟩ := hmark
        simp [writeEscaped_cons_mark true hlt]
      · obtain ⟨first, behind, hwrite, -, hline⟩ := exists_writeChar true 2 0 hmark
        rw [writeEscaped_cons_of_not true hmark, hwrite]
        intro hfirst
        rw [← hline (by simpa using hfirst)]
        exact List.mem_cons_self
  rw [read?, dropLineFeed_of_opens hstart hhead, readEscaped_long (Nat.zero_le _) hrest]
  rfl

theorem read?_longLiteral {start chars : List Char} (hstart : Opens start chars)
    (hplain : ∀ c ∈ chars, isPlain c ∨ c = '\n') (hmarks : longestRun '\'' 0 chars ≤ 2)
    (hrest : rest.head? ≠ some '\'') :
    read? ('\'' :: '\'' :: '\'' :: (start ++ (chars ++ (List.replicate 3 '\'' ++ rest)))) =
      some (String.ofList chars, rest) := by
  have hhead : (chars ++ (List.replicate 3 '\'' ++ rest)).head? = some '\n' → '\n' ∈ chars := by
    cases chars with
    | nil => simp [List.replicate_succ]
    | cons c chars =>
      intro hfirst
      rw [← show c = '\n' by simpa using hfirst]
      exact List.mem_cons_self
  rw [read?, dropLineFeed_of_opens hstart hhead, readLiteral_long hplain hmarks hrest]
  rfl

/-- **A text is read back**, whatever it is and however it is written. -/
theorem read?_write (text : String) (rest : List Char) (hquote : rest.head? ≠ some '"')
    (hapostrophe : rest.head? ≠ some '\'') :
    read? ((write text).toList ++ rest) = some (text, rest) := by
  have htext : String.ofList text.toList = text := String.ofList_toList
  have hopens : Opens (if text.toList.any (· == '\n') then ['\n'] else []) text.toList := by
    split
    · exact Or.inl rfl
    · rename_i hline
      exact Or.inr ⟨rfl, by simpa using hline⟩
  have hshort : read? ((['"'] ++ writeEscaped false 0 0 text.toList ++ ['"']) ++ rest) =
      some (text, rest) := by
    simpa [htext] using read?_short text.toList hquote
  have hlong : read? (['"', '"', '"'] ++ (if text.toList.any (· == '\n') then ['\n'] else []) ++
      writeEscaped true 2 0 text.toList ++ ['"', '"', '"'] ++ rest) = some (text, rest) := by
    simpa [htext, List.replicate_succ] using read?_long text.toList hopens hquote
  have hplain : text.toList.any needsEscape = false → ∀ c ∈ text.toList, isPlain c ∨ c = '\n' := by
    intro hcodes c hc
    have hneeds := List.any_eq_false.1 hcodes c hc
    rw [needsEscape, Bool.and_eq_true, not_and_or] at hneeds
    simpa using hneeds
  rw [write, String.toList_ofList]
  split
  · exact hshort
  split
  · rename_i h
    simp only [Bool.and_eq_true, Bool.not_eq_true', decide_eq_true_eq] at h
    obtain ⟨⟨hcodes, hmarks⟩, hline⟩ := h
    have hplain' : ∀ c ∈ text.toList, isPlain c := fun c hc =>
      (hplain hcodes c hc).resolve_right fun heq =>
        List.any_eq_false.1 hline c hc (by simp [heq])
    simpa [htext] using
      read?_shortLiteral hplain' (not_mem_of_longestRun hmarks) hapostrophe
  split
  · exact hlong
  split
  · rename_i h
    simp only [Bool.and_eq_true, Bool.not_eq_true', decide_eq_true_eq] at h
    simpa [htext, List.replicate_succ] using
      read?_longLiteral hopens (hplain h.1) h.2 hapostrophe
  split
  · rename_i hline
    rwa [if_pos hline] at hlong
  · exact hshort

/-- A string starts with a mark. -/
theorem exists_write (text : String) :
    ∃ mark rest, (write text).toList = mark :: rest ∧ (mark = '"' ∨ mark = '\'') := by
  rw [write, String.toList_ofList]
  split
  · exact ⟨_, _, rfl, Or.inl rfl⟩
  split
  · exact ⟨_, _, rfl, Or.inr rfl⟩
  split
  · exact ⟨_, _, rfl, Or.inl rfl⟩
  split
  · exact ⟨_, _, rfl, Or.inr rfl⟩
  split <;> exact ⟨_, _, rfl, Or.inl rfl⟩

/-! ## Carriage returns -/

theorem cr_ne_hexDigit {digit : Nat} (h : digit < 16) :
    (Numeral.hexDigit digit).toUpper ≠ '\r' :=
  (by decide : ∀ digit : Fin 16, (Numeral.hexDigit digit.val).toUpper ≠ '\r') ⟨digit, h⟩

theorem cr_not_mem_hexDigits (count n : Nat) :
    '\r' ∉ (Numeral.hexDigits count n).map Char.toUpper := by
  induction count generalizing n with
  | zero => exact List.not_mem_nil
  | succ count ih =>
    rw [Numeral.hexDigits, List.map_append, List.mem_append, List.map_singleton,
      List.mem_singleton, not_or]
    exact ⟨ih _, (cr_ne_hexDigit (Nat.mod_lt _ (by decide))).symm⟩

theorem cr_not_mem_writeChar (long : Bool) (marks seen : Nat) (c : Char) :
    '\r' ∉ writeChar long marks seen c := by
  rw [writeChar.eq_def]
  split
  iterate 2 decide
  · cases long <;> decide
  iterate 3 decide
  · split <;> decide
  · rename_i hreturn _ _
    split
    · rw [List.mem_cons, List.mem_cons, not_or, not_or]
      exact ⟨by decide, by decide, cr_not_mem_hexDigits 4 _⟩
    · rw [List.mem_singleton]
      exact fun h => hreturn h.symm

theorem cr_not_mem_writeEscaped (long : Bool) (marks seen : Nat) (chars : List Char) :
    '\r' ∉ writeEscaped long marks seen chars := by
  induction chars generalizing seen with
  | nil => exact List.not_mem_nil
  | cons c chars ih =>
    rw [writeEscaped, List.mem_append, not_or]
    exact ⟨cr_not_mem_writeChar long marks seen c, ih _⟩

/-- **A string has no carriage return in it.** -/
theorem cr_not_mem_write (text : String) : '\r' ∉ (write text).toList := by
  have hplain : text.toList.any needsEscape = false → '\r' ∉ text.toList := by
    intro hcodes hmem
    exact List.any_eq_false.1 hcodes _ hmem (by decide)
  have hescaped := fun long marks => cr_not_mem_writeEscaped long marks 0 text.toList
  rw [write, String.toList_ofList]
  split
  · simp [hescaped]
  split
  · rename_i h
    simp only [Bool.and_eq_true, Bool.not_eq_true'] at h
    simp [hplain h.1.1]
  split
  · simp [hescaped]
  split
  · rename_i h
    simp only [Bool.and_eq_true, Bool.not_eq_true'] at h
    simp [hplain h.1]
  split
  · simp [hescaped]
  · simp [hescaped]

end InstantReplay.TomlText
