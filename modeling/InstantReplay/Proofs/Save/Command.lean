import InstantReplay.Proofs.Shell.Quoting
import InstantReplay.Save.ShellQuote
import Mathlib.Data.List.Infix

/-!
# The command after a save

The command of the user is cut at the placeholders, and the quoted path of the file is put between
the pieces (`ShellQuote.fill_intercalate`). The shell reads the quoted path as the path
(`ShellQuote.isQuoted_quote`), so that nothing in it can be taken for a part of the command
(`ShellQuote.command_keeps_path`).
-/

namespace InstantReplay.ShellQuote

variable {value text template piece rest : List Char} {pieces : List (List Char)}

/-! ## Pieces of a template -/

/-- A template is cut at every placeholder. Two placeholders cannot overlap, so the pieces are those
that are found from the left. -/
structure CutInto (template : List Char) (pieces : List (List Char)) : Prop where
  ne_nil : pieces ≠ []
  joined : placeholder.intercalate pieces = template
  clear : ∀ piece ∈ pieces, ¬placeholder <:+: piece

theorem fill_cons {c : Char} (h : ¬placeholder <+: c :: rest) :
    fill value (c :: rest) = c :: fill value rest := by
  rw [fill]
  rintro more rfl rfl
  exact h ⟨more, rfl⟩

/-- The placeholder begins with its only opening brace, so it cannot begin inside another one. -/
theorem not_prefix_append (hne : piece ≠ []) (h : ¬placeholder <+: piece) (rest : List Char) :
    ¬placeholder <+: piece ++ placeholder ++ rest := by
  intro hstarts
  rw [List.append_assoc] at hstarts
  rcases List.prefix_or_prefix_of_prefix hstarts (List.prefix_append piece _) with hin | ⟨tail, ht⟩
  · exact h hin
  · have htail : tail <+: placeholder ++ rest := by
      rwa [← ht, List.prefix_append_right_inj, ht] at hstarts
    obtain ⟨c, piece, rfl⟩ := List.exists_cons_of_ne_nil hne
    have hbrace : '\x7b' ∉ placeholder.tail := by decide
    rw [← ht, List.cons_append, List.tail_cons] at hbrace
    cases tail with
    | nil => exact h (by rw [← ht, List.append_nil])
    | cons d tail =>
      obtain rfl : d = '\x7b' := (List.cons_prefix_cons.1 htail).1
      exact hbrace (by simp)

theorem fill_append (h : ¬placeholder <:+: piece) (rest : List Char) :
    fill value (piece ++ placeholder ++ rest) = piece ++ value ++ fill value rest := by
  induction piece with
  | nil => rfl
  | cons c piece ih =>
    have hstart : ¬placeholder <+: c :: (piece ++ placeholder ++ rest) :=
      not_prefix_append (List.cons_ne_nil c piece) (mt List.IsPrefix.isInfix h) rest
    rw [List.cons_append, List.cons_append, fill_cons hstart,
      ih fun hinside => h (hinside.trans (List.suffix_cons c piece).isInfix)]
    rfl

theorem fill_of_clear (h : ¬placeholder <:+: text) : fill value text = text := by
  induction text with
  | nil => rfl
  | cons c text ih =>
    rw [fill_cons (mt List.IsPrefix.isInfix h),
      ih fun hinside => h (hinside.trans (List.suffix_cons c text).isInfix)]

/-- **The value is put in for each placeholder, and nothing else is changed.** -/
theorem fill_intercalate (h : ∀ piece ∈ pieces, ¬placeholder <:+: piece) :
    fill value (placeholder.intercalate pieces) = value.intercalate pieces := by
  induction pieces with
  | nil => rfl
  | cons piece pieces ih =>
    rw [List.forall_mem_cons] at h
    cases pieces with
    | nil => simpa using fill_of_clear h.1
    | cons next pieces =>
      rw [List.intercalate_cons_cons, fill_append h.1, ih h.2, List.intercalate_cons_cons]

/-- Every template can be cut. -/
theorem exists_cutInto (template : List Char) : ∃ pieces, CutInto template pieces := by
  fun_induction fill [] template with
  | case1 rest ih =>
    obtain ⟨pieces, hne, rfl, hclear⟩ := ih
    obtain ⟨piece, pieces, rfl⟩ := List.exists_cons_of_ne_nil hne
    refine ⟨[] :: piece :: pieces, List.cons_ne_nil _ _, ?_, ?_⟩
    · rw [List.intercalate_cons_cons]
      rfl
    · exact List.forall_mem_cons.2 ⟨by decide, hclear⟩
  | case2 c rest hstart ih =>
    obtain ⟨pieces, hne, rfl, hclear⟩ := ih
    obtain ⟨piece, pieces, rfl⟩ := List.exists_cons_of_ne_nil hne
    rw [List.forall_mem_cons] at hclear
    have hjoined : placeholder.intercalate ((c :: piece) :: pieces) =
        c :: placeholder.intercalate (piece :: pieces) := by
      cases pieces <;> simp
    refine ⟨(c :: piece) :: pieces, List.cons_ne_nil _ _, hjoined,
      List.forall_mem_cons.2 ⟨fun hinside => ?_, hclear.2⟩⟩
    rcases List.infix_cons_iff.1 hinside with hstarts | hlater
    · have hwhole : c :: piece <+: c :: placeholder.intercalate (piece :: pieces) := by
        rw [← hjoined]
        cases pieces <;> simp [List.append_assoc]
      obtain ⟨more, hmore⟩ := hstarts.trans hwhole
      obtain ⟨hc, hrest⟩ := List.cons.inj hmore.symm
      exact hstart more hc hrest
    · exact hclear.1 hlater
  | case3 => exact ⟨[[]], List.cons_ne_nil _ _, by simp, by decide⟩

/-! ## Quoted paths -/

/-- A path in quotes is the path. -/
theorem isQuoted_quote (text : List Char) : IsQuoted (quote text) text := by
  have hfrom : ∀ before, '\'' ∉ before →
      IsQuoted ('\'' :: (before ++ (text.flatMap escape ++ ['\'']))) (before ++ text) := by
    induction text with
    | nil => exact fun before h => .single h .nil
    | cons c text ih =>
      intro before h
      by_cases hc : c = '\''
      · subst hc
        have hrest := IsQuoted.single h (.escaped (by decide : '\'' ≠ '\n') (ih [] List.not_mem_nil))
        simpa [escape] using hrest
      · have hrest := ih (before ++ [c]) (by simp [h, Ne.symm hc])
        simpa [escape, hc] using hrest
  exact hfrom [] List.not_mem_nil

/-- **The path of a saved file is a word of the command and nothing else.** The command is the
template with the quoted path in place of every placeholder, found from the left, and with nothing
else changed. The quoted path consists of quoted characters alone, which are those of the path.
Wherever a word can start or go on, the shell reads it as parts of this word that stand for the
characters of the path, between words as one word, and in a command whose placeholders all stand at
such places it reads nothing else of the path. -/
theorem command_keeps_path (template path : String) :
    (∃ pieces, CutInto template.toList pieces) ∧
    (∀ pieces, CutInto template.toList pieces →
      (command template path).toList = (quote path.toList).intercalate pieces) ∧
    IsQuoted (quote path.toList) path.toList ∧
    ∃ parts : List ShellPart, ReadsAs (quote path.toList) path.toList parts ∧
      (∀ shell : Shell, shell.expand parts = [path]) ∧
      (∀ scan : ShellScan, scan.mode = .blank → scan.parts = [] →
        ((quote path.toList).foldl ShellScan.step scan).endWord =
          { tokens := .word parts :: scan.tokens }) ∧
      ∀ pieces last, CutInto template.toList pieces →
        ShellScan.throughHoles? parts {} pieces = some last →
          (command template path).toList.foldl ShellScan.step {} = last := by
  have hcommand : ∀ pieces, CutInto template.toList pieces →
      (command template path).toList = (quote path.toList).intercalate pieces := by
    intro pieces hcut
    rw [command, String.toList_ofList, ← hcut.joined, fill_intercalate hcut.clear]
  have hquoted := isQuoted_quote path.toList
  obtain ⟨parts, hreads⟩ := hquoted.exists_readsAs (List.cons_ne_nil _ _)
  refine ⟨exists_cutInto _, hcommand, hquoted, parts, hreads, fun shell => ?_,
    fun scan hmode hparts => hreads.endWord hmode hparts, fun pieces last hcut hholes => ?_⟩
  · rw [hreads.expand, String.ofList_toList]
  · rw [hcommand pieces hcut]
    exact hreads.foldl_intercalate hholes

/-- A path with a quote, a blank and a dollar sign in it. -/
theorem command_keeps_path_sample :
    let template := "rm \x7bfile\x7d;echo \x7bfile\x7d"
    let path := "it's $HOME"
    (command template path).toList = "rm 'it'\\''s $HOME';echo 'it'\\''s $HOME'".toList ∧
    ∃ parts, (∀ shell : Shell, shell.expand parts = [path]) ∧
      ((quote path.toList).foldl ShellScan.step {}).endWord = { tokens := [.word parts] } ∧
      ((command template path).toList.foldl ShellScan.step {}).endWord.tokens.reverse =
        [.word ("rm".toList.map .char), .word parts, .next, .word ("echo".toList.map .char),
          .word parts] := by
  intro template path
  have hcut : CutInto template.toList ["rm ".toList, ";echo ".toList, []] :=
    ⟨by decide, by decide, by decide⟩
  obtain ⟨-, hcommand, -, parts, -, hexpand, hword, hholes⟩ := command_keeps_path template path
  refine ⟨(hcommand _ hcut).trans (by decide), parts, hexpand, hword {} rfl rfl, ?_⟩
  rw [hholes _ _ hcut rfl]
  simp [ShellScan.step, ShellScan.outside, ShellScan.push, ShellScan.endWord]

end InstantReplay.ShellQuote
