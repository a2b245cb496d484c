import InstantReplay.Shell.Run

/-!
# Quoted text in shell commands

Single quotes and backslashes make characters stand for themselves (`IsQuoted`). Where a word can
start or go on, the shell reads text that is quoted as a part of this word and nothing else
(`IsQuoted.exists_readsAs`): no token ends in it, and no value is put in for anything in it. So
between blanks it is one word (`ReadsAs.expand`).
-/

namespace InstantReplay

variable {source word text : List Char} {parts : List ShellPart} {scan place : ShellScan}

/-- The text consists of quoted characters alone, and these make up the word: between single quotes
every character stands for itself and only a single quote ends them, and outside quotes a character
other than the end of a line stands for itself behind a backslash. -/
inductive IsQuoted : List Char → List Char → Prop
  | nil : IsQuoted [] []
  | single {text source word : List Char} (htext : '\'' ∉ text) (h : IsQuoted source word) :
      IsQuoted ('\'' :: (text ++ '\'' :: source)) (text ++ word)
  | escaped {c : Char} {source word : List Char} (hc : c ≠ '\n') (h : IsQuoted source word) :
      IsQuoted ('\\' :: c :: source) (c :: word)

namespace ShellScan

/-- Where a scan outside quotes and comments can take up a word: between words, in a word, behind
the name of a variable, and behind an operator, which is complete then. -/
def atWord? (scan : ShellScan) : Option ShellScan :=
  match scan.mode with
  | .blank | .word => some scan
  | .name false (c :: before) =>
    some (scan.push (.value (String.ofList (c :: before).reverse) false) .word)
  | .operator '>' => some { scan with mode := .blank, tokens := .into :: scan.tokens }
  | .operator _ => some { scan with mode := .blank, tokens := .next :: scan.tokens }
  | _ => none

/-- A quote or a backslash is met outside quotes. -/
theorem step_of_atWord? (h : scan.atWord? = some place) {c : Char} (hc : c = '\'' ∨ c = '\\') :
    scan.step c = place.outside c := by
  obtain ⟨mode, parts, tokens⟩ := scan
  rw [atWord?.eq_def] at h
  dsimp only at h
  split at h <;> cases h
  · rfl
  · rfl
  · rcases hc with rfl | rfl <;> rfl
  · rcases hc with rfl | rfl <;> rfl
  · rename_i hfirst
    rcases hc with rfl | rfl <;> simp [step]

/-- Text between single quotes, up to the closing quote. -/
theorem foldl_single (htext : '\'' ∉ text) (hmode : scan.mode = .single) :
    (text ++ ['\'']).foldl step scan =
      { scan with mode := .word, parts := (text.map .char).reverse ++ scan.parts } := by
  induction text generalizing scan with
  | nil => simp [step, hmode]
  | cons c text ih =>
    rw [List.mem_cons, not_or] at htext
    have hstep : scan.step c = scan.push (.char c) .single := by
      simp [step, hmode, Ne.symm htext.1]
    rw [List.cons_append, List.foldl_cons, hstep, ih htext.2 rfl]
    simp [push]

end ShellScan

/-! ## Fields -/

namespace Shell

variable (shell : Shell) (fields : Option (List Char) × List (List Char)) (chars : List Char)

theorem extend_extend (more : List Char) :
    extend (extend fields chars) more = extend fields (chars ++ more) := by
  simp [extend]

theorem foldl_addPart_chars (text : List Char) :
    (text.map .char).foldl shell.addPart (extend fields chars) = extend fields (chars ++ text) := by
  induction text generalizing chars with
  | nil => simp
  | cons c text ih =>
    rw [List.map_cons, List.foldl_cons, addPart, extend_extend, ih, List.append_assoc,
      List.singleton_append]

end Shell

/-! ## Reading quoted text -/

open ShellScan

/-- Inside a word, the scan goes on in this word, with only the parts added to it, and these stand
for the characters of `word`. -/
structure GoesOn (source word : List Char) (parts : List ShellPart) : Prop where
  scans : ∀ {scan : ShellScan}, scan.mode = .word →
    source.foldl step scan = { scan with parts := parts.reverse ++ scan.parts }
  extends_field : ∀ (shell : Shell) fields chars,
    parts.foldl shell.addPart (Shell.extend fields chars) = Shell.extend fields (chars ++ word)

theorem goesOn_nil : GoesOn [] [] [] where
  scans _ := rfl
  extends_field _ _ _ := by simp

theorem GoesOn.single (h : GoesOn source word parts) (htext : '\'' ∉ text) :
    GoesOn ('\'' :: (text ++ '\'' :: source)) (text ++ word)
      (.quote :: (text.map .char ++ parts)) where
  scans := by
    intro scan hmode
    have hopen : scan.step '\'' = scan.push .quote .single := by simp [step, hmode, outside]
    rw [List.foldl_cons, hopen, List.append_cons, List.foldl_append, foldl_single htext rfl,
      h.scans rfl]
    simp [push, hmode]
  extends_field := by
    intro shell fields chars
    rw [List.foldl_cons, Shell.addPart, Shell.extend_extend, List.append_nil, List.foldl_append,
      Shell.foldl_addPart_chars, h.extends_field, List.append_assoc]

theorem GoesOn.escaped {c : Char} (h : GoesOn source word parts) (hc : c ≠ '\n') :
    GoesOn ('\\' :: c :: source) (c :: word) (.char c :: parts) where
  scans := by
    intro scan hmode
    have hopen : (scan.step '\\').step c = scan.push (.char c) .word := by
      simp [step, hmode, outside, hc, push]
    rw [List.foldl_cons, List.foldl_cons, hopen, h.scans rfl]
    simp [push, hmode]
  extends_field := by
    intro shell fields chars
    rw [List.foldl_cons, Shell.addPart, Shell.extend_extend, h.extends_field, List.append_assoc,
      List.singleton_append]

theorem IsQuoted.exists_goesOn (h : IsQuoted source word) : ∃ parts, GoesOn source word parts := by
  induction h with
  | nil => exact ⟨_, goesOn_nil⟩
  | single htext _ ih =>
    obtain ⟨parts, h⟩ := ih
    exact ⟨_, h.single htext⟩
  | escaped hc _ ih =>
    obtain ⟨parts, h⟩ := ih
    exact ⟨_, h.escaped hc⟩

/-- **The shell reads the text as these parts of a word**, wherever a word can start or go on. -/
structure ReadsAs (source word : List Char) (parts : List ShellPart) : Prop where
  /-- The scan is then in a word, to which only the parts were added. No token ended. -/
  scans : ∀ {scan place : ShellScan}, scan.atWord? = some place → source.foldl step scan =
    { place with mode := .word, parts := parts.reverse ++ place.parts }
  /-- The parts add the characters of `word` to the field that they are met in, whatever the
  variables are. -/
  extends_field : ∀ (shell : Shell) fields,
    parts.foldl shell.addPart fields = Shell.extend fields word

/-- Quoted text that starts a word is read as inside a word. -/
theorem IsQuoted.foldl_of_atWord? (h : IsQuoted source word) (hne : source ≠ [])
    (hplace : scan.atWord? = some place) :
    source.foldl step scan = source.foldl step { place with mode := .word } := by
  cases h with
  | nil => exact absurd rfl hne
  | single => rw [List.foldl_cons, List.foldl_cons, step_of_atWord? hplace (.inl rfl)]; rfl
  | escaped => rw [List.foldl_cons, List.foldl_cons, step_of_atWord? hplace (.inr rfl)]; rfl

theorem GoesOn.readsAs {part : ShellPart} (hgoes : GoesOn source word (part :: parts))
    (h : IsQuoted source word) (hne : source ≠ [])
    (hpart : ∀ (shell : Shell) fields,
      shell.addPart (Shell.extend fields []) part = shell.addPart fields part) :
    ReadsAs source word (part :: parts) where
  scans := by
    intro scan place hplace
    rw [h.foldl_of_atWord? hne hplace]
    exact hgoes.scans rfl
  extends_field := by
    intro shell fields
    have hfields := hgoes.extends_field shell fields []
    rwa [List.foldl_cons, hpart, List.nil_append] at hfields

/-- **Quoted text is read as parts of one word that stand for its characters.** -/
theorem IsQuoted.exists_readsAs (h : IsQuoted source word) (hne : source ≠ []) :
    ∃ parts, ReadsAs source word parts := by
  cases h with
  | nil => exact absurd rfl hne
  | single htext hrest =>
    obtain ⟨parts, hgoes⟩ := hrest.exists_goesOn
    refine ⟨_, (hgoes.single htext).readsAs (.single htext hrest) hne fun shell fields => ?_⟩
    rw [Shell.addPart, Shell.addPart, Shell.extend_extend, List.append_nil]
  | escaped hc hrest =>
    obtain ⟨parts, hgoes⟩ := hrest.exists_goesOn
    refine ⟨_, (hgoes.escaped hc).readsAs (.escaped hc hrest) hne fun shell fields => ?_⟩
    rw [Shell.addPart, Shell.addPart, Shell.extend_extend, List.nil_append]

namespace ReadsAs

variable (h : ReadsAs source word parts)
include h

/-- Alone, the parts are one word. -/
theorem expand (shell : Shell) : shell.expand parts = [String.ofList word] := by
  rw [Shell.expand, h.extends_field]
  simp [Shell.extend]

/-- Between words, the text is a word of its own when it ends. -/
theorem endWord (hmode : scan.mode = .blank) (hparts : scan.parts = []) :
    (source.foldl step scan).endWord = { tokens := .word parts :: scan.tokens } := by
  have hplace : scan.atWord? = some scan := by rw [atWord?, hmode]
  rw [h.scans hplace, hparts]
  simp [ShellScan.endWord]

end ReadsAs

/-! ## Commands with holes -/

/-- The scan of a command that is given in pieces, between any two of which these parts stand. It
is defined if a word can start or go on wherever they stand. -/
def ShellScan.throughHoles? (parts : List ShellPart) (scan : ShellScan) :
    List (List Char) → Option ShellScan
  | [] => some scan
  | [piece] => some (piece.foldl step scan)
  | piece :: pieces => do
    let place ← (piece.foldl step scan).atWord?
    throughHoles? parts { place with mode := .word, parts := parts.reverse ++ place.parts } pieces

/-- What the shell reads of a command with the text in its holes depends on the text only through
the parts that it is read as. -/
theorem ReadsAs.foldl_intercalate (h : ReadsAs source word parts) {pieces : List (List Char)}
    {last : ShellScan} (hholes : scan.throughHoles? parts pieces = some last) :
    (source.intercalate pieces).foldl step scan = last := by
  induction pieces generalizing scan with
  | nil =>
    cases hholes
    rfl
  | cons piece pieces ih =>
    cases pieces with
    | nil =>
      cases hholes
      simp
    | cons next pieces =>
      obtain ⟨place, hplace, hholes⟩ := Option.bind_eq_some_iff.1 hholes
      rw [List.intercalate_cons_cons, List.append_assoc, List.foldl_append, List.foldl_append,
        h.scans hplace]
      exact ih hholes

end InstantReplay
