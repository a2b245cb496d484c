import InstantReplay.Proofs.Text.Blank
import InstantReplay.Text.LowerCase
import Mathlib.Data.List.Forall2

/-!
# Lower case next to marks

A mark, such as a plus sign or a blank, is neither a letter nor an accent (`IsMark`). A text is put
in lower case piece by piece between marks (`ofChars_append_mark`). A text in letters of another
case has the same lower-case form, unless letters are in it that are not put in lower case by
themselves (`SameLetters.ofChars_eq`).
-/

namespace InstantReplay.LowerCase

variable {c : Char} {chars before : List Char}

/-! ## Marks -/

/-- A character that has no case and does not stand inside a word. -/
structure IsMark (c : Char) : Prop where
  small : ofChar c = c
  not_cased : isIn casedRanges c = false
  not_ignorable : isIn ignorableRanges c = false

instance (c : Char) : Decidable (IsMark c) :=
  decidable_of_iff (ofChar c = c ∧ isIn casedRanges c = false ∧ isIn ignorableRanges c = false)
    ⟨fun h => ⟨h.1, h.2.1, h.2.2⟩, fun h => ⟨h.small, h.not_cased, h.not_ignorable⟩⟩

theorem isMark_plus : IsMark '+' := by decide +kernel

/-- The numbers of the blanks. -/
def blanks : List Nat :=
  [9, 10, 11, 12, 13, 32, 0x85, 0xa0, 0x1680, 0x2000, 0x2001, 0x2002, 0x2003, 0x2004, 0x2005,
   0x2006, 0x2007, 0x2008, 0x2009, 0x200a, 0x2028, 0x2029, 0x202f, 0x205f, 0x3000]

theorem isMark_of_isBlank (h : isBlank c) : IsMark c := by
  have hall : ∀ n ∈ blanks, IsMark (Char.ofNat n) := by decide +kernel
  have hmem : c.toNat ∈ blanks := by
    simp [isBlank] at h
    simp [blanks]
    omega
  rw [← Char.ofNat_toNat c]
  exact hall _ hmem

theorem startsWithCased_append_mark (hc : IsMark c) (chars rest : List Char) :
    startsWithCased (chars ++ c :: rest) = startsWithCased chars := by
  have hstop : (c :: rest).dropWhile (isIn ignorableRanges) = c :: rest :=
    List.dropWhile_cons_of_neg (by simp [hc.not_ignorable])
  rw [startsWithCased, startsWithCased, List.dropWhile_append, hstop]
  cases chars.dropWhile (isIn ignorableRanges) with
  | nil => exact hc.not_cased
  | cons first behind => rfl

/-- What comes before a mark does not matter behind it. -/
theorem ofChars_before_mark (hc : IsMark c) (before other chars : List Char) :
    ofChars (before ++ c :: other) chars = ofChars before chars := by
  induction chars generalizing before with
  | nil => rfl
  | cons first rest ih =>
    rw [ofChars, ofChars, startsWithCased_append_mark hc, ← List.cons_append, ih]

theorem ofChars_mark (hc : IsMark c) (before rest : List Char) :
    ofChars before (c :: rest) = c :: ofChars [] rest := by
  have hsigma : c ≠ 'Σ' := by
    rintro rfl
    exact absurd hc (by decide)
  have hdotted : c ≠ 'İ' := by
    rintro rfl
    exact absurd hc (by decide)
  rw [ofChars]
  simp only [beq_iff_eq, if_neg hsigma, if_neg hdotted, hc.small, List.singleton_append]
  congr 1
  exact ofChars_before_mark hc [] before rest

/-- **The characters on the two sides of a mark are put in lower case by themselves.** -/
theorem ofChars_append_mark (hc : IsMark c) (before front behind : List Char) :
    ofChars before (front ++ c :: behind) = ofChars before front ++ c :: ofChars [] behind := by
  induction front generalizing before with
  | nil => exact ofChars_mark hc before behind
  | cons first front ih =>
    rw [List.cons_append, ofChars, ofChars, startsWithCased_append_mark hc, ih,
      List.append_assoc]

theorem ofChars_marks_append {marks : List Char} (hmarks : ∀ c ∈ marks, IsMark c)
    (rest : List Char) : ofChars [] (marks ++ rest) = marks ++ ofChars [] rest := by
  induction marks with
  | nil => rfl
  | cons c marks ih =>
    rw [List.forall_mem_cons] at hmarks
    rw [List.cons_append, ofChars_mark hmarks.1, ih hmarks.2, List.cons_append]

theorem ofChars_append_marks {marks : List Char} (hmarks : ∀ c ∈ marks, IsMark c)
    (front : List Char) : ofChars [] (front ++ marks) = ofChars [] front ++ marks := by
  cases marks with
  | nil => rw [List.append_nil, List.append_nil]
  | cons c marks =>
    rw [List.forall_mem_cons] at hmarks
    have hbehind : ofChars [] marks = marks := by
      simpa [ofChars] using ofChars_marks_append hmarks.2 []
    rw [ofChars_append_mark hmarks.1, hbehind]

/-! ## Plus signs -/

theorem toNat_ofNat (n : Nat) : (Char.ofNat n).toNat = 0 ∨ (Char.ofNat n).toNat = n := by
  by_cases h : n.isValidChar
  · exact .inr (congrArg Char.toNat (dif_pos h))
  · exact .inl (congrArg Char.toNat (dif_neg h))

/-- A character that is not its own small letter has a letter for it. -/
theorem ofChar_spec (c : Char) : ofChar c = c ∨ (ofChar c).toNat = 0 ∨ 97 ≤ (ofChar c).toNat := by
  have hascii : ∀ n < 128, (ofChar (Char.ofNat n)) = Char.ofNat n ∨
      (ofChar (Char.ofNat n)).toNat = 0 ∨ 97 ≤ (ofChar (Char.ofNat n)).toNat := by
    decide +kernel
  have hranges : ∀ range ∈ ranges, (97 : Int) ≤ range.1 + range.2.2.2 := by decide +kernel
  by_cases hsmall : c.toNat < 128
  · have h := hascii c.toNat hsmall
    rwa [Char.ofNat_toNat] at h
  · rw [ofChar]
    simp only [if_neg hsmall]
    split
    · rename_i first last step distance hfind
      have hbound : (97 : Int) ≤ first + distance :=
        hranges _ (List.mem_of_find?_eq_some hfind)
      have hfirst := List.find?_some hfind
      simp only [Bool.and_eq_true, decide_eq_true_eq] at hfirst
      refine .inr ((toNat_ofNat _).imp_right fun hletter => ?_)
      rw [hletter]
      omega
    · exact .inl rfl

theorem ofChar_eq_plus (h : ofChar c = '+') : c = '+' := by
  have hspec := ofChar_spec c
  rw [h] at hspec
  exact (hspec.resolve_right (by decide)).symm

/-- What a character is put in lower case as. -/
theorem mem_ofChars_cons {other : Char} {rest : List Char}
    (h : other ∈ ofChars before (c :: rest)) :
    (other = 'ς' ∨ other = 'σ' ∨ other = 'i' ∨ other = '\u0307' ∨ other = ofChar c) ∨
      other ∈ ofChars (c :: before) rest := by
  rw [ofChars, List.mem_append] at h
  refine h.imp_left fun hmapped => ?_
  split_ifs at hmapped
  · exact .inl (List.mem_singleton.1 hmapped)
  · exact .inr (.inl (List.mem_singleton.1 hmapped))
  · have hdotted : other = 'i' ∨ other = '\u0307' := by simpa using hmapped
    exact .inr (.inr (hdotted.imp_right .inl))
  · exact .inr (.inr (.inr (.inr (List.mem_singleton.1 hmapped))))

theorem plus_mem_of_ofChars (h : '+' ∈ ofChars before chars) : '+' ∈ chars := by
  induction chars generalizing before with
  | nil => exact h
  | cons c rest ih =>
    rcases mem_ofChars_cons h with h | h
    · have hplus : '+' = ofChar c := by simpa using h
      rw [ofChar_eq_plus hplus.symm]
      exact List.mem_cons_self
    · exact List.mem_cons_of_mem c (ih h)

/-- **A text is put in lower case part by part between plus signs.** -/
theorem splitOn_ofChars (chars : List Char) :
    (ofChars [] chars).splitOn '+' = (chars.splitOn '+').map (ofChars []) := by
  by_cases hplus : '+' ∈ chars
  · obtain ⟨front, behind, rfl⟩ := List.append_of_mem hplus
    rw [ofChars_append_mark isMark_plus, List.splitOn_append_cons_self,
      List.splitOn_append_cons_self, List.map_append, splitOn_ofChars front,
      splitOn_ofChars behind]
  · rw [List.splitOn_eq_singleton hplus,
      List.splitOn_eq_singleton (fun h => hplus (plus_mem_of_ofChars h))]
    rfl
termination_by chars.length

/-! ## Letters of another case -/

/-- Characters that are the same but for their case. -/
def SameLetters (chars others : List Char) : Prop :=
  List.Forall₂ (fun c other => ofChar c = ofChar other) chars others

theorem SameLetters.symm {others : List Char} (h : SameLetters chars others) :
    SameLetters others chars :=
  List.Forall₂.flip (h.imp fun _ _ => Eq.symm)

/-- What the letters that are not put in lower case by themselves leave behind. -/
def traces : List Char := ['σ', 'ς', '\u0307', 'İ']

theorem ofChars_cons (hsigma : c ≠ 'Σ') (hdotted : c ≠ 'İ') (before rest : List Char) :
    ofChars before (c :: rest) = ofChar c :: ofChars (c :: before) rest := by
  rw [ofChars]
  simp only [beq_iff_eq, if_neg hsigma, if_neg hdotted, List.singleton_append]

/-- Each of these letters leaves something behind. -/
theorem exists_trace (h : c = 'Σ' ∨ c = 'İ') (before rest : List Char) :
    ∃ trace ∈ traces, trace ∈ ofChars before (c :: rest) := by
  rcases h with rfl | rfl
  · rw [ofChars]
    by_cases hlast : startsWithCased before && !startsWithCased rest
    · exact ⟨'ς', by decide, by simp [hlast]⟩
    · exact ⟨'σ', by decide, by simp [hlast]⟩
  · exact ⟨'\u0307', by decide, by simp [ofChars]⟩

theorem ofChar_mem_traces (h : c = 'Σ' ∨ c = 'İ') : ofChar c ∈ traces := by
  rcases h with rfl | rfl <;> decide +kernel

/-- **A text in letters of another case has the same lower-case form**, if nothing in it tells of
the special letters. -/
theorem SameLetters.ofChars_eq {others : List Char} (hsame : SameLetters chars others)
    (before behind : List Char) (htraces : ∀ c ∈ ofChars before chars, c ∉ traces) :
    ofChars behind others = ofChars before chars := by
  induction hsame generalizing before behind with
  | nil => rfl
  | @cons c other rest more hc _ ih =>
    have hspecial : ¬(c = 'Σ' ∨ c = 'İ') := fun h => by
      obtain ⟨trace, htrace, hmem⟩ := exists_trace h before rest
      exact htraces trace hmem htrace
    rw [not_or] at hspecial
    rw [ofChars_cons hspecial.1 hspecial.2, List.forall_mem_cons] at htraces
    have hother : ¬(other = 'Σ' ∨ other = 'İ') := fun h =>
      htraces.1 (hc ▸ ofChar_mem_traces h)
    rw [not_or] at hother
    rw [ofChars_cons hother.1 hother.2, ofChars_cons hspecial.1 hspecial.2, hc,
      ih (c :: before) (other :: behind) htraces.2]

end InstantReplay.LowerCase
