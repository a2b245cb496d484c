import InstantReplay.Proofs.Toml.Text
import InstantReplay.Toml.Document

/-!
# TOML values that are read back

A text, a number and a truth value are read as they were written, up to the end of their line
(`TomlDocument.writes_text`, `TomlDocument.writes_number`, `TomlDocument.writes_flag`).
-/

namespace InstantReplay

namespace TomlScalar

/-! ## Numerals -/

variable {n : Nat} {digits behind : List Char}

theorem toList_repr (n : Nat) : (Nat.repr n).toList = Nat.toDigits 10 n := String.toList_ofList

theorem toDigits_of_lt (h : n < 10) : Nat.toDigits 10 n = [n.digitChar] := by
  rw [Nat.toDigits_eq_if (by decide), if_pos h]

theorem toDigits_of_le (h : 10 ≤ n) :
    Nat.toDigits 10 n = Nat.toDigits 10 (n / 10) ++ [(n % 10).digitChar] :=
  Nat.toDigits_of_base_le (by decide) h

theorem digitChar_spec {digit : Nat} (h : digit < 10) :
    isDigit digit.digitChar ∧ TomlText.hexValue? digit.digitChar = some digit ∧
      (digit.digitChar = '0' → digit = 0) :=
  (by decide : ∀ digit : Fin 10, isDigit digit.val.digitChar ∧
    TomlText.hexValue? digit.val.digitChar = some digit.val ∧
      (digit.val.digitChar = '0' → digit.val = 0)) ⟨digit, h⟩

theorem isDigit_of_mem_toDigits (n : Nat) : ∀ c ∈ Nat.toDigits 10 n, isDigit c := by
  induction n using Nat.strongRecOn with
  | ind n ih =>
    intro c hc
    by_cases hn : n < 10
    · rw [toDigits_of_lt hn, List.mem_singleton] at hc
      exact hc ▸ (digitChar_spec hn).1
    · rw [toDigits_of_le (Nat.not_lt.1 hn), List.mem_append, List.mem_singleton] at hc
      rcases hc with hfront | hlast
      · exact ih (n / 10) (by omega) c hfront
      · exact hlast ▸ (digitChar_spec (Nat.mod_lt n (by decide))).1

theorem valueIn_toDigits (n : Nat) : valueIn 10 (Nat.toDigits 10 n) = n := by
  induction n using Nat.strongRecOn with
  | ind n ih =>
    by_cases hn : n < 10
    · rw [toDigits_of_lt hn]
      simp [valueIn, (digitChar_spec hn).2.1]
    · have hfront := ih (n / 10) (by omega)
      rw [valueIn] at hfront
      rw [toDigits_of_le (Nat.not_lt.1 hn), valueIn, List.foldl_append, hfront]
      simp only [List.foldl_cons, List.foldl_nil,
        (digitChar_spec (Nat.mod_lt n (by decide : 0 < 10))).2.1, Option.getD_some]
      omega

theorem toDigits_ne_nil (n : Nat) : Nat.toDigits 10 n ≠ [] := by
  by_cases hn : n < 10
  · rw [toDigits_of_lt hn]
    exact List.cons_ne_nil _ _
  · rw [toDigits_of_le (Nat.not_lt.1 hn)]
    exact List.append_ne_nil_of_right_ne_nil _ (List.cons_ne_nil _ _)

/-- Only the numeral of zero starts with a zero. -/
theorem head?_toDigits (h : 0 < n) : (Nat.toDigits 10 n).head? ≠ some '0' := by
  induction n using Nat.strongRecOn with
  | ind n ih =>
    by_cases hn : n < 10
    · rw [toDigits_of_lt hn, List.head?_cons, Ne, Option.some.injEq]
      exact fun hzero => absurd ((digitChar_spec hn).2.2 hzero) (Nat.ne_of_gt h)
    · rw [toDigits_of_le (Nat.not_lt.1 hn), List.head?_append_of_ne_nil _ (toDigits_ne_nil _)]
      exact ih (n / 10) (by omega) (by omega)

/-! ## Numbers -/

theorem digits?_lineFeed (behind : List Char) : digits? isDigit ('\n' :: behind) = none := by
  rw [digits?.eq_def]
  rfl

/-- A digit before something else than an underscore. -/
theorem digits?_cons {c d : Char} (hc : isDigit c) (hd : d ≠ '_') (rest : List Char) :
    digits? isDigit (c :: d :: rest) =
      match digits? isDigit (d :: rest) with
      | some (found, rest) => some (c :: found, rest)
      | none => if isDigit d then none else some ([c], d :: rest) := by
  rw [digits?, if_pos hc]
  · rfl
  · rintro more ⟨⟩
    exact hd rfl

/-- Digits are read up to the end of the line. -/
theorem digits?_append (hdigits : ∀ c ∈ digits, isDigit c) (hne : digits ≠ [])
    (behind : List Char) :
    digits? isDigit (digits ++ '\n' :: behind) = some (digits, '\n' :: behind) := by
  induction digits with
  | nil => exact absurd rfl hne
  | cons c digits ih =>
    rw [List.forall_mem_cons] at hdigits
    cases digits with
    | nil =>
      rw [List.singleton_append, digits?_cons hdigits.1 (by decide), digits?_lineFeed]
      rfl
    | cons d digits =>
      have hd : d ≠ '_' := by
        rintro rfl
        exact absurd (hdigits.2 _ List.mem_cons_self) (by decide)
      have hmore := ih hdigits.2 (List.cons_ne_nil _ _)
      rw [List.cons_append] at hmore
      rw [List.cons_append, List.cons_append, digits?_cons hdigits.1 hd, hmore]

/-- A run of digits is followed by the end of the line, whatever part of it is taken. -/
theorem head?_drop (hdigits : ∀ c ∈ digits, isDigit c) {mark : Char} (hmark : isDigit mark = false)
    (hline : mark ≠ '\n') {count : Nat}
    (hall : ((digits ++ '\n' :: behind).take count).all isDigit) :
    ((digits ++ '\n' :: behind).drop count).head? ≠ some mark := by
  have hle : count ≤ digits.length := by
    by_contra hlt
    have hmem : '\n' ∈ (digits ++ '\n' :: behind).take count := by
      rw [List.take_append, List.take_of_length_le (by omega)]
      refine List.mem_append_right _ ?_
      rw [List.take_cons (by omega)]
      exact List.mem_cons_self
    exact absurd (List.all_eq_true.1 hall _ hmem) (by decide)
  rw [List.drop_append_of_le_length hle]
  rcases hrest : digits.drop count with _ | ⟨c, rest⟩
  · simpa using hline.symm
  · have hc : isDigit c := hdigits c (List.mem_of_mem_drop (hrest ▸ List.mem_cons_self))
    rw [List.cons_append, List.head?_cons, Ne, Option.some.injEq]
    rintro rfl
    rw [hmark] at hc
    cases hc

theorem not_startsDay (hdigits : ∀ c ∈ digits, isDigit c) (behind : List Char) :
    startsDay (digits ++ '\n' :: behind) = false := by
  rw [startsDay, fixed?]
  dsimp only
  split
  · rename_i h
    simpa using head?_drop hdigits (by decide : isDigit '-' = false) (by decide) h.2
  · rfl

theorem not_startsTime (hdigits : ∀ c ∈ digits, isDigit c) (behind : List Char) :
    startsTime (digits ++ '\n' :: behind) = false := by
  rw [startsTime, pair?, fixed?]
  dsimp only
  split
  · rename_i h
    have hhead := head?_drop hdigits (by decide : isDigit ':' = false) (by decide) h.2
    simp only [Option.bind_eq_bind, Option.bind_some]
    split
    · simpa using hhead
    · rfl
  · rfl

/-- A digit is none of the characters that start a value of another kind. -/
theorem ne_of_isDigit {c other : Char} (hc : isDigit c) (hother : isDigit other = false) :
    c ≠ other := by
  rintro rfl
  rw [hother] at hc
  cases hc

theorem sign_digit {c : Char} (hc : isDigit c) (rest : List Char) :
    sign (c :: rest) = (false, c :: rest) := by
  rw [sign]
  · rintro more ⟨⟩
    exact absurd hc (by decide)
  · rintro more ⟨⟩
    exact absurd hc (by decide)

theorem word?_digit {c first : Char} (hc : isDigit c) (hfirst : isDigit first = false)
    (word rest : List Char) : word? (first :: word) (c :: rest) = none := by
  simp [word?, Ne.symm (ne_of_isDigit hc hfirst)]

theorem wholeDigits?_toDigits (n : Nat) (behind : List Char) :
    wholeDigits? (Nat.toDigits 10 n ++ '\n' :: behind) =
      some (Nat.toDigits 10 n, '\n' :: behind) := by
  by_cases hn : n = 0
  · subst hn
    rfl
  · have hhead := head?_toDigits (Nat.pos_of_ne_zero hn)
    rw [wholeDigits?]
    · exact digits?_append (isDigit_of_mem_toDigits n) (toDigits_ne_nil n) behind
    · intro rest hrest
      rw [← List.head?_append_of_ne_nil _ (toDigits_ne_nil n), hrest] at hhead
      exact hhead rfl

/-- A numeral is read as a decimal number. -/
theorem number?_toDigits (n : Nat) (behind : List Char) :
    number? (Nat.toDigits 10 n ++ '\n' :: behind) =
      integer? n ('\n' :: behind) := by
  have hwhole := wholeDigits?_toDigits n behind
  obtain ⟨c, digits, hdigits⟩ := List.exists_cons_of_ne_nil (toDigits_ne_nil n)
  have hall := isDigit_of_mem_toDigits n
  rw [hdigits, List.forall_mem_cons] at hall
  have hsecond : ∀ mark rest, isDigit mark = false → mark ≠ '\n' →
      Nat.toDigits 10 n ++ '\n' :: behind ≠ '0' :: mark :: rest := by
    intro mark rest hmark hline heq
    rw [hdigits, List.cons_append, List.cons.injEq] at heq
    cases digits with
    | nil => exact hline (List.cons.inj heq.2).1.symm
    | cons d digits =>
      exact ne_of_isDigit (hall.2 _ List.mem_cons_self) hmark (List.cons.inj heq.2).1
  rw [number?]
  · rw [hdigits, List.cons_append] at hwhole ⊢
    simp only [sign_digit hall.1, word?_digit hall.1 (by decide : isDigit 'i' = false),
      word?_digit hall.1 (by decide : isDigit 'n' = false)]
    simp only [decimal?, sign_digit hall.1, hwhole, Option.bind_eq_bind, Option.bind_some]
    rw [← hdigits, valueIn_toDigits]
    rfl
  · exact fun rest => hsecond 'x' rest (by decide) (by decide)
  · exact fun rest => hsecond 'o' rest (by decide) (by decide)
  · exact fun rest => hsecond 'b' rest (by decide) (by decide)

theorem read?_toDigits (n : Nat) (behind : List Char) :
    read? (Nat.toDigits 10 n ++ '\n' :: behind) = integer? n ('\n' :: behind) := by
  have hdigits := isDigit_of_mem_toDigits n
  have hnumeric : numeric? (Nat.toDigits 10 n ++ '\n' :: behind) =
      integer? n ('\n' :: behind) := by
    rw [numeric?, not_startsDay hdigits, not_startsTime hdigits]
    exact number?_toDigits n behind
  obtain ⟨c, digits, heq⟩ := List.exists_cons_of_ne_nil (toDigits_ne_nil n)
  rw [heq, List.forall_mem_cons] at hdigits
  rw [read?]
  · exact hnumeric
  · rintro rest hrest
    rw [heq] at hrest
    exact ne_of_isDigit hdigits.1 (by decide) (List.cons.inj hrest).1
  · rintro rest hrest
    rw [heq] at hrest
    exact ne_of_isDigit hdigits.1 (by decide) (List.cons.inj hrest).1

end TomlScalar

namespace TomlDocument

/-! ## Values on a line -/

/-- A text is read as a value, up to the end of its line. -/
structure Writes (text : String) (value : TomlValue) : Prop where
  reads : ∀ fuel depth behind, value? (fuel + 1) depth (text.toList ++ '\n' :: behind) =
    some (value, '\n' :: behind)
  starts : ∃ c rest, text.toList = c :: rest ∧ TomlText.isGap c = false
  cr_not_mem : '\r' ∉ text.toList

/-- **A text is read as it was written.** -/
theorem writes_text (text : String) : Writes (TomlText.write text) (.string text) where
  reads fuel depth behind := by
    have hread := TomlText.read?_write text ('\n' :: behind) (by simp) (by simp)
    obtain ⟨mark, rest, hwrite, rfl | rfl⟩ := TomlText.exists_write text <;>
    · rw [hwrite, List.cons_append] at hread ⊢
      rw [value?, hread]
      rfl
  starts := by
    obtain ⟨mark, rest, hwrite, rfl | rfl⟩ := TomlText.exists_write text <;>
      exact ⟨_, rest, hwrite, by decide⟩
  cr_not_mem := TomlText.cr_not_mem_write text

/-- **A number is read as it was written**, if it fits into 64 bits with a sign. -/
theorem writes_number {n : Nat} (hn : n ≤ 9223372036854775807) :
    Writes (toString n) (.integer n) where
  reads fuel depth behind := by
    have hread := TomlScalar.read?_toDigits n behind
    have hinteger : TomlScalar.integer? n ('\n' :: behind) = some (.integer n, '\n' :: behind) :=
      if_pos ⟨by omega, by omega⟩
    have hdigits := TomlScalar.isDigit_of_mem_toDigits n
    have htext : (toString n).toList = Nat.toDigits 10 n := TomlScalar.toList_repr n
    rw [htext]
    obtain ⟨c, digits, heq⟩ := List.exists_cons_of_ne_nil (TomlScalar.toDigits_ne_nil n)
    rw [heq, List.forall_mem_cons] at hdigits
    have hne : ∀ other rest, TomlScalar.isDigit other = false →
        Nat.toDigits 10 n ++ '\n' :: behind ≠ other :: rest := by
      intro other rest hother h
      rw [heq] at h
      exact TomlScalar.ne_of_isDigit hdigits.1 hother (List.cons.inj h).1
    rw [value?]
    · rw [hread, hinteger]
    · exact fun rest => hne '"' rest (by decide)
    · exact fun rest => hne '\'' rest (by decide)
    · exact fun rest => hne '[' rest (by decide)
    · exact fun rest => hne '{' rest (by decide)
  starts := by
    obtain ⟨c, digits, heq⟩ := List.exists_cons_of_ne_nil (TomlScalar.toDigits_ne_nil n)
    have hc := TomlScalar.isDigit_of_mem_toDigits n c (heq ▸ List.mem_cons_self)
    refine ⟨c, digits, (TomlScalar.toList_repr n).trans heq, ?_⟩
    have hblank := TomlScalar.ne_of_isDigit hc (by decide : TomlScalar.isDigit ' ' = false)
    have htab := TomlScalar.ne_of_isDigit hc (by decide : TomlScalar.isDigit '\t' = false)
    simp [TomlText.isGap, hblank, htab]
  cr_not_mem hmem :=
    absurd (TomlScalar.isDigit_of_mem_toDigits n _ ((TomlScalar.toList_repr n) ▸ hmem)) (by decide)

/-- **A truth value is read as it was written.** -/
theorem writes_flag (flag : Bool) :
    Writes (if flag then "true" else "false") (.boolean flag) where
  reads fuel depth behind := by cases flag <;> rfl
  starts := by cases flag <;> exact ⟨_, _, rfl, by decide⟩
  cr_not_mem := by cases flag <;> decide

end TomlDocument

end InstantReplay
