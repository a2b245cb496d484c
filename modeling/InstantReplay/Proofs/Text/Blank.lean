import InstantReplay.Text.Blank
import Mathlib.Data.List.DropRight
import Mathlib.Data.List.TakeWhile

/-!
# Texts without blanks around them

What is left of a text when the blanks at its ends are taken off begins and ends with something
else (`head?_trim`, `getLast?_trim`), and nothing more is taken off such a text (`trim_eq_self`).
More blanks at the ends make no difference (`trim_append`).
-/

namespace InstantReplay

variable {chars : List Char} {c : Char}

theorem trimEnd_eq (chars : List Char) : trimEnd chars = chars.rdropWhile isBlank := rfl

/-- A text that neither begins nor ends with a blank is left as it is. -/
theorem trim_eq_self (hhead : ∀ c ∈ chars.head?, isBlank c = false)
    (hlast : ∀ c ∈ chars.getLast?, isBlank c = false) : trim chars = chars := by
  have hfront : chars.dropWhile isBlank = chars := by
    cases chars with
    | nil => rfl
    | cons c rest => exact List.dropWhile_cons_of_neg (by simp [hhead c rfl])
  rw [trim, hfront, trimEnd_eq, List.rdropWhile_eq_self_iff]
  intro hne
  simp [hlast _ (List.getLast?_eq_some_getLast hne)]

/-- What is left when blanks are taken off begins with something else, -/
theorem head?_trim (h : c ∈ (trim chars).head?) : isBlank c = false := by
  have hprefix : trim chars <+: chars.dropWhile isBlank := List.rdropWhile_prefix isBlank _
  obtain ⟨rest, hrest⟩ := hprefix
  have hdropped := List.head?_dropWhile_not isBlank chars
  have hhead : (chars.dropWhile isBlank).head? = some c := by
    rw [← hrest, List.head?_append, h, Option.some_or]
  rwa [hhead] at hdropped

/-- and ends with something else. -/
theorem getLast?_trim (h : c ∈ (trim chars).getLast?) : isBlank c = false := by
  obtain ⟨hne, rfl⟩ := List.mem_getLast?_eq_getLast h
  have hlast := List.rdropWhile_last_not isBlank (chars.dropWhile isBlank) hne
  exact Bool.eq_false_iff.2 hlast

/-- Nothing but blanks is taken off. -/
theorem isBlank_or_mem_trim (h : c ∈ chars) : isBlank c ∨ c ∈ trim chars := by
  have hfront := List.takeWhile_append_dropWhile (p := isBlank) (l := chars)
  have hbehind := List.rdropWhile_append_rtakeWhile (p := isBlank) (l := chars.dropWhile isBlank)
  rw [← hfront, ← hbehind, List.mem_append, List.mem_append] at h
  rcases h with h | h | h
  · exact .inl (List.mem_takeWhile_imp h)
  · exact .inr h
  · exact .inl (List.mem_rtakeWhile_imp h)

/-- Blanks at the ends make no difference. -/
theorem trim_append {front behind : List Char} (hfront : ∀ c ∈ front, isBlank c)
    (hbehind : ∀ c ∈ behind, isBlank c) (chars : List Char) :
    trim (front ++ chars ++ behind) = trim chars := by
  have hend (rest : List Char) : trimEnd (rest ++ behind) = trimEnd rest := by
    rw [trimEnd, trimEnd, List.reverse_append,
      List.dropWhile_append_of_pos fun c hc => hbehind c (List.mem_reverse.1 hc)]
  rw [trim, List.append_assoc, List.dropWhile_append_of_pos hfront, List.dropWhile_append, trim]
  split
  · rename_i hblank
    have hnothing : behind.dropWhile isBlank = [] := List.dropWhile_eq_nil_iff.2 hbehind
    rw [hnothing, List.isEmpty_iff.1 hblank]
  · exact hend _

theorem trim_trim (chars : List Char) : trim (trim chars) = trim chars :=
  trim_eq_self (fun _ => head?_trim) (fun _ => getLast?_trim)

end InstantReplay
