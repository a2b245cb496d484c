import InstantReplay.Files.Path
import Mathlib.Data.List.Basic

/-!
# Where a path leads

By its names alone, an absolute path leads to a place below the root: `..` takes back the name
before it (`Path.resolved`). A name that is added to a directory is followed from the place of the
directory (`Path.resolved_join`).
-/

namespace InstantReplay.Path

variable {mark : Char} {piece : List Char} {directory name : String}

/-- The place after one more name. -/
def follow (place : List String) (name : String) : List String :=
  if name = ".." then place.dropLast else place ++ [name]

/-- The place that an absolute path leads to by its names. -/
def resolved (path : String) : List String := (names path).foldl follow []

/-! ## Pieces -/

theorem split_of_notMem (h : mark ∉ piece) : split mark piece = [piece] := by
  induction piece with
  | nil => rfl
  | cons c piece ih =>
    rw [List.mem_cons, not_or] at h
    rw [split, if_neg (Ne.symm h.1), ih h.2]

theorem split_ne_nil (mark : Char) (chars : List Char) : split mark chars ≠ [] := by
  cases chars with
  | nil => exact List.cons_ne_nil _ _
  | cons c chars =>
    rw [split]
    split
    · exact List.cons_ne_nil _ _
    · split <;> exact List.cons_ne_nil _ _

/-- The pieces before a mark, and then those behind it. -/
theorem split_append_cons (before after : List Char) :
    split mark (before ++ mark :: after) = split mark before ++ split mark after := by
  induction before with
  | nil =>
    show split mark (mark :: after) = [] :: split mark after
    exact if_pos rfl
  | cons c before ih =>
    rw [List.cons_append, split, split]
    by_cases hc : c = mark
    · rw [if_pos hc, if_pos hc, ih, List.cons_append]
    · rw [if_neg hc, if_neg hc, ih]
      obtain ⟨first, more, hsplit⟩ := List.exists_cons_of_ne_nil (split_ne_nil mark before)
      rw [hsplit]
      rfl

theorem names_append (hname : '/' ∉ name.toList) :
    names (directory ++ "/" ++ name) = names directory ++ [name].filter (!isVoid ·) := by
  have hchars : (directory ++ "/" ++ name).toList = directory.toList ++ '/' :: name.toList := by
    simp [String.toList_append]
  rw [names, names, pieces, pieces, hchars, split_append_cons, split_of_notMem hname,
    List.map_append, List.filter_append, List.map_singleton, String.ofList_toList]

/-! ## Names in a directory -/

theorem join_eq (hname : '/' ∉ name.toList) (hempty : directory.isEmpty = false)
    (hlast : directory.toList.getLast? ≠ some '/') :
    join directory name = directory ++ "/" ++ name := by
  have hrelative : isAbsolute name = false := by
    rw [isAbsolute, beq_eq_false_iff_ne]
    exact fun hhead => hname (List.mem_of_head? hhead)
  simp [join, hrelative, hempty, hlast]

/-- A name without slashes is followed from the place of the directory. -/
theorem resolved_join (hname : '/' ∉ name.toList) (hempty : directory.isEmpty = false)
    (hlast : directory.toList.getLast? ≠ some '/') :
    resolved (join directory name) =
      if isVoid name then resolved directory else follow (resolved directory) name := by
  rw [join_eq hname hempty hlast, resolved, names_append hname, List.foldl_append, resolved]
  by_cases hvoid : isVoid name
  · simp [hvoid]
  · simp [hvoid]

end InstantReplay.Path
