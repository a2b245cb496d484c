import InstantReplay.Files.Tree

/-!
# Entries that are put in a file tree

No path leads through a place where no directory stands. So an entry that is put there is found
under every path that means this place (`FileTree.find_put`), and a file that was written is found
with its contents (`FileTree.find_write`).
-/

namespace InstantReplay.FileTree

variable {tree : FileTree} {place other : List String} {path : String}

theorem entry?_put (hplace : place ≠ []) (tree : FileTree) (entry : FileEntry) :
    FileTree.entry? (tree.put place entry) place = some entry := by
  simp [put, entry?, hplace]

theorem entry?_put_of_ne (h : other ≠ place) (tree : FileTree) (entry : FileEntry) :
    FileTree.entry? (tree.put place entry) other = tree.entry? other := by
  have hkept : (tree.entries.filter (·.1 ≠ place)).find? (·.1 = other) =
      tree.entries.find? (·.1 = other) := by
    rw [List.find?_filter]
    congr 1
    funext found
    by_cases hfound : found.1 = other
    · simp [hfound, h]
    · simp [hfound]
  simp only [put, entry?, List.find?_cons]
  rw [decide_eq_false (Ne.symm h), hkept]

theorem walk_put (hplace : tree.entry? place ≠ some .directory) (entry : FileEntry)
    {start names : List String} (h : tree.walk start names = .ok place) :
    (tree.put place entry).walk start names = .ok place := by
  induction names generalizing start with
  | nil => exact h
  | cons name names ih =>
    cases hstart : tree.entry? start with
    | none =>
      simp only [walk, hstart] at h
      cases h
    | some found =>
      simp only [walk, hstart] at h
      cases found with
      | directory =>
        -- The walk goes on from `start`, where a directory stands.
        have hne : start ≠ place := by
          rintro rfl
          exact hplace hstart
        simp only [walk, entry?_put_of_ne hne, hstart]
        dsimp only at h ⊢
        split at h
        · cases h
        · rename_i hlength
          rw [if_neg hlength]
          split at h
          · rename_i hup
            rw [if_pos hup]
            exact ih h
          · rename_i hup
            rw [if_neg hup]
            exact ih h
      | file contents => cases h
      | socket listener => cases h
      | node => cases h

/-- A path to a place, and what stands there. -/
theorem locate_eq_ok {found : Option FileEntry} (h : tree.locate path = .ok (place, found)) :
    '\x00' ∉ path.toList ∧ path.isEmpty = false ∧
      tree.walk (if Path.isAbsolute path then [] else tree.current) (Path.names path) = .ok place ∧
      tree.entry? place = found ∧
      ∀ entry, found = some entry → entry ≠ .directory → wantsDirectory path = false := by
  rw [locate] at h
  split at h
  · cases h
  rename_i hzero
  split at h
  · cases h
  rename_i hempty
  split at h
  · cases h
  rename_i walked hwalk
  split at h
  · rename_i hentry
    cases h
    exact ⟨hzero, Bool.eq_false_iff.2 hempty, hwalk, hentry, fun entry heq hne =>
      absurd (Option.some.inj heq).symm hne⟩
  · rename_i hentry
    split at h
    · cases h
    · rename_i hfile
      cases h
      exact ⟨hzero, Bool.eq_false_iff.2 hempty, hwalk, hentry, fun _ _ _ =>
        Bool.eq_false_iff.2 hfile⟩
  · rename_i hentry
    cases h
    exact ⟨hzero, Bool.eq_false_iff.2 hempty, hwalk, hentry, nofun⟩

/-- **What was put in place of something under a path is found there**, unless that was a
directory. -/
theorem find_put_of_locate {found : Option FileEntry} (h : tree.locate path = .ok (place, found))
    (hfound : found ≠ some .directory) (hfile : wantsDirectory path = false) {entry : FileEntry}
    (hentry : entry ≠ .directory) : (tree.put place entry).find path = .ok entry := by
  obtain ⟨hzero, hempty, hwalk, hstands, -⟩ := locate_eq_ok h
  have hplace : place ≠ [] := by
    rintro rfl
    exact hfound hstands.symm
  have hcurrent : (tree.put place entry).current = tree.current := rfl
  have hlocate : (tree.put place entry).locate path = .ok (place, some entry) := by
    rw [locate, if_neg hzero, if_neg (by simp [hempty]), hcurrent,
      walk_put (hstands ▸ hfound) entry hwalk]
    simp only [entry?_put hplace]
    cases entry with
    | directory => exact absurd rfl hentry
    | _ => rw [hfile]; rfl
  rw [find, hlocate]

/-- **What was put under a path is found there.** -/
theorem find_put (h : tree.locate path = .ok (place, none)) (hfile : wantsDirectory path = false)
    {entry : FileEntry} (hentry : entry ≠ .directory) :
    (tree.put place entry).find path = .ok entry :=
  find_put_of_locate h nofun hfile hentry

/-- **A file that was written is found**, with its contents; a device node takes them and stays. -/
theorem find_write {contents : ByteArray} (h : (tree.write path contents).1 = .ok ()) :
    (tree.write path contents).2.find path = .ok (.file contents) ∨
      tree.find path = .ok .node ∧ (tree.write path contents).2 = tree := by
  rw [write] at h ⊢
  split at h
  · cases h
  · rename_i place hlocate
    split at h
    · cases h
    · rename_i hfile
      rw [if_neg hfile]
      split at h
      · exact Or.inl (find_put hlocate (Bool.eq_false_iff.2 hfile) nofun)
      · cases h
      · cases h
  · rename_i place old hlocate
    have hfile := (locate_eq_ok hlocate).2.2.2.2 _ rfl nofun
    exact Or.inl (find_put_of_locate hlocate nofun hfile nofun)
  · cases h
  · cases h
  · rename_i place hlocate
    exact Or.inr ⟨by rw [find, hlocate], rfl⟩

end InstantReplay.FileTree
