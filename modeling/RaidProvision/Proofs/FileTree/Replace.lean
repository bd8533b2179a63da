import RaidProvision.FileTree.Change

/-!
# Replacing a file that is there

If a path leads to something that is no directory, all the directories on the way to it are there.
Replacing it then makes none, and changes only what stands at the end of the way.

* `makeWay_of_follow`: directories that are there are not made.
* `replace_of_find`: replacing what a path leads to writes it.
* `find_write`: the path leads to the same place afterwards.
-/
namespace RaidProvision.FileTree

variable {tree : FileTree} {base way : Way} {path : String} {entry : Entry}

/-! ## Following names -/

/-- The root is a directory. -/
theorem ne_nil_of_lookup? (hway : tree.lookup? way = some entry) (hd : entry ≠ .directory) :
    way ≠ [] := by
  rintro rfl
  exact hd (by simpa [lookup?] using hway.symm)

/-- Names lead from a directory, if they lead to one. -/
theorem lookup?_of_follow {source : Way} {names : List String}
    (h : tree.follow source names = .ok way) (hway : tree.lookup? way = some .directory) :
    tree.lookup? source = some .directory := by
  cases names with
  | nil =>
    simp only [follow, Except.ok.injEq] at h
    rw [h, hway]
  | cons part rest =>
    simp only [follow] at h
    split at h <;> first | contradiction | assumption

theorem makeWay_of_follow {source : Way} {names : List String}
    (h : tree.follow source names = .ok way) (hway : tree.lookup? way = some .directory) :
    tree.makeWay source names = .ok tree := by
  induction names generalizing source with
  | nil => rfl
  | cons part rest ih =>
    simp only [follow, lookup?_of_follow h hway] at h
    cases hs : step source part with
    | error cause => simp [hs] at h
    | ok next =>
      simp only [hs] at h
      simp only [makeWay, hs, lookup?_of_follow h hway]
      exact ih h

/-- Names that lead anywhere lead through directories up to the last one. -/
theorem follow_dropLast {source : Way} {names : List String} (hne : names ≠ [])
    (h : tree.follow source names = .ok way) :
    ∃ parent, tree.follow source names.dropLast = .ok parent ∧
      tree.lookup? parent = some .directory := by
  rw [← List.dropLast_concat_getLast hne, follow_append] at h
  cases hp : tree.follow source names.dropLast with
  | error cause => simp [hp, Except.bind] at h
  | ok parent =>
    simp only [hp, Except.bind, follow] at h
    refine ⟨parent, rfl, ?_⟩
    split at h <;> first | contradiction | assumption

/-- Names are followed alike after something that is no directory was written. -/
theorem follow_write (hway : tree.lookup? way = some entry) (hd : entry ≠ .directory)
    (content : String) (source : Way) (names : List String) :
    (tree.write way content).follow source names = tree.follow source names := by
  have hne := ne_nil_of_lookup? hway hd
  induction names generalizing source with
  | nil => rfl
  | cons part rest ih =>
    by_cases hs : source = way
    · subst hs
      simp only [follow, lookup?_write _ _ _ hne, hway]
      cases entry <;> simp_all [Entry.written]
    · have hsame : (tree.write way content).lookup? source = tree.lookup? source := by
        by_cases hroot : source = []
        · simp [lookup?, hroot]
        · rw [write, lookup?_set _ _ _ _ hroot, if_neg hs]
      simp only [follow, hsame, ih]

/-! ## Replacing what a path leads to -/

theorem locate_of_find (h : tree.find base path = .ok (way, entry)) (hd : entry ≠ .directory) :
    tree.locate base path = .ok ⟨way, false⟩ ∧ tree.lookup? way = some entry := by
  simp only [find] at h
  split at h
  · contradiction
  · rename_i location hl
    split at h
    · contradiction
    · simp only [Except.ok.injEq, Prod.mk.injEq] at h
      exact absurd h.2.symm hd
    · rename_i found _ hf
      split at h
      · contradiction
      · rename_i hasks
        simp only [Except.ok.injEq, Prod.mk.injEq] at h
        obtain ⟨rfl, rfl⟩ := h
        obtain ⟨way, asks⟩ := location
        simp only [Bool.not_eq_true] at hasks
        subst hasks
        exact ⟨hl, hf⟩

theorem follow_of_locate {location : Location} (h : tree.locate base path = .ok location) :
    tree.follow (start base path) (parts path) = .ok location.way ∧
      location.asksDirectory = FileTree.asksDirectory path := by
  simp only [locate] at h
  split at h
  · contradiction
  · split at h
    · contradiction
    · split at h
      · contradiction
      · cases hf : tree.follow (start base path) (parts path) with
        | error cause => simp [hf, Except.map] at h
        | ok found =>
          simp only [hf, Except.map, Except.ok.injEq] at h
          subst h
          exact ⟨rfl, rfl⟩

theorem replace_of_find (h : tree.find base path = .ok (way, entry)) (hd : entry ≠ .directory)
    (content : String) : tree.replace base path content = .ok (tree.write way content) := by
  obtain ⟨hl, hway⟩ := locate_of_find h hd
  obtain ⟨hf, hasks⟩ := follow_of_locate hl
  have hne : parts path ≠ [] := by
    intro hnil
    simp [FileTree.asksDirectory, hnil] at hasks
  obtain ⟨parent, hp, hdir⟩ := follow_dropLast hne hf
  have hfile : tree.isDirectory way = false := by simpa [isDirectory, hway] using hd
  simp only [replace, makeWay_of_follow hp hdir, destination, hl, hfile]
  rfl

theorem find_write (h : tree.find base path = .ok (way, entry)) (hd : entry ≠ .directory)
    (content : String) :
    (tree.write way content).find base path =
      .ok (way, Entry.written content (some entry)) := by
  obtain ⟨hl, hway⟩ := locate_of_find h hd
  have hne := ne_nil_of_lookup? hway hd
  have hl' : (tree.write way content).locate base path = .ok ⟨way, false⟩ := by
    rw [← hl]
    simp only [locate, follow_write hway hd]
  simp only [find, hl', lookup?_write _ _ _ hne, hway]
  cases entry <;> simp_all [Entry.written]

end RaidProvision.FileTree
