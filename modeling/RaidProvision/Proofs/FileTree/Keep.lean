import RaidProvision.Proofs.FileTree.Replace

/-!
# What changes leave in place

Making a file or replacing one takes nothing away: directories stay directories, and all else stays
as it is, but for the file that a content was written to. So a path that led to a file still leads
there, and what is read is what was there before or what was written.

* `keeps_replace`, `keeps_touch`: both changes.
* `Keeps.follow`, `Keeps.read`: paths and contents afterwards.
-/
namespace RaidProvision

theorem Entry.written_written (content : String) (entry : Entry) :
    written content (some (written content (some entry))) = written content (some entry) := by
  cases entry <;> rfl

/-- Only files are written. -/
theorem Entry.written_some (content : String) (entry : Entry) :
    written content (some entry) = match entry with
      | .file _ executable => .file content executable
      | entry => entry := by
  cases entry <;> rfl

namespace FileTree

variable {content : String} {tree changed : FileTree} {base way : Way} {path : String}

/-- Everything is where it was, or had a content written to it. -/
def Keeps (content : String) (tree changed : FileTree) : Prop :=
  ∀ way entry, tree.lookup? way = some entry →
    changed.lookup? way = some entry ∨
      changed.lookup? way = some (Entry.written content (some entry))

theorem Keeps.refl (content : String) (tree : FileTree) : Keeps content tree tree :=
  fun _ _ h => .inl h

theorem Keeps.trans {later : FileTree} (h : Keeps content tree changed)
    (h' : Keeps content changed later) : Keeps content tree later := by
  intro way entry hentry
  rcases h way entry hentry with hsame | hwritten
  · exact h' way entry hsame
  · rcases h' way _ hwritten with hsame | hagain
    · exact .inr hsame
    · exact .inr (by rw [hagain, Entry.written_written])

/-- Something was put where nothing was. -/
theorem keeps_set (h : tree.lookup? way = none) (entry : Entry) :
    Keeps content tree (tree.set way entry) := by
  intro other found hfound
  by_cases hroot : other = []
  · subst hroot
    exact .inl (by simpa [lookup?] using hfound)
  · have hne : other ≠ way := by
      rintro rfl
      rw [h] at hfound
      cases hfound
    exact .inl (by rw [lookup?_set _ _ _ _ hroot, if_neg hne, hfound])

theorem keeps_write : Keeps content tree (tree.write way content) := by
  intro other found hfound
  by_cases hroot : other = []
  · subst hroot
    exact .inl (by simpa [lookup?] using hfound)
  · rw [write, lookup?_set _ _ _ _ hroot]
    by_cases hsame : other = way
    · subst hsame
      exact .inr (by rw [if_pos rfl, hfound])
    · exact .inl (by rw [if_neg hsame, hfound])

theorem keeps_makeWay {names : List String} (h : tree.makeWay way names = .ok changed) :
    Keeps content tree changed := by
  induction names generalizing tree way with
  | nil =>
    obtain rfl := Except.ok.inj h
    exact .refl _ _
  | cons part rest ih =>
    rw [makeWay] at h
    split at h
    case h_1 => cases h
    case h_2 next _ =>
      split at h
      case h_1 hnone => exact (keeps_set hnone _).trans (ih h)
      case h_2 => exact ih h
      case h_3 => cases h

theorem keeps_replace (h : tree.replace base path content = .ok changed) :
    Keeps content tree changed := by
  rw [replace] at h
  split at h
  case h_1 => cases h
  case h_2 made hmade =>
    cases hd : made.destination base path with
    | error cause => simp [hd, Except.map] at h
    | ok way =>
      obtain rfl : made.write way content = changed := by simpa [hd, Except.map] using h
      exact (keeps_makeWay hmade).trans keeps_write

theorem keeps_touch (h : tree.touch base path = .ok changed) : Keeps content tree changed := by
  rw [touch] at h
  split at h
  case h_1 => cases h
  case h_2 way _ =>
    cases hway : tree.lookup? way with
    | some entry =>
      obtain rfl : tree = changed := by simpa [hway] using h
      exact .refl _ _
    | none =>
      obtain rfl : tree.write way "" = changed := by simpa [hway] using h
      exact keeps_set hway _

namespace Keeps

variable (h : Keeps content tree changed)
include h

theorem lookup?_directory (hway : tree.lookup? way = some .directory) :
    changed.lookup? way = some .directory := by
  rcases h way _ hway with hsame | hsame <;> exact hsame

theorem follow {source : Way} {names : List String} (hf : tree.follow source names = .ok way) :
    changed.follow source names = .ok way := by
  induction names generalizing source with
  | nil => exact hf
  | cons part rest ih =>
    rw [FileTree.follow] at hf
    split at hf
    case h_1 => cases hf
    case h_2 hdirectory =>
      rw [FileTree.follow, h.lookup?_directory hdirectory]
      split at hf
      case h_1 next hstep =>
        simpa only [hstep] using ih hf
      case h_2 => cases hf
    case h_3 => cases hf

theorem locate {location : Location} (hl : tree.locate base path = .ok location) :
    changed.locate base path = .ok location := by
  unfold FileTree.locate at hl ⊢
  split at hl
  case isTrue => cases hl
  case isFalse hnul =>
    split at hl
    case isTrue => cases hl
    case isFalse hempty =>
      split at hl
      case isTrue => cases hl
      case isFalse hlong =>
        rw [if_neg hnul, if_neg hempty, if_neg hlong]
        cases hf : tree.follow (start base path) (parts path) with
        | error cause => simp [hf, Except.map] at hl
        | ok way =>
          rw [hf] at hl
          rw [h.follow hf]
          exact hl

/-- What is read is what was there before, or what was written. -/
theorem read {held : String} (hr : tree.read base path = .ok held) :
    changed.read base path = .ok held ∨ changed.read base path = .ok content := by
  unfold FileTree.read at hr
  split at hr
  case h_1 => cases hr
  case h_2 => cases hr
  case h_3 way entry hd hfind =>
    obtain rfl := Except.ok.inj hr
    obtain ⟨hl, hway⟩ := locate_of_find hfind hd
    have hfound (found : Entry) (hlookup : changed.lookup? way = some found)
        (hne : found ≠ .directory) : changed.read base path = .ok found.content := by
      simp only [FileTree.read, find, h.locate hl, hlookup]
      cases found <;> simp_all
    rcases h way entry hway with hsame | hwritten
    · exact .inl (hfound entry hsame hd)
    · rw [Entry.written_some] at hwritten
      split at hwritten
      case h_1 executable => exact .inr (hfound _ hwritten (by simp))
      case h_2 => exact .inl (hfound entry hwritten hd)

end Keeps
end FileTree
end RaidProvision
