/-
  Targets and their paths.

  A slash and characters of paths is a target whose path is all of it (`path?_eq_self`), up to the
  greatest length; what is longer is no target (`path?_eq_none_of_long`).  Whatever the target is, there is
  nothing but such characters in its path (`isPathChar_of_path?`).
-/
import Mathlib.Data.List.TakeWhile
import TodoSite.Http.Uri

namespace TodoSite.Uri

variable {target : String}

/-- A character of a path does not end it. -/
theorem endsPath_of_isPathChar {c : Char} (h : isPathChar c = true) : endsPath c = false := by
  rw [endsPath, Bool.or_eq_false_iff, decide_eq_false_iff_not, decide_eq_false_iff_not]
  constructor
  · rintro rfl
    exact absurd h (by decide)
  · rintro rfl
    exact absurd h (by decide)

/-- **A slash and characters of paths** is a target that is its own path, unless it is too long. -/
theorem path?_eq_self (hslash : target.toList.head? = some '/')
    (hchars : ∀ c ∈ target.toList, isPathChar c = true) (hsize : target.utf8ByteSize ≤ maxBytes) :
    path? target = some target := by
  have hgo : ∀ c ∈ target.toList, (!endsPath c) = true := by
    intro c hc
    rw [endsPath_of_isPathChar (hchars c hc)]
    rfl
  have hpath : target.toList.takeWhile (!endsPath ·) = target.toList := List.takeWhile_eq_self_iff.mpr hgo
  have hrest : target.toList.dropWhile (!endsPath ·) = [] := List.dropWhile_eq_nil_iff.mpr hgo
  have hempty : target.toList.isEmpty = false := by
    cases hlist : target.toList with
    | nil => rw [hlist] at hslash; cases hslash
    | cons c cs => rfl
  have hstar : target ≠ "*" := by
    rintro rfl
    exact absurd hslash (by decide)
  have hwhole : pathAndQuery? target.toList = some target := by
    rw [pathAndQuery?, hpath, hrest]
    simp [List.all_eq_true.mpr hchars, isQueryEnd, hempty]
  unfold path?
  simp [hempty, hstar, hslash, hwhole, Nat.not_lt.mpr hsize]

theorem path?_eq_none_of_long (hsize : maxBytes < target.utf8ByteSize) : path? target = none := by
  unfold path?
  simp [hsize]

/-! ## The path of any target -/

variable {path : String}

theorem isPathChar_of_pathAndQuery? {cs : List Char} (h : pathAndQuery? cs = some path) :
    ∀ c ∈ path.toList, isPathChar c = true := by
  rw [pathAndQuery?] at h
  split at h
  · rename_i hall
    rw [Bool.and_eq_true, List.all_eq_true] at hall
    obtain rfl := Option.some.inj h
    split
    · exact List.all_eq_true.mp (by decide)
    · rw [String.toList_ofList]
      exact hall.1
  · cases h

/-- **The path of a target** has characters of paths only. -/
theorem isPathChar_of_path? (h : path? target = some path) : ∀ c ∈ path.toList, isPathChar c = true := by
  unfold path? at h
  dsimp only at h
  split at h
  · cases h
  split at h
  · obtain rfl := Option.some.inj h
    exact List.all_eq_true.mp (by decide)
  split at h
  · exact isPathChar_of_pathAndQuery? h
  split at h
  · split at h
    · obtain rfl := Option.some.inj h
      exact List.all_eq_true.mp (by decide)
    · cases h
  · split at h
    · exact isPathChar_of_pathAndQuery? h
    · cases h

end TodoSite.Uri
