/-
  Paths as they are written.

  1. **Reading what is written** (`ofString?_render`) — a proper path is written as an address of itself.
     The nameless node is written as nothing at all, which is no address.  So no two paths that addresses
     stand for are written alike (`render_inj`).

  2. **One name further** (`render_entry`) — a child is written as its parent, a slash and its name, but
     for those of the root, which has its slash already.

  3. **Splitting at the last slash** (`split_render`) — what is written before the last slash is the
     node above, what is written behind it is the last name.  The root stands above the paths with one
     slash, above the empty text, and above itself.
-/
import TodoSite.Proofs.Path

namespace TodoSite.Path

/-- A written path up to its last slash, which is the root where nothing stands before it, and the name
    behind that slash. -/
def split (written : String) : String × String :=
  let name := String.ofList (written.toList.reverse.takeWhile (· ≠ '/')).reverse
  match written.toList.reverse.dropWhile (· ≠ '/') with
  | _ :: c :: above => (String.ofList (c :: above).reverse, name)
  | _ => ("/", name)

/-- The node above a node; the root is above itself. -/
def above : Path → Path
  | root => root
  | child parent _ => parent

variable {p q : Path}

/-! ## Reading what is written -/

/-- How a proper path other than the root is written. -/
theorem Proper.toList_tail (hp : p.Proper) (hne : p ≠ root) :
    ∃ kept, p.tail.toList = '/' :: kept ∧ (∀ n ∈ segments kept, IsSegment n)
      ∧ root.descend (segments kept) = p := by
  induction p with
  | root => exact absurd rfl hne
  | child parent name ih =>
    obtain ⟨hparent, hname⟩ := hp
    have htail : (child parent name).tail.toList = parent.tail.toList ++ '/' :: name.toList := by
      rw [tail, String.toList_append, String.toList_append]
      simp
    by_cases hroot : parent = root
    · subst hroot
      refine ⟨name.toList, htail, ?_, ?_⟩
      · rw [segments_toList hname.2]
        exact fun n hn => List.mem_singleton.mp hn ▸ hname
      · rw [segments_toList hname.2]
        rfl
    · obtain ⟨kept, hlist, hkept, hpath⟩ := ih hparent hroot
      have hsegments : segments (kept ++ '/' :: name.toList) = segments kept ++ [name] := by
        rw [segments_append, segments_toList hname.2]
      refine ⟨kept ++ '/' :: name.toList, ?_, ?_, ?_⟩
      · rw [htail, hlist, List.cons_append]
      · rw [hsegments]
        intro n hn
        rcases List.mem_append.mp hn with hn | hn
        · exact hkept n hn
        · exact List.mem_singleton.mp hn ▸ hname
      · rw [hsegments, descend_append, hpath]
        rfl

theorem Proper.render_eq_tail (hp : p.Proper) (hne : p ≠ root) : p.render = p.tail := by
  rw [render, if_neg hne, if_neg hp.ne_nameless]

/-- **A proper path is written as an address of itself.** -/
theorem ofString?_render (hp : p.Proper) : ofString? p.render = some p := by
  by_cases hne : p = root
  · subst hne
    rfl
  · obtain ⟨kept, hlist, hkept, hpath⟩ := hp.toList_tail hne
    have hwritten : p.render = String.ofList ('/' :: kept) := by
      rw [hp.render_eq_tail hne, ← hlist, String.ofList_toList]
    rw [hwritten, ofString?_of_segments hkept, hpath]

/-- The address of an item can be made from the written path of its list, also where that is empty. -/
theorem ofString?_item_render {key : String} (hp : p.Addressable) (hkey : IsSegment key) :
    ofString? (Address.item p.render key) = some ((Repository.itemsFolder p).child key) := by
  rcases hp with rfl | hp
  · -- the empty text stands for what is left of a run of slashes
    have hbare : Text.dropEndSlashes nameless.render = Text.dropEndSlashes "//" := by decide
    have hread : ofString? "//" = some nameless := by decide
    rw [Address.item, hbare]
    exact ofString?_item hread hkey
  · exact ofString?_item (ofString?_render hp) hkey

/-- **No two paths are written alike.** -/
theorem render_inj (hp : p.Addressable) (hq : q.Addressable) (h : p.render = q.render) : p = q := by
  -- the empty text is no address, so no proper path is written like the nameless node
  have hnone : ofString? nameless.render = none := by decide
  rcases hp with rfl | hp <;> rcases hq with rfl | hq
  · rfl
  · rw [h, ofString?_render hq] at hnone
    cases hnone
  · rw [← h, ofString?_render hp] at hnone
    cases hnone
  · exact Option.some.inj ((ofString?_render hp).symm.trans (h ▸ ofString?_render hq))

/-! ## One name further -/

/-- The written path of a child, from that of the node above it and its name. -/
def under (written name : String) : String :=
  if written = "/" then "/" ++ name else written ++ "/" ++ name

/-- **A child is written** behind its parent.  Both the root and the nameless node leave its name alone
    with a slash before it. -/
theorem render_entry {name : String} (hp : p.Addressable) (hname : IsSegment name) :
    (p.entry name).render = under p.render name := by
  rcases hp with rfl | hp
  · have hproper : (child root name).Proper := ⟨trivial, hname⟩
    rw [entry, if_pos rfl, hproper.render_eq_tail (by simp)]
    rfl
  · have hproper : (child p name).Proper := ⟨hp, hname⟩
    rw [entry, if_neg hp.ne_nameless, if_neg fun h => hname.ne_empty h.2, hproper.render_eq_tail (by simp)]
    by_cases hroot : p = root
    · subst hroot
      show "" ++ "/" ++ name = "/" ++ name
      rw [String.empty_append]
    · -- what is written like the root is the root
      have hne : p.render ≠ "/" := by
        intro he
        have hback := ofString?_render hp
        rw [he] at hback
        exact hroot (Option.some.inj hback).symm
      rw [under, if_neg hne, hp.render_eq_tail hroot]
      rfl

/-! ## Splitting at the last slash -/

theorem Addressable.above (hp : p.Addressable) : p.above.Proper := by
  cases p with
  | root => exact trivial
  | child parent name => exact hp.parent

theorem split_of_toList {written name : String} {before : List Char} (hname : '/' ∉ name.toList)
    (h : written.toList = before ++ '/' :: name.toList) :
    split written = (if before = [] then "/" else String.ofList before, name) := by
  have hreverse : written.toList.reverse = name.toList.reverse ++ '/' :: before.reverse := by
    rw [h]
    simp
  have hslash : '/' ∉ name.toList.reverse := fun hc => hname (List.mem_reverse.mp hc)
  have htake : written.toList.reverse.takeWhile (· ≠ '/') = name.toList.reverse := by
    rw [hreverse, Text.takeWhile_ne_append _ hslash]
  have hdrop : written.toList.reverse.dropWhile (· ≠ '/') = '/' :: before.reverse := by
    rw [hreverse, Text.dropWhile_ne_append _ hslash]
  rw [split, htake, hdrop, List.reverse_reverse, String.ofList_toList]
  rcases List.eq_nil_or_concat before with rfl | ⟨init, c, rfl⟩
  · rfl
  · rw [if_neg (by simp), List.concat_eq_append, List.reverse_append, List.reverse_singleton,
      List.singleton_append]
    dsimp only
    rw [List.reverse_cons, List.reverse_reverse]

/-- **Splitting a written path** gives the node above and the last name. -/
theorem split_render (hp : p.Addressable) : split p.render = (p.above.render, p.lastName) := by
  rcases hp with rfl | hp
  · decide
  · cases p with
    | root => decide
    | child parent name =>
      have htail : (child parent name).render.toList = parent.tail.toList ++ '/' :: name.toList := by
        rw [hp.render_eq_tail fun h => Path.noConfusion h, tail, String.toList_append, String.toList_append]
        simp
      obtain ⟨hparent, hname⟩ := hp
      rw [split_of_toList hname.2 htail]
      by_cases hroot : parent = root
      · subst hroot
        rfl
      · -- something is written before the last slash
        obtain ⟨kept, hlist, -, -⟩ := hparent.toList_tail hroot
        have hne : parent.tail.toList ≠ [] := fun h => by rw [hlist] at h; cases h
        rw [if_neg hne, String.ofList_toList, ← hparent.render_eq_tail hroot]
        rfl

end TodoSite.Path
