/-
  Addresses and the paths that they stand for.

  1. **Proper paths** — the names on the way are names (`isName`) without slashes.  An address
     stands for a proper path or for the nameless node (`ofString?_addressable`).

  2. **Slashes at the end** — an address without them is nothing, or a slash and the names of its
     path with slashes between (`ofString?_eq_some`), and such a text is an address again
     (`ofString?_slashed`).

  3. **Items** — the address of an item of a list leads to the child under its key of the node that
     the items of the list are kept under (`ofString?_item`), whichever way the list is addressed.
-/
import TodoSite.Proofs.Text.Blank
import TodoSite.Proofs.Text.Pieces
import TodoSite.Repository.Export

namespace TodoSite.Path

/-! ## Proper paths -/

/-- Whether a text may stand between two slashes of an address. -/
def IsSegment (name : String) : Prop := isName name = true ∧ '/' ∉ name.toList

/-- A path all of whose names may stand in an address. -/
def Proper : Path → Prop
  | root => True
  | child parent name => parent.Proper ∧ IsSegment name

/-- The paths that addresses stand for. -/
def Addressable (p : Path) : Prop := p = nameless ∨ p.Proper

theorem IsSegment.ne_empty {name : String} (h : IsSegment name) : name ≠ "" := by
  rintro rfl
  exact absurd h.1 (by decide)

theorem isSegment_items : IsSegment "items" := by
  refine ⟨by decide, ?_⟩
  decide

theorem not_proper_nameless : ¬ nameless.Proper := fun h => h.2.ne_empty rfl

theorem Proper.ne_nameless {p : Path} (h : p.Proper) : p ≠ nameless := by
  rintro rfl
  exact not_proper_nameless h

theorem Addressable.parent {p : Path} {name : String} (h : (child p name).Addressable) :
    p.Proper := by
  rcases h with h | h
  · rw [(Path.child.inj h).1]
    exact trivial
  · exact h.1

/-- Only the root has a child that is addressed without being proper. -/
theorem Addressable.isSegment {p : Path} {name : String} (h : (child p name).Addressable)
    (hp : p ≠ root) : IsSegment name := by
  rcases h with h | h
  · exact absurd (Path.child.inj h).1 hp
  · exact h.2

theorem proper_descend {p : Path} {names : List String} (hp : p.Proper)
    (h : ∀ name ∈ names, IsSegment name) : (p.descend names).Proper := by
  induction names generalizing p with
  | nil => exact hp
  | cons name names ih =>
    refine ih ⟨hp, h name List.mem_cons_self⟩ fun n hn => h n (List.mem_cons_of_mem _ hn)

theorem descend_append (p : Path) (names more : List String) :
    p.descend (names ++ more) = (p.descend names).descend more := List.foldl_append

/-- How many names a path has. -/
def depth : Path → Nat
  | root => 0
  | child parent _ => parent.depth + 1

theorem ne_child (p : Path) (name : String) : p ≠ child p name := fun h => by
  have hd : p.depth = p.depth + 1 := congrArg depth h
  omega

/-! ## The names in an address -/

/-- The texts between the slashes of `cs`. -/
def segments (cs : List Char) : List String := (Text.pieces '/' cs).map String.ofList

theorem segments_append (cs ds : List Char) :
    segments (cs ++ '/' :: ds) = segments cs ++ segments ds := by
  rw [segments, Text.pieces_append, List.map_append]
  rfl

theorem segments_toList {name : String} (h : '/' ∉ name.toList) : segments name.toList = [name] := by
  rw [segments, Text.pieces_eq_singleton h, List.map_singleton, String.ofList_toList]

theorem isSegment_of_mem_segments {cs : List Char} (hall : (segments cs).all isName = true) :
    ∀ name ∈ segments cs, IsSegment name := by
  intro name hname
  refine ⟨List.all_eq_true.mp hall name hname, ?_⟩
  obtain ⟨piece, hpiece, rfl⟩ := List.mem_map.mp hname
  rw [String.toList_ofList]
  exact Text.not_mem_of_mem_pieces hpiece

/-! ## Reading an address -/

theorem toList_dropEndSlashes (address : String) :
    (Text.dropEndSlashes address).toList = Text.dropEndWhile (· == '/') address.toList :=
  String.toList_ofList

/-- What is left of a text that begins with a slash begins with it. -/
theorem eq_slash_of_dropEndWhile {c : Char} {rest kept : List Char}
    (h : Text.dropEndWhile (· == '/') ('/' :: rest) = c :: kept) : c = '/' := by
  have hprefix := Text.dropEndWhile_prefix (p := (· == '/')) ('/' :: rest)
  rw [h] at hprefix
  exact (List.cons_prefix_cons.mp hprefix).1

/-- **What an address looks like** without the slashes at its end: nothing for the root and the
    nameless node, and otherwise a slash and the names of its path. -/
theorem ofString?_eq_some {address : String} {p : Path} (h : ofString? address = some p) :
    ((Text.dropEndSlashes address).toList = [] ∧ (p = root ∨ p = nameless)) ∨
    ∃ kept, (Text.dropEndSlashes address).toList = '/' :: kept
      ∧ (∀ name ∈ segments kept, IsSegment name) ∧ p = root.descend (segments kept) := by
  rw [toList_dropEndSlashes]
  unfold ofString? at h
  by_cases hroot : address = "/"
  · subst hroot
    rw [if_pos rfl] at h
    exact Or.inl ⟨by decide, Or.inl (Option.some.inj h).symm⟩
  rw [if_neg hroot] at h
  split at h
  · rename_i rest hlist
    rw [hlist]
    split at h
    · rename_i hnil
      exact Or.inl ⟨hnil, Or.inr (Option.some.inj h).symm⟩
    · rename_i c kept hkept
      obtain rfl := eq_slash_of_dropEndWhile hkept
      dsimp only at h
      split at h
      · rename_i hall
        refine Or.inr ⟨kept, hkept, isSegment_of_mem_segments hall, (Option.some.inj h).symm⟩
      · cases h
  · cases h

theorem ofString?_addressable {address : String} {p : Path} (h : ofString? address = some p) :
    p.Addressable := by
  rcases ofString?_eq_some h with ⟨-, rfl | rfl⟩ | ⟨kept, -, hkept, rfl⟩
  · exact Or.inr trivial
  · exact Or.inl rfl
  · exact Or.inr (proper_descend trivial hkept)

/-- **A slash, and names with slashes between them**, is the address of the path through these names. -/
theorem ofString?_of_segments {kept : List Char} (h : ∀ n ∈ segments kept, IsSegment n) :
    ofString? (String.ofList ('/' :: kept)) = some (root.descend (segments kept)) := by
  have hempty : ∀ init, segments (init ++ ['/']) = segments init ++ [""] := fun init => segments_append init []
  have hne : kept ≠ [] := by
    rintro rfl
    exact (h "" (List.mem_singleton.mpr rfl)).ne_empty rfl
  -- the last name is not empty, so there is no slash at the end to drop
  have hkeep : Text.dropEndWhile (· == '/') ('/' :: kept) = '/' :: kept := by
    have hsplit : kept = kept.dropLast ++ [kept.getLast hne] := (List.dropLast_concat_getLast hne).symm
    have hlast : (kept.getLast hne == '/') = false := by
      refine beq_eq_false_iff_ne.mpr fun he => ?_
      rw [hsplit, he, hempty] at h
      exact (h "" (List.mem_append_right _ (List.mem_singleton.mpr rfl))).ne_empty rfl
    rw [hsplit, ← List.cons_append]
    exact Text.dropEndWhile_append_neg _ hlast
  have hroot : String.ofList ('/' :: kept) ≠ "/" := by
    intro he
    have hlist := congrArg String.toList he
    rw [String.toList_ofList] at hlist
    exact hne (List.cons.inj hlist).2
  have hall : (segments kept).all isName = true := List.all_eq_true.mpr fun n hn => (h n hn).1
  unfold ofString?
  rw [if_neg hroot, String.toList_ofList]
  simp only [hkeep]
  show (if (segments kept).all isName = true then some (root.descend (segments kept)) else none) = _
  rw [if_pos hall]

/-- Slashes at the end do not matter, as long as there is a name before them. -/
theorem ofString?_dropEndSlashes {address : String} {p : Path} (h : ofString? address = some p)
    (hname : (Text.dropEndSlashes address).toList ≠ []) :
    (Text.dropEndSlashes address).toList.head? = some '/'
      ∧ ofString? (Text.dropEndSlashes address) = some p := by
  rcases ofString?_eq_some h with ⟨hnil, -⟩ | ⟨kept, hlist, hkept, rfl⟩
  · exact absurd hnil hname
  · refine ⟨by rw [hlist]; rfl, ?_⟩
    rw [← String.ofList_toList (s := Text.dropEndSlashes address), hlist]
    exact ofString?_of_segments hkept

/-- A slash and names that end with a segment is the address of the path through these names. -/
theorem ofString?_slashed {cs : List Char} {name : String} (hname : IsSegment name)
    (hcs : ∀ n ∈ segments cs, IsSegment n) :
    ofString? (String.ofList ('/' :: cs ++ '/' :: name.toList))
      = some ((root.descend (segments cs)).child name) := by
  have hsegments : segments (cs ++ '/' :: name.toList) = segments cs ++ [name] := by
    rw [segments_append, segments_toList hname.2]
  have hall : ∀ n ∈ segments (cs ++ '/' :: name.toList), IsSegment n := by
    rw [hsegments]
    intro n hn
    rcases List.mem_append.mp hn with hn | hn
    · exact hcs n hn
    · exact List.mem_singleton.mp hn ▸ hname
  rw [List.cons_append, ofString?_of_segments hall, hsegments, descend_append]
  rfl

/-! ## The items of a list -/

theorem itemsFolder_eq (p : Path) :
    Repository.itemsFolder p = (if p = nameless then root else p).child "items" := by
  unfold Repository.itemsFolder entry
  by_cases hp : p = nameless
  · rw [if_pos hp, if_pos hp]
  · rw [if_neg hp, if_neg hp, if_neg fun h => absurd h.2 (by decide)]

/-- The folder of a list is never the root or the nameless node, so its children are just its
    children. -/
theorem entry_itemsFolder (p : Path) (name : String) :
    (Repository.itemsFolder p).entry name = (Repository.itemsFolder p).child name := by
  rw [itemsFolder_eq]
  unfold entry
  rw [if_neg, if_neg fun h => Path.noConfusion h.1]
  intro h
  exact absurd (Path.child.inj h).2 (by decide)

theorem proper_itemsFolder {p : Path} (hp : p.Addressable) : (Repository.itemsFolder p).Proper := by
  rw [itemsFolder_eq]
  split
  · exact ⟨trivial, isSegment_items⟩
  · rename_i hne
    exact ⟨hp.resolve_left hne, isSegment_items⟩

/-- **The address of an item** is that of a child of the folder of its list. -/
theorem ofString?_item {resource key : String} {p : Path} (h : ofString? resource = some p)
    (hkey : IsSegment key) :
    ofString? (Address.item resource key) = some ((Repository.itemsFolder p).child key) := by
  have hitems : "/items/".toList = '/' :: "items".toList ++ ['/'] := by decide
  have haddress : Address.item resource key
      = String.ofList ((Text.dropEndSlashes resource).toList ++ '/' :: "items".toList
        ++ '/' :: key.toList) := by
    refine String.toList_inj.mp ?_
    rw [String.toList_ofList, Address.item, String.toList_append, String.toList_append, hitems]
    simp
  rw [haddress]
  -- the folder of the nameless node is that of the root
  rcases ofString?_eq_some h with ⟨hnil, hp⟩ | ⟨kept, hlist, hkept, rfl⟩
  · have hsegments : segments "items".toList = ["items"] := segments_toList isSegment_items.2
    have hfolder : Repository.itemsFolder p = root.child "items" := by
      rw [itemsFolder_eq]
      rcases hp with rfl | rfl
      · rfl
      · rw [if_pos rfl]
    rw [hnil, List.nil_append, ofString?_slashed hkey, hsegments, hfolder]
    · rfl
    · rw [hsegments]
      exact fun n hn => (List.mem_singleton.mp hn) ▸ isSegment_items
  · have hsegments : segments (kept ++ '/' :: "items".toList) = segments kept ++ ["items"] := by
      rw [segments_append, segments_toList isSegment_items.2]
    have hproper : (root.descend (segments kept)).Proper := proper_descend trivial hkept
    rw [hlist, List.cons_append, ofString?_slashed hkey, hsegments, descend_append, itemsFolder_eq,
      if_neg hproper.ne_nameless]
    · rfl
    · rw [hsegments]
      intro n hn
      rcases List.mem_append.mp hn with hn | hn
      · exact hkept n hn
      · exact (List.mem_singleton.mp hn) ▸ isSegment_items

end TodoSite.Path
