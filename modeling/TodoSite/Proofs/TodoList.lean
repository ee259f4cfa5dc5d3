/-
  What an acknowledgement does to the items of a list.

  A list is looked at through the entries of its items, as a repository exports them, and through
  their *labels*, key and name, which no flag that is turned can change.

  1. **Building** — of the items given, those stay whose key no earlier one has (`items_ofItems_eq_firsts`), so
     the keys of a list differ; items with different keys are taken as they are
     (`firstOfEachKey_eq_self`).

  2. **New items** (`acknowledge_add_of_mem`, `acknowledge_add_of_not_mem`): ignored when the key is
     there, and last otherwise.

  3. **Turned items** (`entries_acknowledge_toggle`): on entries the acknowledgement is `overwrite`,
     what the repository does, as long as the write carries the name that the list shows.
-/
import Mathlib.Data.List.Induction
import Mathlib.Data.List.Nodup
import TodoSite.Proofs.Repository.Items
import TodoSite.TodoList

namespace TodoSite

/-- What a turned flag leaves alone. -/
abbrev Label := String × String

/-- The key and the name of an item. -/
def Item.label (item : Item) : Label := (item.key, item.name)

/-- An item with its flag turned, as it is written. -/
def Item.turned (item : Item) : Item := { item with done := !item.done }

/-- The key and the name of an entry. -/
def Entry.label (e : Entry) : Label := (e.1, e.2.1)

namespace TodoList

/-- The entries of a list, as they would be exported. -/
def entries (list : TodoList) : List Entry := list.items.map Item.entry

/-- The labels of a list. -/
def labels (list : TodoList) : List Label := list.items.map Item.label

variable {list : TodoList} {items : List Item} {item : Item} {key : String}

theorem keys_labels (list : TodoList) : list.labels.map (·.1) = list.items.map Item.key :=
  List.map_map

theorem keys_entries (list : TodoList) : list.entries.map (·.1) = list.items.map Item.key :=
  List.map_map

/-! ## Building -/

theorem firstOfEachKey_sublist (seen : List String) (items : List Item) :
    (firstOfEachKey seen items).Sublist items := by
  induction items generalizing seen with
  | nil => exact List.Sublist.refl []
  | cons item items ih =>
    rw [firstOfEachKey]
    split
    · exact (ih seen).cons item
    · exact (ih (item.key :: seen)).cons_cons item

/-- Items with different keys are taken as they are. -/
theorem firstOfEachKey_eq_self {seen : List String} (hnodup : (items.map Item.key).Nodup)
    (hseen : ∀ item ∈ items, item.key ∉ seen) : firstOfEachKey seen items = items := by
  induction items generalizing seen with
  | nil => rfl
  | cons item items ih =>
    obtain ⟨hnew, hrest⟩ := List.nodup_cons.mp hnodup
    rw [firstOfEachKey, if_neg (hseen item List.mem_cons_self), ih hrest]
    intro other hother hmem
    rcases List.mem_cons.mp hmem with he | hmem
    · exact hnew (he ▸ List.mem_map_of_mem hother)
    · exact hseen other (List.mem_cons_of_mem _ hother) hmem

/-- No key is lost. -/
theorem key_mem_firstOfEachKey {seen : List String} (h : key ∈ items.map Item.key) (hseen : key ∉ seen) :
    key ∈ (firstOfEachKey seen items).map Item.key := by
  induction items generalizing seen with
  | nil => exact absurd h List.not_mem_nil
  | cons item items ih =>
    rw [firstOfEachKey]
    split
    · rename_i hitem
      rcases List.mem_cons.mp h with rfl | h
      · exact absurd hitem hseen
      · exact ih h hseen
    · -- the key is taken here, or is still unseen later on
      by_cases he : key = item.key
      · rw [he]
        exact List.mem_cons_self
      · refine List.mem_cons_of_mem _ (ih ((List.mem_cons.mp h).resolve_left he) fun hmem => ?_)
        exact (List.mem_cons.mp hmem).elim he hseen

/-- The keys of what is taken are new and differ. -/
theorem nodup_firstOfEachKey (seen : List String) (items : List Item) :
    (∀ key ∈ (firstOfEachKey seen items).map Item.key, key ∉ seen)
      ∧ ((firstOfEachKey seen items).map Item.key).Nodup := by
  induction items generalizing seen with
  | nil => exact ⟨fun _ h => absurd h List.not_mem_nil, List.nodup_nil⟩
  | cons item items ih =>
    rw [firstOfEachKey]
    split
    · exact ih seen
    · rename_i hitem
      obtain ⟨hfresh, hnodup⟩ := ih (item.key :: seen)
      refine ⟨fun key hkey => ?_, List.nodup_cons.mpr ⟨fun hmem => ?_, hnodup⟩⟩
      · rcases List.mem_cons.mp hkey with rfl | hkey
        · exact hitem
        · exact fun hseen => hfresh key hkey (List.mem_cons_of_mem _ hseen)
      · exact hfresh item.key hmem List.mem_cons_self

/-- The items whose key no earlier item has, in their order. -/
def firsts (items : List Item) : List Item :=
  (items.zipIdx.filter fun entry => entry.1.key ∉ (items.take entry.2).map Item.key).map (·.1)

theorem firstOfEachKey_eq_filter (seen : List String) (items : List Item) :
    firstOfEachKey seen items
      = (items.zipIdx.filter fun entry => entry.1.key ∉ seen ++ (items.take entry.2).map Item.key).map (·.1) := by
  induction items generalizing seen with
  | nil => rfl
  | cons item items ih =>
    -- whatever has been seen, the items behind the first one are looked at with its key
    have hrest : ∀ seen' : List String,
        (∀ key l, key ∈ seen' ++ l ↔ key ∈ seen ++ item.key :: l) →
        (((items.zipIdx 1).filter fun entry =>
            entry.1.key ∉ seen ++ ((item :: items).take entry.2).map Item.key).map (·.1))
          = firstOfEachKey seen' items := by
      intro seen' hseen
      rw [ih, List.zipIdx_succ, List.filter_map, List.map_map]
      refine congrArg (List.map _) (List.filter_congr fun entry _ => decide_eq_decide.mpr ?_)
      exact not_congr (hseen entry.1.key _).symm
    rw [firstOfEachKey, List.zipIdx_cons, List.filter_cons]
    by_cases hitem : item.key ∈ seen
    · rw [if_pos hitem, if_neg (by simp [hitem]), hrest seen]
      intro key l
      simp only [List.mem_append, List.mem_cons]
      constructor
      · exact Or.imp_right Or.inr
      · rintro (h | rfl | h)
        · exact Or.inl h
        · exact Or.inl hitem
        · exact Or.inr h
    · rw [if_neg hitem, if_pos (by simp [hitem]), List.map_cons, hrest (item.key :: seen)]
      intro key l
      simp only [List.cons_append, List.mem_append, List.mem_cons]
      exact or_left_comm

theorem items_ofItems_eq_firsts (items : List Item) : (ofItems items).items = firsts items :=
  firstOfEachKey_eq_filter [] items

theorem nodup_ofItems (items : List Item) : ((ofItems items).items.map Item.key).Nodup :=
  (nodup_firstOfEachKey [] items).2

theorem items_ofItems (hnodup : (items.map Item.key).Nodup) : (ofItems items).items = items :=
  firstOfEachKey_eq_self hnodup fun _ _ => List.not_mem_nil

theorem mem_labels_replaceItems {l : Label} (h : l ∈ (list.replaceItems items).labels) :
    l ∈ items.map Item.label :=
  ((firstOfEachKey_sublist [] items).map Item.label).subset h

/-! ## Looking -/

theorem get?_eq_some (h : list.get? key = some item) : item ∈ list.items ∧ item.key = key := by
  have hkey : decide (item.key = key) = true :=
    List.find?_some (p := fun item : Item => decide (item.key = key)) h
  exact ⟨List.mem_of_find?_eq_some h, of_decide_eq_true hkey⟩

theorem isSome_get?_iff : (list.get? key).isSome ↔ key ∈ list.items.map Item.key := by
  rw [get?, List.find?_isSome, List.mem_map]
  simp only [decide_eq_true_eq]

/-- Where the keys differ, an item is found under its key. -/
theorem get?_of_mem (hnodup : (list.items.map Item.key).Nodup) (h : item ∈ list.items) :
    list.get? item.key = some item := by
  obtain ⟨found, hfound⟩ := Option.isSome_iff_exists.mp (isSome_get?_iff.mpr (List.mem_map_of_mem h))
  obtain ⟨hmem, hkey⟩ := get?_eq_some hfound
  rw [hfound, List.inj_on_of_nodup_map hnodup hmem h hkey]

/-- A toggle asks to write the item turned. -/
theorem update_toggle_of_mem (hnodup : (list.items.map Item.key).Nodup) (h : item ∈ list.items) :
    list.update (.toggle item.key) = (list, some (.write (.toggle item.turned))) := by
  rw [update, get?_of_mem hnodup h]
  rfl

/-! ## New items -/

/-- Only what is asked for on the page moves the key sequence on. -/
theorem keys_acknowledge (list : TodoList) (write : PendingWrite) :
    (list.acknowledge write).keys = list.keys := by
  cases write with
  | toggle item => rfl
  | add item =>
    rw [acknowledge]
    split <;> rfl

theorem acknowledge_add_of_mem (h : item.key ∈ list.items.map Item.key) :
    list.acknowledge (.add item) = list := by
  rw [acknowledge, if_pos (isSome_get?_iff.mpr h)]

theorem acknowledge_add_of_not_mem (h : item.key ∉ list.items.map Item.key) :
    list.acknowledge (.add item) = { list with items := list.items ++ [item] } := by
  rw [acknowledge, if_neg fun hsome => h (isSome_get?_iff.mp hsome)]

/-- The list after answers have come in, one after the other. -/
def acknowledgeAll (list : TodoList) (writes : List PendingWrite) : TodoList :=
  writes.foldl (fun list write => (list.update (.acknowledged write)).1) list

theorem acknowledgeAll_concat (list : TodoList) (writes : List PendingWrite) (write : PendingWrite) :
    list.acknowledgeAll (writes ++ [write]) = (list.acknowledgeAll writes).acknowledge write :=
  List.foldl_concat _ _ _ _

/-- What an answer does to the items depends on the items alone. -/
theorem items_acknowledge_congr {list' : TodoList} (h : list.items = list'.items) (write : PendingWrite) :
    (list.acknowledge write).items = (list'.acknowledge write).items := by
  cases write with
  | toggle item => exact congrArg (setDone item.key item.done) h
  | add item =>
    by_cases hmem : item.key ∈ list.items.map Item.key
    · rw [acknowledge_add_of_mem hmem, acknowledge_add_of_mem (h ▸ hmem), h]
    · rw [acknowledge_add_of_not_mem hmem, acknowledge_add_of_not_mem (h ▸ hmem)]
      exact congrArg (· ++ [item]) h

/-- The items do not depend on the key sequence. -/
theorem items_acknowledgeAll_keys (list : TodoList) (keys : KeySequence) (writes : List PendingWrite) :
    (acknowledgeAll { list with keys } writes).items = (acknowledgeAll list writes).items := by
  induction writes using List.reverseRecOn with
  | nil => rfl
  | append_singleton writes write ih =>
    rw [acknowledgeAll_concat, acknowledgeAll_concat]
    exact items_acknowledge_congr ih write

/-! ## Turned items -/

/-- A turned flag leaves alone what does not look at it. -/
theorem map_setDone {α : Type} {f : Item → α} (hf : ∀ item done, f { item with done := done } = f item)
    (key : String) (done : Bool) (items : List Item) : (setDone key done items).map f = items.map f := by
  induction items with
  | nil => rfl
  | cons item items ih =>
    rw [setDone]
    split
    · rw [List.map_cons, List.map_cons, hf]
    · rw [List.map_cons, List.map_cons, ih]

/-- A turned flag touches neither key nor name. -/
theorem labels_setDone (key : String) (done : Bool) (items : List Item) :
    (setDone key done items).map Item.label = items.map Item.label :=
  map_setDone (fun _ _ => rfl) key done items

/-- Where the keys differ, a flag is set at every item with the key. -/
theorem setDone_eq_map {done : Bool} (hnodup : (items.map Item.key).Nodup) :
    setDone key done items = items.map fun item => if item.key = key then { item with done } else item := by
  induction items with
  | nil => rfl
  | cons item items ih =>
    obtain ⟨hnew, hrest⟩ := List.nodup_cons.mp hnodup
    rw [setDone, List.map_cons]
    by_cases he : item.key = key
    · -- no other item has the key
      have hsame : items.map (fun other : Item => if other.key = key then { other with done } else other)
          = items := by
        refine (List.map_congr_left fun other hother => ?_).trans (List.map_id items)
        have hne : other.key ≠ key := fun hkey => hnew (he ▸ hkey ▸ List.mem_map_of_mem hother)
        rw [if_neg hne]
        rfl
      rw [if_pos he, if_pos he, hsame]
    · rw [if_neg he, if_neg he, ih hrest]

/-- Where the keys differ, a flag that is set to what it was not is turned at one item. -/
theorem setDone_turned (hnodup : (items.map Item.key).Nodup) (hitem : item ∈ items) :
    setDone item.key item.turned.done items
      = items.map fun other => if other.key = item.key then other.turned else other := by
  rw [setDone_eq_map hnodup]
  refine List.map_congr_left fun other hother => ?_
  by_cases he : other.key = item.key
  · rw [if_pos he, if_pos he, List.inj_on_of_nodup_map hnodup hother hitem he]
    rfl
  · rw [if_neg he, if_neg he]

theorem labels_acknowledge_toggle (list : TodoList) (item : Item) :
    (list.acknowledge (.toggle item)).labels = list.labels :=
  labels_setDone _ _ _

/-- Whatever is acknowledged, the labels of a list stay and at most that of a new item joins. -/
theorem labels_acknowledge (list : TodoList) (write : PendingWrite) :
    (list.acknowledge write).labels = list.labels
      ∨ ∃ item, write = .add item ∧ (list.acknowledge write).labels = list.labels ++ [item.label] := by
  cases write with
  | toggle item => exact Or.inl (labels_acknowledge_toggle list item)
  | add item =>
    by_cases h : item.key ∈ list.items.map Item.key
    · rw [acknowledge_add_of_mem h]
      exact Or.inl rfl
    · rw [acknowledge_add_of_not_mem h]
      exact Or.inr ⟨item, rfl, List.map_append⟩

theorem mem_labels_acknowledge {l : Label} {write : PendingWrite} (h : l ∈ (list.acknowledge write).labels) :
    l ∈ list.labels ∨ ∃ item, write = .add item ∧ l = item.label := by
  rcases labels_acknowledge list write with he | ⟨item, hw, he⟩
  · exact Or.inl (he ▸ h)
  · rw [he] at h
    rcases List.mem_append.mp h with h | h
    · exact Or.inl h
    · exact Or.inr ⟨item, hw, List.mem_singleton.mp h⟩

theorem labels_subset_acknowledge (list : TodoList) (write : PendingWrite) :
    list.labels ⊆ (list.acknowledge write).labels := by
  intro l hl
  rcases labels_acknowledge list write with he | ⟨item, -, he⟩
  · rw [he]
    exact hl
  · rw [he]
    exact List.mem_append_left _ hl

theorem overwrite_of_not_mem {es : List Entry} (h : item.key ∉ es.map (·.1)) :
    Repository.overwrite item es = es := by
  refine (List.map_congr_left fun e he => ?_).trans (List.map_id es)
  have hne : e.1 ≠ item.key := fun hkey => h (hkey ▸ List.mem_map_of_mem he)
  rw [if_neg hne]
  rfl

/-- **A flag that is set in a list** does to the entries what the write of the item does in the
    repository, when the keys differ and the name of the item is the one that the list has. -/
theorem entries_setDone (hnodup : (items.map Item.key).Nodup)
    (hname : ∀ other ∈ items, other.key = item.key → other.name = item.name) :
    (setDone item.key item.done items).map Item.entry = Repository.overwrite item (items.map Item.entry) := by
  induction items with
  | nil => rfl
  | cons other items ih =>
    obtain ⟨hnew, hrest⟩ := List.nodup_cons.mp hnodup
    rw [setDone, List.map_cons]
    by_cases he : other.key = item.key
    · -- the flag is set at the first item with the key; by `hnew` there is no other
      have hentry : ({ other with done := item.done } : Item).entry = item.entry := by
        rw [Item.entry, Item.entry, ← he, ← hname other List.mem_cons_self he]
      have hkeys : item.key ∉ (items.map Item.entry).map (·.1) := by
        rw [List.map_map]
        exact he ▸ hnew
      rw [if_pos he, List.map_cons, hentry]
      show _ = (if other.key = item.key then _ else _) :: Repository.overwrite item (items.map Item.entry)
      rw [if_pos he, overwrite_of_not_mem hkeys]
    · rw [if_neg he, List.map_cons, ih hrest fun o ho => hname o (List.mem_cons_of_mem _ ho)]
      show _ = (if other.key = item.key then _ else _) :: Repository.overwrite item (items.map Item.entry)
      rw [if_neg he]

theorem entries_acknowledge_toggle (hnodup : (list.items.map Item.key).Nodup)
    (hname : ∀ other ∈ list.items, other.key = item.key → other.name = item.name) :
    (list.acknowledge (.toggle item)).entries = Repository.overwrite item list.entries :=
  entries_setDone hnodup hname

end TodoList

end TodoSite
