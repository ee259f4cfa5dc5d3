/-
  Answers in any order.

  The answers to writes come in as the writes get done, which need not be the order in which they were asked
  for.  If no two of them are about the same key, the order shows in one thing only: in which order the new
  items stand behind the others (`acknowledgeAll_perm`).

  1. **What answers come to** (`items_acknowledgeAll`) — the items that are there keep their places and turn
     their flags (`turnAll`); behind them stand the new ones (`joining`), in the order of their answers.

  2. **Turning two flags** comes to the same in either order where the keys differ (`turn_comm`), so all the
     flags may be turned in any order.

  3. **The same answer once more** changes nothing (`acknowledge_acknowledge`).

  CRUX.  An answer for a key that is not there is ignored if it turns a flag, and makes an item if it is a
  new one.  The two do not meet, because such answers would be about the same key.
-/
import TodoSite.Proofs.TodoList.Run

namespace TodoSite.TodoList

/-! ## What answers come to -/

/-- `items` after an answer, as far as flags go. -/
def turn (items : List Item) : PendingWrite → List Item
  | .add _ => items
  | .toggle item => setDone item.key item.done items

/-- `items` after answers, as far as flags go. -/
def turnAll (items : List Item) (writes : List PendingWrite) : List Item :=
  writes.foldl turn items

/-- The item that an answer adds to a list with the keys `taken`. -/
def joins? (taken : List String) : PendingWrite → Option Item
  | .add item => if item.key ∈ taken then none else some item
  | .toggle _ => none

/-- The items that answers add to a list with the keys `taken`, in their order. -/
def joining (taken : List String) (writes : List PendingWrite) : List Item :=
  writes.filterMap (joins? taken)

variable {list : TodoList} {items : List Item} {key : String} {done : Bool} {write : PendingWrite}
  {writes writes' : List PendingWrite}

/-- **One answer**: a flag is turned, or an item joins. -/
theorem items_acknowledge (list : TodoList) (write : PendingWrite) : (list.acknowledge write).items
    = turn list.items write ++ (joins? (list.items.map Item.key) write).toList := by
  cases write with
  | toggle item => exact (List.append_nil _).symm
  | add item =>
    by_cases hmem : item.key ∈ list.items.map Item.key
    · rw [acknowledge_add_of_mem hmem, joins?, if_pos hmem]
      exact (List.append_nil _).symm
    · rw [acknowledge_add_of_not_mem hmem, joins?, if_neg hmem]
      rfl

theorem setDone_eq_self (h : key ∉ items.map Item.key) : setDone key done items = items := by
  induction items with
  | nil => rfl
  | cons item items ih =>
    obtain ⟨hne, hrest⟩ := not_or.mp (List.mem_cons.not.mp h)
    rw [setDone, if_neg fun he => hne he.symm, ih hrest]

theorem setDone_append {later : List Item} (h : key ∉ later.map Item.key) :
    setDone key done (items ++ later) = setDone key done items ++ later := by
  induction items with
  | nil => exact setDone_eq_self h
  | cons item items ih =>
    rw [List.cons_append, setDone, setDone]
    split
    · rfl
    · rw [ih, List.cons_append]

/-- An answer leaves alone what stands behind, where its key does not. -/
theorem turn_append {later : List Item} (h : write.item.key ∉ later.map Item.key) :
    turn (items ++ later) write = turn items write ++ later := by
  cases write with
  | add item => rfl
  | toggle item => exact setDone_append h

/-- Whether an item joins is a matter of its own key. -/
theorem joins?_append {taken later : List String} (h : write.item.key ∉ later) :
    joins? (taken ++ later) write = joins? taken write := by
  cases write with
  | toggle item => rfl
  | add item =>
    have hlater : item.key ∈ taken ++ later ↔ item.key ∈ taken :=
      List.mem_append.trans ⟨fun hmem => hmem.resolve_right h, Or.inl⟩
    simp only [joins?, hlater]

theorem keys_turn (items : List Item) (write : PendingWrite) :
    (turn items write).map Item.key = items.map Item.key := by
  cases write with
  | add item => rfl
  | toggle item => exact map_setDone (fun _ _ => rfl) _ _ _

/-- Turning flags leaves the keys in their places. -/
theorem keys_turnAll (items : List Item) (writes : List PendingWrite) :
    (turnAll items writes).map Item.key = items.map Item.key := by
  induction writes generalizing items with
  | nil => rfl
  | cons write writes ih => exact (ih (turn items write)).trans (keys_turn items write)

theorem joining_concat (taken : List String) (writes : List PendingWrite) (write : PendingWrite) :
    joining taken (writes ++ [write]) = joining taken writes ++ (joins? taken write).toList := by
  rw [joining, List.filterMap_append]
  refine congrArg (joining taken writes ++ ·) ?_
  cases hjoins : joins? taken write with
  | none => exact List.filterMap_cons_none hjoins
  | some item => exact List.filterMap_cons_some hjoins

/-- What joins comes from an answer about its key. -/
theorem key_mem_of_mem_joining {taken : List String} (h : key ∈ (joining taken writes).map Item.key) :
    key ∈ writes.map (·.item.key) := by
  obtain ⟨item, hitem, rfl⟩ := List.mem_map.mp h
  obtain ⟨write, hwrite, hjoins⟩ := List.mem_filterMap.mp hitem
  refine List.mem_map.mpr ⟨write, hwrite, ?_⟩
  cases write with
  | toggle other => cases hjoins
  | add other =>
    rw [joins?] at hjoins
    split at hjoins
    · cases hjoins
    · rw [← Option.some.inj hjoins]
      rfl

/-- **What answers come to**, if no two of them are about the same key. -/
theorem items_acknowledgeAll (list : TodoList) (hkeys : (writes.map (·.item.key)).Nodup) :
    (list.acknowledgeAll writes).items
      = turnAll list.items writes ++ joining (list.items.map Item.key) writes := by
  induction writes using List.reverseRecOn with
  | nil => exact (List.append_nil _).symm
  | append_singleton writes write ih =>
    rw [List.map_append, List.map_singleton, ← List.concat_eq_append] at hkeys
    obtain ⟨hnew, hrest⟩ := (List.nodup_concat _ _).mp hkeys
    -- no item that has joined has the key of the answer that comes last
    have hjoined : write.item.key ∉ (joining (list.items.map Item.key) writes).map Item.key :=
      fun h => hnew (key_mem_of_mem_joining h)
    have hturn : turnAll list.items (writes ++ [write]) = turn (turnAll list.items writes) write :=
      List.foldl_concat _ _ _ _
    rw [acknowledgeAll_concat, items_acknowledge, ih hrest, List.map_append, keys_turnAll,
      turn_append hjoined, joins?_append hjoined, hturn, joining_concat, List.append_assoc]

theorem keys_acknowledgeAll (list : TodoList) (writes : List PendingWrite) :
    (list.acknowledgeAll writes).keys = list.keys := by
  induction writes using List.reverseRecOn with
  | nil => rfl
  | append_singleton writes write ih => rw [acknowledgeAll_concat, keys_acknowledge, ih]

/-! ## Two answers in either order -/

theorem setDone_comm {key' : String} (hne : key ≠ key') (done done' : Bool) (items : List Item) :
    setDone key' done' (setDone key done items) = setDone key done (setDone key' done' items) := by
  induction items with
  | nil => rfl
  | cons item items ih =>
    by_cases he : item.key = key
    · have he' : item.key ≠ key' := fun h => hne (he.symm.trans h)
      rw [setDone, if_pos he, setDone, if_neg he', setDone, if_neg he', setDone, if_pos he]
    · by_cases he' : item.key = key'
      · rw [setDone, if_neg he, setDone, if_pos he', setDone, if_pos he', setDone, if_neg he]
      · rw [setDone, if_neg he, setDone, if_neg he', setDone, if_neg he', setDone, if_neg he, ih]

theorem turn_comm {write' : PendingWrite} (hne : write.item.key ≠ write'.item.key) (items : List Item) :
    turn (turn items write) write' = turn (turn items write') write := by
  cases write with
  | add item => rfl
  | toggle item =>
    cases write' with
    | add item' => rfl
    | toggle item' => exact setDone_comm hne _ _ items

/-- Flags may be turned in any order. -/
theorem turnAll_perm (hperm : writes.Perm writes') (hkeys : (writes.map (·.item.key)).Nodup)
    (items : List Item) : turnAll items writes = turnAll items writes' := by
  refine hperm.foldl_eq' (fun one hone other hother items => ?_) items
  by_cases he : one.item.key = other.item.key
  · rw [List.inj_on_of_nodup_map hkeys hone hother he]
  · exact turn_comm he items

/-! ## The same answer once more -/

theorem setDone_setDone (key : String) (done : Bool) (items : List Item) :
    setDone key done (setDone key done items) = setDone key done items := by
  induction items with
  | nil => rfl
  | cons item items ih =>
    by_cases he : item.key = key
    · rw [setDone, if_pos he, setDone, if_pos he]
    · rw [setDone, if_neg he, setDone, if_neg he, ih]

/-- **The same answer once more** changes nothing. -/
theorem acknowledge_acknowledge (list : TodoList) (write : PendingWrite) :
    (list.acknowledge write).acknowledge write = list.acknowledge write := by
  cases write with
  | toggle item => exact congrArg (TodoList.mk · list.keys) (setDone_setDone _ _ _)
  | add item =>
    refine acknowledge_add_of_mem ?_
    by_cases hmem : item.key ∈ list.items.map Item.key
    · rw [acknowledge_add_of_mem hmem]
      exact hmem
    · rw [acknowledge_add_of_not_mem hmem]
      exact List.mem_map_of_mem (List.mem_append_right _ (List.mem_singleton.mpr rfl))

/-! ## Answers in any order -/

/-- **Answers in any order.**  No two of them are about the same key.  The items that were there are in the
    end the same, and in the same places; behind them stand those of the new items whose key was not there,
    in the order in which their answers have come in.  An answer that comes in twice changes nothing the
    second time. -/
theorem acknowledgeAll_perm (list : TodoList) (hperm : writes.Perm writes')
    (hkeys : (writes.map (·.item.key)).Nodup) :
    let one := list.acknowledgeAll writes
    let other := list.acknowledgeAll writes'
    one.items.Perm other.items ∧ one.keys = other.keys
      ∧ (∃ stayed, stayed.map Item.key = list.items.map Item.key
        ∧ one.items = stayed ++ joining (list.items.map Item.key) writes
        ∧ other.items = stayed ++ joining (list.items.map Item.key) writes')
      ∧ ∀ write, let answered := (list.update (.acknowledged write)).1
        answered.update (.acknowledged write) = (answered, none) := by
  intro one other
  have hkeys' : (writes'.map (·.item.key)).Nodup := (hperm.map _).nodup_iff.mp hkeys
  have hone : one.items = turnAll list.items writes ++ joining (list.items.map Item.key) writes :=
    items_acknowledgeAll list hkeys
  have hother : other.items = turnAll list.items writes ++ joining (list.items.map Item.key) writes' := by
    rw [turnAll_perm hperm hkeys]
    exact items_acknowledgeAll list hkeys'
  refine ⟨?_, ?_, ⟨turnAll list.items writes, keys_turnAll _ _, hone, hother⟩, fun write => ?_⟩
  · rw [hone, hother]
    exact (hperm.filterMap _).append_left _
  · rw [keys_acknowledgeAll, keys_acknowledgeAll]
  · exact congrArg (·, none) (acknowledge_acknowledge list write)

/-- Two flags turned, of which one is not there, and three new items, of which one is there: the answers in
    the order of the writes and in the opposite one. -/
theorem acknowledgeAll_perm_reversed :
    let add (name key : String) : PendingWrite := .add { name, key }
    let writes : List PendingWrite :=
      [add "Call home" "item4", .toggle { name := "Item 1", done := true, key := "1" }, add "Pay rent" "2",
        .toggle { name := "Gone", key := "item9" }, add "Buy milk" "item5"]
    (writes.map (·.item.key)).Nodup
      ∧ (placeholder.acknowledgeAll writes).items.map Item.key = ["1", "2", "3", "item4", "item5"]
      ∧ (placeholder.acknowledgeAll writes.reverse).items.map Item.key = ["1", "2", "3", "item5", "item4"]
      ∧ (placeholder.acknowledgeAll writes).items.Perm (placeholder.acknowledgeAll writes.reverse).items := by
  intro add writes
  have hkeys : (writes.map (·.item.key)).Nodup := by decide
  have hperm : writes.Perm writes.reverse := (List.reverse_perm writes).symm
  exact ⟨hkeys, by decide +kernel, by decide +kernel, (acknowledgeAll_perm placeholder hperm hkeys).1⟩

end TodoSite.TodoList
