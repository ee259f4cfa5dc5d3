/-
  What a page shows once its fetch has settled.

  The page fetches its model once and only adds items, under keys that the server did not have.  The
  model is the list as it was at some moment; answers that come in before the model are replaced by it,
  and answers that come in after it are applied to it.

  1. **The server** has what it had, and then the new items in the order in which it took them.

  2. **The page** with its model shows the model, and then the new items whose answers came in after
     the model and that are not in it (`Fetching.page`).

  3. **So one kind of item is missing** (`settled_entries`): a new item is *overtaken* when the server
     took it after it had exported the list, and the page got its answer before the model.

  CRUX.  Answers come in the order in which the server took the writes, and the model holds the writes
  that were taken before it.  All these lists are beginnings of the one list of what has been taken, in
  which no key occurs twice.
-/
import Mathlib.Data.List.Induction
import TodoSite.Proofs.Exchange.Names

namespace TodoSite.Exchange

/-- The writes that the server took after it had exported the list, and whose answers came in before
    the model did. -/
def overtaken (x : Exchange) : List PendingWrite :=
  x.history.beforeModel.filter fun write => write ∉ x.history.inModel

/-- The entries of the items that are written. -/
def writtenEntries (writes : List PendingWrite) : List Entry := writes.map fun write => write.item.entry

/-- The writes whose answers came in after the model, and that are not in it. -/
def applied (h : History) : List PendingWrite :=
  h.acknowledged.filter fun write => write ∉ h.inModel ∧ write ∉ h.beforeModel

/-- An exchange in which a page has begun at most `begun` fetches and asks for new items only; the list
    had the entries `es` at the start. -/
structure Fetching (p : Path) (es : List Entry) (begun : Nat) (x : Exchange) : Prop where
  /-- Only new items are asked for. -/
  adds : ∀ write ∈ x.history.issued, ∃ item, write = .add item
  /-- The server has what it had, and what it has taken. -/
  server : x.server.entries p = es ++ writtenEntries x.history.taken
  /-- Each fetch is on its way, or has come back, or has brought the model. -/
  count : x.fetches + x.models.length + (if x.hasModel then 1 else 0) ≤ begun
  /-- What is in the model has been taken. -/
  inModel : x.history.inModel <+: x.history.taken
  /-- What came in before the model has come in. -/
  beforeModel : x.history.beforeModel <+: x.history.acknowledged
  /-- The model on its way. -/
  models : ∀ m, .ok m ∈ x.models → m.items.map Item.entry = es ++ writtenEntries x.history.inModel
  /-- The page with its model. -/
  page : x.hasModel = true →
    x.client.list.entries = es ++ writtenEntries (x.history.inModel ++ applied x.history)

variable {o : Origin} {x x' : Exchange} {e : Event} {es : List Entry} {n : Nat}

theorem writtenEntries_append (writes more : List PendingWrite) :
    writtenEntries (writes ++ more) = writtenEntries writes ++ writtenEntries more := List.map_append

/-! ## New items are told apart -/

section Distinct

variable {p : Path} (hf : Fetching p es n x) (hk : Keyed x)
include hf hk

/-- A key tells the writes apart that have been taken. -/
theorem eq_of_key_eq {a b : PendingWrite} (ha : a ∈ x.history.taken) (hb : b ∈ x.history.taken)
    (hkey : a.item.key = b.item.key) : a = b := by
  obtain ⟨i, rfl⟩ := hf.adds a (hk.mem_issued_of_taken ha)
  obtain ⟨j, rfl⟩ := hf.adds b (hk.mem_issued_of_taken hb)
  exact congrArg _ (eq_of_nodup_addKeys hk.nodup (hk.mem_issued_of_taken ha) (hk.mem_issued_of_taken hb) hkey)

theorem nodup_taken : x.history.taken.Nodup := by
  have hdistinct := hk.distinct
  rw [addKeys_append] at hdistinct
  have hkeys : (addKeys x.history.taken).Nodup := (List.nodup_append.mp hdistinct).2.1
  have hmap : addKeys x.history.taken = x.history.taken.map fun write => write.item.key := by
    rw [addKeys, ← List.filterMap_eq_map]
    refine List.filterMap_congr fun write hwrite => ?_
    obtain ⟨item, rfl⟩ := hf.adds write (hk.mem_issued_of_taken hwrite)
    rfl
  rw [hmap] at hkeys
  exact hkeys.of_map _

/-- A write whose answer is next has not come in yet. -/
theorem not_mem_acknowledged {write : PendingWrite} {answers : List PendingWrite}
    (hanswers : x.answers = write :: answers) : write ∉ x.history.acknowledged := by
  have hnodup := nodup_taken hf hk
  rw [hk.told, hanswers] at hnodup
  exact fun hmem => (List.nodup_append.mp hnodup).2.2 _ hmem _ List.mem_cons_self rfl

end Distinct

/-! ## The steps that matter -/

section Steps

variable {r : Repository} {title resource : String} {p : Path}

/-- **The server takes a new item**: its entry comes last. -/
theorem entries_take (ht : r.IsTree) (h : Sound ((unsettled title resource r).origin p) x) {item : Item}
    (hw : .add item ∈ x.writes) (hfresh : item.key ∉ r.childNames (Repository.itemsFolder p)) :
    (x.putItem p item).entries p = x.server.entries p ++ [item.entry] := by
  have hnew : item.key ∉ x.storedKeys p := fun hmem => hfresh ((mem_storedKeys_add ht h hw).mp hmem)
  have hafter := h.stored.entries_putItem item (h.isSegment (valid_unsettled ht title resource p) hw)
  exact hafter.trans (if_neg hnew)

theorem mem_applied {w : History} {write : PendingWrite} :
    write ∈ applied w ↔ write ∈ w.acknowledged ∧ write ∉ w.inModel ∧ write ∉ w.beforeModel := by
  rw [applied, List.mem_filter, decide_eq_true_eq]

/-- A page with its model shows a new item that the server has taken just when it is in the model or
    has been applied. -/
theorem key_mem_iff (ht : r.IsTree) (hk : Keyed x) (hf : Fetching p (r.entries p) n x)
    (hmodel : x.hasModel = true) {write : PendingWrite} (hw : write ∈ x.history.taken)
    (hfresh : write.item.key ∉ r.childNames (Repository.itemsFolder p)) :
    write.item.key ∈ x.client.list.items.map Item.key
      ↔ write ∈ x.history.inModel ∨ write ∈ applied x.history := by
  have htaken : ∀ other, other ∈ x.history.inModel ++ applied x.history → other ∈ x.history.taken := by
    intro other hother
    rcases List.mem_append.mp hother with hother | hother
    · exact hf.inModel.subset hother
    · rw [hk.told]
      exact List.mem_append_left _ (mem_applied.mp hother).1
  -- the page shows the old entries, and those of the model and of the answers applied to it
  rw [← TodoList.keys_entries, hf.page hmodel, List.map_append, List.mem_append,
    Repository.keys_entries ht, ← List.mem_append (s := x.history.inModel)]
  constructor
  · intro hmem
    obtain ⟨entry, hentry, hkey⟩ := List.mem_map.mp (hmem.resolve_left hfresh)
    obtain ⟨other, hother, rfl⟩ := List.mem_map.mp hentry
    have he : other = write := eq_of_key_eq hf hk (htaken other hother) hw hkey
    exact he ▸ hother
  · intro hmem
    exact Or.inr (List.mem_map.mpr ⟨write.item.entry, List.mem_map_of_mem hmem, rfl⟩)

/-- **An answer comes in**: the page with its model shows the item that the answer is about, and no
    item twice. -/
theorem page_acknowledge (ht : r.IsTree) (hk : Keyed x) (hf : Fetching p (r.entries p) n x)
    (hfresh : ∀ write ∈ x.history.issued, write.item.key ∉ r.childNames (Repository.itemsFolder p))
    (hmodel : x.hasModel = true) {write : PendingWrite} {answers : List PendingWrite}
    (hanswers : x.answers = write :: answers) :
    (x.client.list.acknowledge write).entries = r.entries p ++ writtenEntries (x.history.inModel
      ++ applied { x.history with acknowledged := x.history.acknowledged ++ [write] }) := by
  have hw : write ∈ x.history.taken := by
    rw [hk.told, hanswers]
    exact List.mem_append_right _ List.mem_cons_self
  have hnew : write ∉ x.history.acknowledged := not_mem_acknowledged hf hk hanswers
  have hnotBefore : write ∉ x.history.beforeModel := fun hmem => hnew (hf.beforeModel.subset hmem)
  have hshown := key_mem_iff ht hk hf hmodel hw (hfresh write (hk.mem_issued_of_taken hw))
  obtain ⟨item, rfl⟩ := hf.adds write (hk.mem_issued_of_taken hw)
  -- the answer counts as applied unless the item is in the model
  have happlied : applied { x.history with acknowledged := x.history.acknowledged ++ [PendingWrite.add item] }
      = applied x.history ++ if PendingWrite.add item ∈ x.history.inModel then [] else [PendingWrite.add item] := by
    show (x.history.acknowledged ++ [PendingWrite.add item]).filter _ = _
    rw [List.filter_append]
    refine congrArg (applied x.history ++ ·) ?_
    by_cases hin : PendingWrite.add item ∈ x.history.inModel
    · rw [if_pos hin]
      exact List.filter_cons_of_neg (by simp [hin])
    · rw [if_neg hin]
      exact List.filter_cons_of_pos (by simp [hin, hnotBefore])
  rw [happlied, ← List.append_assoc, writtenEntries_append, ← List.append_assoc, ← hf.page hmodel]
  by_cases hin : PendingWrite.add item ∈ x.history.inModel
  · have hpresent : item.key ∈ x.client.list.items.map Item.key := hshown.mpr (Or.inl hin)
    rw [if_pos hin, TodoList.acknowledge_add_of_mem hpresent]
    exact (List.append_nil _).symm
  · have habsent : item.key ∉ x.client.list.items.map Item.key := fun hmem =>
      (hshown.mp hmem).elim hin fun hmem => hnew (mem_applied.mp hmem).1
    rw [if_neg hin, TodoList.acknowledge_add_of_not_mem habsent]
    exact List.map_append

/-- **The model comes in**: the page shows the model. -/
theorem page_deliver (h : Sound o x) (hf : Fetching o.path es n x) {m : Model} (hm : .ok m ∈ x.models) :
    (x.client.list.replaceItems m.items).entries = es ++ writtenEntries x.history.inModel := by
  obtain ⟨more, hmore⟩ := hf.inModel
  -- the model is a beginning of what the server has, so its keys differ
  have hkeys : (x.server.entries o.path).map (·.1)
      = m.items.map Item.key ++ (writtenEntries more).map (·.1) := by
    rw [hf.server, ← hmore, writtenEntries_append, ← List.append_assoc, ← hf.models m hm, List.map_append,
      List.map_map]
    rfl
  have hnodup : (m.items.map Item.key).Nodup := by
    have hall := Repository.nodup_childNames (p := Repository.itemsFolder o.path) h.stored.tree
    rw [← Repository.keys_entries h.stored.tree, hkeys] at hall
    exact (List.nodup_append.mp hall).1
  show (TodoList.ofItems m.items).items.map Item.entry = _
  rw [TodoList.items_ofItems hnodup]
  exact hf.models m hm

end Steps

/-! ## Every move -/

section Moves

variable {r : Repository} {title resource : String} {p : Path}

/-- While an outcome of a fetch is on its way, it is the only one, and the page has no model. -/
theorem Fetching.alone (hf : Fetching p es n x) (hn : n ≤ 1) (hmodels : x.models ≠ []) :
    x.fetches = 0 ∧ x.models.length = 1 ∧ x.hasModel = false := by
  have hcount := hf.count
  have hpos := List.length_pos_iff.mpr hmodels
  cases hmodel : x.hasModel with
  | true =>
    rw [hmodel] at hcount
    simp only [if_true] at hcount
    omega
  | false =>
    rw [hmodel] at hcount
    simp only [Bool.false_eq_true, if_false] at hcount
    exact ⟨by omega, by omega, rfl⟩

/-- While a fetch is on its way, nothing has come back, and the page has no model. -/
theorem Fetching.first (hf : Fetching p es n x) (hn : n ≤ 1) {fetches : Nat}
    (hfetches : x.fetches = fetches + 1) : x.models = [] ∧ fetches = 0 ∧ x.hasModel = false := by
  have hcount := hf.count
  cases hmodel : x.hasModel with
  | true =>
    rw [hmodel] at hcount
    simp only [if_true] at hcount
    omega
  | false =>
    rw [hmodel] at hcount
    simp only [Bool.false_eq_true, if_false] at hcount
    exact ⟨List.length_eq_zero_iff.mp (by omega), by omega, rfl⟩

/-- **Every move keeps** what is said of a page that fetches once and asks for new items only. -/
theorem Fetching.moves (ht : r.IsTree) (h : Sound ((unsettled title resource r).origin p) x)
    (hf : Fetching p (r.entries p) n x) (hn : n ≤ 1)
    (hfresh : ∀ write ∈ x.history.issued, write.item.key ∉ r.childNames (Repository.itemsFolder p))
    (htoggle : ∀ key, e ≠ .toggle key) (hmove : Moves x e x') :
    Fetching p (r.entries p) (n + if e = .fetch then 1 else 0) x' := by
  have ho := valid_unsettled ht title resource p
  cases hmove with
  | idle => exact ⟨hf.adds, hf.server, by have := hf.count; omega, hf.inModel, hf.beforeModel, hf.models, hf.page⟩
  | add hname =>
    refine ⟨fun write hwrite => ?_, hf.server, hf.count, hf.inModel, hf.beforeModel, hf.models, hf.page⟩
    rcases List.mem_append.mp hwrite with hwrite | hwrite
    · exact hf.adds write hwrite
    · exact ⟨_, List.mem_singleton.mp hwrite⟩
  | toggle hitem => exact absurd rfl (htoggle _)
  | @take i write upsert server hwrite hpost =>
    have hw := List.mem_of_getElem? hwrite
    have hissued := h.keyed.mem_issued_of_writes hw
    rw [h.post_eq ho hw] at hpost
    rw [← (Prod.mk.inj hpost).2]
    obtain ⟨item, rfl⟩ := hf.adds write hissued
    refine ⟨hf.adds, ?_, hf.count, hf.inModel.trans (List.prefix_append _ _), hf.beforeModel, hf.models, hf.page⟩
    show (x.putItem p item).entries p = r.entries p ++ writtenEntries (x.history.taken ++ [.add item])
    rw [entries_take ht h hw (hfresh _ hissued), hf.server, writtenEntries_append, List.append_assoc]
    rfl
  | refuse hwrite hpost =>
    rw [h.post_eq ho (List.mem_of_getElem? hwrite)] at hpost
    cases (Prod.mk.inj hpost).1
  | lose => exact ⟨hf.adds, hf.server, hf.count, hf.inModel, hf.beforeModel, hf.models, hf.page⟩
  | acknowledge hanswers =>
    exact ⟨hf.adds, hf.server, hf.count, hf.inModel, hf.beforeModel.trans (List.prefix_append _ _), hf.models,
      fun hmodel => page_acknowledge ht h.keyed hf hfresh hmodel hanswers⟩
  | reject => exact ⟨hf.adds, hf.server, hf.count, hf.inModel, hf.beforeModel, hf.models, hf.page⟩
  | fetch hwaits =>
    refine ⟨hf.adds, hf.server, ?_, hf.inModel, hf.beforeModel, hf.models, fun hmodel => by cases hmodel⟩
    have hcount := hf.count
    show x.fetches + 1 + x.models.length + 0 ≤ n + 1
    omega
  | @answer fetches hfetches =>
    obtain ⟨hmodels, hzero, hmodel⟩ := hf.first hn hfetches
    refine ⟨hf.adds, hf.server, ?_, List.prefix_refl _, hf.beforeModel, fun m hm => ?_, fun hm => ?_⟩
    · have hcount := hf.count
      show fetches + (x.models ++ [_]).length + (if x.hasModel then 1 else 0) ≤ n + 0
      rw [List.length_append, List.length_singleton]
      omega
    · have hm : Except.ok m ∈ x.models ++ [x.exported] := hm
      rw [hmodels, List.nil_append] at hm
      exact (h.stored.entries_exported (List.mem_singleton.mp hm).symm).trans hf.server
    · exact absurd (hmodel.symm.trans hm) Bool.false_ne_true
  | @loseFetch error fetches hfetches =>
    refine ⟨hf.adds, hf.server, ?_, hf.inModel, hf.beforeModel, fun m hm => ?_, hf.page⟩
    · have hcount := hf.count
      show fetches + (x.models ++ [_]).length + (if x.hasModel then 1 else 0) ≤ n + 0
      rw [List.length_append, List.length_singleton]
      omega
    · rcases List.mem_append.mp hm with hm | hm
      · exact hf.models m hm
      · cases List.mem_singleton.mp hm
  | @deliver i result hresult =>
    have hmem := List.mem_of_getElem? hresult
    obtain ⟨hfetches, hone, hmodel⟩ := hf.alone hn (List.ne_nil_of_mem hmem)
    obtain ⟨hi, -⟩ := List.getElem?_eq_some_iff.mp hresult
    refine ⟨hf.adds, hf.server, ?_, hf.inModel, List.prefix_refl _,
      fun m hm => hf.models m ((List.eraseIdx_sublist _ _).subset hm), fun hafter => ?_⟩
    · have hcount := hf.count
      show x.fetches + (x.models.eraseIdx i).length + _ ≤ n + 0
      rw [List.length_eraseIdx_of_lt hi]
      split <;> omega
    · -- the page has not had a model before, so it shows the one that has come in
      obtain ⟨m, hm⟩ := hasModel_eq_true.mp hafter
      rcases AppState.finishFetch_cases x.client result with ⟨m', -, hlist, hfrom⟩ | ⟨-, hnone, -⟩
      · rcases hfrom with hbefore | ⟨-, rfl⟩
        · exact absurd (hasModel_eq_true.mpr ⟨m', hbefore⟩) (Bool.eq_false_iff.mp hmodel)
        · have hnothing : applied { x.history with beforeModel := x.history.acknowledged } = [] :=
            List.filter_eq_nil_iff.mpr fun write hwrite => by simp [hwrite]
          show (x.client.finishFetch (.ok m')).list.entries = _ ++ writtenEntries (x.history.inModel ++ _)
          rw [hlist, hnothing, List.append_nil]
          exact page_deliver h hf hmem
      · cases hm.symm.trans hnone

/-- **Along every run** with one fetch and new items only. -/
theorem fetching_run (ht : r.IsTree) (hp : Path.ofString? resource = some p) (title : String)
    (events : List Event) (htoggle : ∀ key, Event.toggle key ∉ events) (hfetch : events.count .fetch ≤ 1)
    (hfresh : ∀ write ∈ ((unsettled title resource r).run events).history.issued,
      write.item.key ∉ r.childNames (Repository.itemsFolder p)) :
    Sound ((unsettled title resource r).origin p) ((unsettled title resource r).run events)
      ∧ Fetching p (r.entries p) (events.count .fetch) ((unsettled title resource r).run events) := by
  have ho := valid_unsettled ht title resource p
  -- the hypotheses about a run hold of its beginnings too, so it is taken apart at its end
  induction events using List.reverseRecOn with
  | nil =>
    refine ⟨sound_unsettled ht hp title, fun write hwrite => absurd hwrite List.not_mem_nil, ?_, Nat.le_refl 0,
      List.prefix_refl _, List.prefix_refl _, fun m hm => absurd hm List.not_mem_nil, fun hm => by cases hm⟩
    exact (List.append_nil _).symm
  | append_singleton events e ih =>
    rw [run_concat] at hfresh ⊢
    have hmove := moves_step ((unsettled title resource r).run events) e
    have hissued := issued_subset_moves hmove
    rw [List.count_append, List.count_singleton] at hfetch ⊢
    obtain ⟨h, hf⟩ := ih (fun key hkey => htoggle key (List.mem_append_left _ hkey)) (by omega)
      fun write hwrite => hfresh write (hissued hwrite)
    have hnext := hf.moves ht h (by omega) (fun write hwrite => hfresh write (hissued hwrite))
      (fun key he => htoggle key (List.mem_append_right _ (List.mem_singleton.mpr he.symm))) hmove
    simp only [beq_iff_eq]
    exact ⟨h.moves ho hmove, hnext⟩

end Moves

/-! ## When all is quiet -/

theorem mem_overtaken {write : PendingWrite} :
    write ∈ x.overtaken ↔ write ∈ x.history.beforeModel ∧ write ∉ x.history.inModel := by
  rw [overtaken, List.mem_filter, decide_eq_true_eq]

section Quiet

variable {p : Path} (hk : Keyed x) (hf : Fetching p es n x)
include hk hf

theorem overtaken_subset_taken : x.overtaken ⊆ x.history.taken := by
  intro write hwrite
  rw [hk.told]
  exact List.mem_append_left _ (hf.beforeModel.subset (mem_overtaken.mp hwrite).1)

/-- An entry tells the writes apart that have been taken. -/
theorem entry_mem_iff {write : PendingWrite} (hw : write ∈ x.history.taken) :
    write.item.entry ∈ writtenEntries x.overtaken ↔ write ∈ x.overtaken := by
  constructor
  · intro hmem
    obtain ⟨other, hother, he⟩ := List.mem_map.mp hmem
    have hsame : other = write :=
      eq_of_key_eq hf hk (overtaken_subset_taken hk hf hother) hw (congrArg Prod.fst he)
    exact hsame ▸ hother
  · exact fun hmem => List.mem_map_of_mem hmem

/-- **What has been taken without what was overtaken** is the model and what was applied to it, once
    all answers have come in. -/
theorem filter_taken (hanswers : x.answers = []) :
    x.history.taken.filter (fun write => write ∉ x.overtaken) = x.history.inModel ++ applied x.history := by
  obtain ⟨rest, hrest⟩ := hf.inModel
  have hnodup := nodup_taken hf hk
  rw [← hrest] at hnodup
  have hdisjoint : ∀ write ∈ rest, write ∉ x.history.inModel := fun write hw hmem =>
    (List.nodup_append.mp hnodup).2.2 _ hmem _ hw rfl
  have hacknowledged : x.history.acknowledged = x.history.inModel ++ rest := by
    rw [hrest, hk.told, hanswers, List.append_nil]
  have hin : x.history.inModel.filter (fun write => write ∉ x.overtaken) = x.history.inModel :=
    List.filter_eq_self.mpr fun write hw => decide_eq_true fun hmem => (mem_overtaken.mp hmem).2 hw
  have hnone : x.history.inModel.filter
      (fun write => write ∉ x.history.inModel ∧ write ∉ x.history.beforeModel) = [] :=
    List.filter_eq_nil_iff.mpr fun write hw => by simp [hw]
  -- of what is not in the model, the overtaken writes are those that came in before it
  have hsame : rest.filter (fun write => write ∉ x.overtaken)
      = rest.filter (fun write => write ∉ x.history.inModel ∧ write ∉ x.history.beforeModel) := by
    refine List.filter_congr fun write hw => decide_eq_decide.mpr ?_
    rw [mem_overtaken]
    have := hdisjoint write hw
    tauto
  rw [applied, hacknowledged, ← hrest, List.filter_append, List.filter_append, hin, hnone, hsame,
    List.nil_append]

/-- The entries on the server without the overtaken ones. -/
theorem filter_entries (hanswers : x.answers = [])
    (hold : ∀ e ∈ es, e ∉ writtenEntries x.overtaken) :
    (x.server.entries p).filter (fun e => e ∉ writtenEntries x.overtaken)
      = es ++ writtenEntries (x.history.inModel ++ applied x.history) := by
  have htaken : (writtenEntries x.history.taken).filter (fun e => e ∉ writtenEntries x.overtaken)
      = writtenEntries (x.history.taken.filter fun write => write ∉ x.overtaken) := by
    show (x.history.taken.map fun write => write.item.entry).filter _ = _
    rw [List.filter_map]
    refine congrArg writtenEntries (List.filter_congr fun write hw => decide_eq_decide.mpr ?_)
    exact not_congr (entry_mem_iff hk hf hw)
  have hes : es.filter (fun e => e ∉ writtenEntries x.overtaken) = es :=
    List.filter_eq_self.mpr fun e he => decide_eq_true (hold e he)
  rw [hf.server, List.filter_append, hes, htaken, filter_taken hk hf hanswers]

end Quiet

/-- **What a page shows once its fetch has settled** and nothing is on its way: the list that the
    server exports without the overtaken items.  Every other new item that was acknowledged is shown
    once. -/
theorem settled_entries {r : Repository} {resource : String} {p : Path} (hr : Repository.Reachable r)
    (hp : Path.ofString? resource = some p) (hstored : r.contains p = true) (title : String)
    (events : List Event) (htoggle : ∀ key, Event.toggle key ∉ events) (hfetch : events.count .fetch ≤ 1)
    (hfresh : ∀ write ∈ ((unsettled title resource r).run events).history.issued,
      write.item.key ∉ r.childNames (Repository.itemsFolder p))
    (hmodel : ((unsettled title resource r).run events).hasModel = true)
    (hquiet : ((unsettled title resource r).run events).Quiet) :
    let x := (unsettled title resource r).run events
    ∃ exported, x.server.model resource = .ok exported
      ∧ x.client.list.entries
        = (exported.items.map Item.entry).filter (fun e => e ∉ writtenEntries x.overtaken)
      ∧ ∀ write ∈ x.history.acknowledged,
        x.client.list.entries.count write.item.entry = if write ∈ x.overtaken then 0 else 1 := by
  intro x
  have ht := hr.isTree
  obtain ⟨h, hf⟩ := fetching_run ht hp title events htoggle hfetch hfresh
  obtain ⟨-, hanswers, -⟩ := hquiet
  have hk : Keyed x := h.keyed
  have htold : x.history.taken = x.history.acknowledged := by rw [hk.told, hanswers, List.append_nil]
  obtain ⟨exported, hexported, hentries⟩ :=
    Repository.model_isOk hp (contains_run (x := unsettled title resource r) hstored events)
  -- no new item has a key of the start, so the old entries stay
  have hold : ∀ e ∈ r.entries p, e ∉ writtenEntries x.overtaken := by
    intro e he hmem
    obtain ⟨write, hwrite, rfl⟩ := List.mem_map.mp hmem
    have hissued := hk.mem_issued_of_taken (overtaken_subset_taken hk hf hwrite)
    exact hfresh write hissued (Repository.eq_entryAt_of_mem ht he).1
  have hpage : x.client.list.entries
      = (x.server.entries p).filter (fun e => e ∉ writtenEntries x.overtaken) :=
    (hf.page hmodel).trans (filter_entries hk hf hanswers hold).symm
  refine ⟨exported, hexported, hentries ▸ hpage, fun write hwrite => ?_⟩
  have htaken : write ∈ x.history.taken := htold ▸ hwrite
  -- each entry is on the server once, and is kept or left out as a whole
  have hnodup : (x.server.entries p).Nodup := by
    have hkeys := Repository.nodup_childNames (p := Repository.itemsFolder p) h.stored.tree
    rw [← Repository.keys_entries h.stored.tree] at hkeys
    exact hkeys.of_map _
  have hmem : write.item.entry ∈ x.server.entries p := by
    rw [hf.server]
    exact List.mem_append_right _ (List.mem_map_of_mem htaken)
  rw [hpage]
  by_cases hlost : write ∈ x.overtaken
  · rw [if_pos hlost]
    refine List.count_eq_zero.mpr fun hmem => ?_
    exact of_decide_eq_true (List.mem_filter.mp hmem).2 ((entry_mem_iff hk hf htaken).mpr hlost)
  · have hkept : write.item.entry ∉ writtenEntries x.overtaken :=
      fun hmem => hlost ((entry_mem_iff hk hf htaken).mp hmem)
    rw [if_neg hlost, List.count_filter (p := fun e => e ∉ writtenEntries x.overtaken) (decide_eq_true hkept)]
    exact List.count_eq_one_of_mem hnodup hmem

/-- The list is exported, a new item is taken and acknowledged, and then the model comes in: the item
    is on the server, and the page does not show it. -/
theorem acknowledged_item_vanishes :
    let r := (({} : Repository).seed "/l" "L" []).2
    let x := (unsettled "T" "/l" r).run
      [.fetch, .answer, .add "mine", .take 0, .acknowledge, .deliver 0]
    x.hasModel = true
      ∧ (x.writes, x.answers, x.refusals, x.fetches, x.models.length) = ([], [], [], 0, 0)
      ∧ x.history.acknowledged = [.add { name := "mine", key := "item4" }]
      ∧ x.server.entries (.child .root "l") = [("item4", "mine", false)]
      ∧ x.client.list.entries = [] := by
  decide +kernel

/-- Of three new items the first is in the model, the second is overtaken by it, and the answer to the
    third comes in last. -/
theorem settled_entries_overtaken :
    let r := (({} : Repository).seed "/l" "L" []).2
    let events : List Event := [.fetch, .add "a", .take 0, .answer, .add "b", .add "c", .take 0, .take 0,
      .acknowledge, .acknowledge, .deliver 0, .acknowledge]
    let x := (unsettled "T" "/l" r).run events
    x.overtaken = [.add { name := "b", key := "item5" }]
      ∧ x.client.list.entries = [("item4", "a", false), ("item6", "c", false)]
      ∧ ∃ exported, x.server.model "/l" = .ok exported
        ∧ x.client.list.entries
          = (exported.items.map Item.entry).filter (fun e => e ∉ writtenEntries x.overtaken)
        ∧ ∀ write ∈ x.history.acknowledged,
          x.client.list.entries.count write.item.entry = if write ∈ x.overtaken then 0 else 1 := by
  intro r events
  have hr : Repository.Reachable r := .seed "/l" "L" [] .new
  have hp : Path.ofString? "/l" = some (.child .root "l") := by decide +kernel
  have htoggle : ∀ key, Event.toggle key ∉ events := fun key hkey => by simp [events] at hkey
  have hfetch : events.count .fetch ≤ 1 := by decide
  -- one evaluation of the run serves for all that is asked of it
  have hrun : (((unsettled "T" "/l" r).run events).overtaken = [.add { name := "b", key := "item5" }]
      ∧ ((unsettled "T" "/l" r).run events).client.list.entries
        = [("item4", "a", false), ("item6", "c", false)])
      ∧ r.contains (.child .root "l") = true
      ∧ (∀ write ∈ ((unsettled "T" "/l" r).run events).history.issued,
        write.item.key ∉ r.childNames (Repository.itemsFolder (.child .root "l")))
      ∧ ((unsettled "T" "/l" r).run events).hasModel = true
      ∧ ((unsettled "T" "/l" r).run events).Quiet := by
    unfold Quiet
    decide +kernel
  obtain ⟨⟨hovertaken, hentries⟩, hstored, hfresh, hmodel, hquiet⟩ := hrun
  exact ⟨hovertaken, hentries,
    settled_entries hr hp hstored "T" events htoggle hfetch hfresh hmodel hquiet⟩

end TodoSite.Exchange
