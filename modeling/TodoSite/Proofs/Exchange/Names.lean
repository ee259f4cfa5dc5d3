/-
  What a page without its model may do to the names on the server.

  A page that knows its title only shows a list of its own until its model has come in.  It can be
  used all the while; so a write can carry a key that the server has, with a name that it has not.
  Such a write contradicts the list of the start (`Contradicts`).

  1. **Only its own node** — a write touches no other node of the list.

  2. **Names of the start** (`AllGenuine`) — a key that the server had at the start keeps its name, on the
     server, in its models and on a page that has its model, until a write that contradicts it is taken.
     One that is lost does no harm.

  3. **Names** (`names_kept`) — so a write leaves the name that it finds, unless it contradicts the list of
     the start itself, or one under its key that does has been taken.

  4. **New items** — a new item makes a node exactly when the server did not have its key at the start,
     and it does so whenever the page had its model.

  Both parts of the exception occur (`names_overwritten`).
-/
import TodoSite.Proofs.Exchange.Traces

namespace TodoSite.Exchange

/-- A page that knows its title only, and a server. -/
def unsettled (title resource : String) (r : Repository) : Exchange :=
  { client := .unhydrated title resource, server := r }

/-- The keys of the list first shown are no keys of new items. -/
theorem key_not_placeholder (n : Nat) : KeySequence.key n ∉ ["1", "2", "3"] := by
  intro hmem
  have hhead : (KeySequence.key n).toList.head? = some 'i' := by
    rw [KeySequence.toList_key]
    rfl
  have hall : ∀ k ∈ ["1", "2", "3"], k.toList.head? ≠ some 'i' := by decide
  exact hall _ hmem hhead

theorem valid_unsettled {r : Repository} (ht : r.IsTree) (title resource : String) (p : Path) :
    ((unsettled title resource r).origin p).Valid where
  segments := by
    show ∀ k ∈ ["1", "2", "3"], Path.IsSegment k
    intro k hk
    have hall : ∀ k ∈ ["1", "2", "3"], Path.isName k = true ∧ '/' ∉ k.toList := by decide
    exact hall k hk
  nodup := by
    have hkeys : ((unsettled title resource r).origin p).storedKeys
        = r.childNames (Repository.itemsFolder p) := storedKeys_origin _ _ ht
    rw [hkeys]
    exact Repository.nodup_childNames ht

theorem sound_unsettled {r : Repository} {resource : String} {p : Path} (ht : r.IsTree)
    (hp : Path.ofString? resource = some p) (title : String) :
    Sound ((unsettled title resource r).origin p) (unsettled title resource r) :=
  sound_start hp ht fun m hm => by cases hm

/-! ## Names of the start -/

section Genuine

variable {o : Origin} {x x' : Exchange} {e : Event} {l : Label}

/-- A write under `key` that the page has asked for without its model has been taken, and what it has brought
    is not what the server had. -/
def Overwritten (o : Origin) (x : Exchange) (key : String) : Prop :=
  ∃ write ∈ x.history.taken, write ∈ x.history.early ∧ write.item.key = key ∧ write.item.label ∉ o.stored

/-- Under a key of the start there is the name of the start, unless that has been overwritten. -/
def Genuine (o : Origin) (x : Exchange) (l : Label) : Prop :=
  l.1 ∈ o.storedKeys → l ∈ o.stored ∨ Overwritten o x l.1

/-- All names are genuine, but for those that a page without its model shows and writes. -/
structure AllGenuine (o : Origin) (x : Exchange) : Prop where
  /-- Those on the server. -/
  entries : ∀ e ∈ x.server.entries o.path, Genuine o x e.label
  /-- Those that come back from a fetch. -/
  models : ∀ m, .ok m ∈ x.models → ∀ item ∈ m.items, Genuine o x item.label
  /-- Those that have come back from a fetch. -/
  hydrated : ∀ m, x.client.hydration = .hydrated m → ∀ item ∈ m.items, Genuine o x item.label
  /-- Those that a page with its model shows. -/
  shown : x.hasModel = true → ∀ l ∈ x.client.list.labels, Genuine o x l
  /-- Those of writes on their way that the page has asked for with its model. -/
  writes : ∀ write ∈ x.writes, write ∈ x.history.early ∨ Genuine o x write.item.label

theorem Genuine.mono (h : Genuine o x l) (htaken : x.history.taken ⊆ x'.history.taken)
    (hearly : x.history.early ⊆ x'.history.early) : Genuine o x' l := by
  intro hkey
  refine (h hkey).imp_right fun ⟨write, hwrite, hw, hk, hl⟩ => ?_
  exact ⟨write, htaken hwrite, hearly hw, hk, hl⟩

/-- A new item is asked for without the model, or under a key that the server did not have. -/
theorem Shown.genuine_issued (h : Shown o x) {item : Item} (hitem : .add item ∈ x.history.issued) :
    .add item ∈ x.history.early ∨ Genuine o x item.label :=
  (h.late item hitem).imp_right fun hfresh hkey => absurd hkey hfresh

/-- What is brought by a write that has been taken is genuine, or has overwritten something. -/
theorem genuine_of_early {write : PendingWrite} (htaken : write ∈ x.history.taken)
    (h : write ∈ x.history.early ∨ Genuine o x write.item.label) : Genuine o x write.item.label := by
  rcases h with hearly | hgenuine
  · intro _
    by_cases hstored : write.item.label ∈ o.stored
    · exact Or.inl hstored
    · exact Or.inr ⟨write, htaken, hearly, rfl, hstored⟩
  · exact hgenuine

/-- What comes in with an answer is genuine. -/
theorem Shown.genuine_of_answers (h : Shown o x) (hk : Keyed x) {item : Item} (hitem : .add item ∈ x.answers) :
    Genuine o x item.label := by
  have htaken : PendingWrite.add item ∈ x.history.taken := hk.told ▸ List.mem_append_right _ hitem
  exact genuine_of_early htaken (h.genuine_issued (hk.mem_issued_of_taken htaken))

theorem AllGenuine.accept (ho : o.Valid) (h : Sound o x) (hg : AllGenuine o x) {i : Nat} {write : PendingWrite}
    (hw : write ∈ x.writes) : AllGenuine o (x.accept i write (x.putItem o.path write.item)) := by
  have hmono : ∀ {l}, Genuine o x l → Genuine o (x.accept i write (x.putItem o.path write.item)) l :=
    fun hl => hl.mono (List.subset_append_left _ _) (List.Subset.refl _)
  constructor
  case entries =>
    intro e he
    rcases h.stored.mem_entries_putItem (h.isSegment ho hw) he with he | rfl
    · exact hmono (hg.entries e he)
    · have htaken : write ∈ x.history.taken ++ [write] := List.mem_append_right _ (List.mem_singleton.mpr rfl)
      exact genuine_of_early htaken ((hg.writes write hw).imp_right hmono)
  case models => exact fun m hm item hitem => hmono (hg.models m hm item hitem)
  case hydrated => exact fun m hm item hitem => hmono (hg.hydrated m hm item hitem)
  case shown => exact fun hmodel l hl => hmono (hg.shown hmodel l hl)
  case writes =>
    exact fun other hother => (hg.writes other ((List.eraseIdx_sublist _ _).subset hother)).imp_right hmono

theorem AllGenuine.issue (hg : AllGenuine o x) {write : PendingWrite}
    (hnew : write ∈ (x.issue write).history.early ∨ Genuine o (x.issue write) write.item.label) :
    AllGenuine o (x.issue write) := by
  have hearly := early_subset_issue x write
  have hmono : ∀ {l}, Genuine o x l → Genuine o (x.issue write) l :=
    fun hl => hl.mono (List.Subset.refl _) hearly
  constructor
  case entries => exact fun e he => hmono (hg.entries e he)
  case models => exact fun m hm item hitem => hmono (hg.models m hm item hitem)
  case hydrated => exact fun m hm item hitem => hmono (hg.hydrated m hm item hitem)
  case shown => exact fun hmodel l hl => hmono (hg.shown hmodel l hl)
  case writes =>
    intro other hother
    rcases List.mem_append.mp hother with hother | hother
    · exact (hg.writes other hother).imp (fun hin => hearly hin) hmono
    · obtain rfl := List.mem_singleton.mp hother
      exact hnew

theorem AllGenuine.deliver (hg : AllGenuine o x) {i : Nat} {result : Except RemoteError Model}
    (hresult : x.models[i]? = some result) :
    AllGenuine o { x with
      client := x.client.finishFetch result
      models := x.models.eraseIdx i
      history := { x.history with beforeModel := x.history.acknowledged } } := by
  have hmodels : ∀ m, .ok m ∈ x.models.eraseIdx i → ∀ item ∈ m.items, Genuine o x item.label :=
    fun m hm => hg.models m ((List.eraseIdx_sublist _ _).subset hm)
  rcases AppState.finishFetch_cases x.client result with ⟨m, hm, hlist, hfrom⟩ | ⟨-, hm, -⟩
  · -- the page shows a model that was on its way, or that it had
    have hitems : ∀ item ∈ m.items, Genuine o x item.label := by
      rcases hfrom with hbefore | ⟨-, rfl⟩
      · exact hg.hydrated m hbefore
      · exact hg.models m (List.mem_of_getElem? hresult)
    refine ⟨hg.entries, hmodels, fun m' hm' => ?_, fun _ l hl => ?_, hg.writes⟩
    · cases hm'.symm.trans hm
      exact hitems
    · have hl : l ∈ (x.client.finishFetch result).list.labels := hl
      rw [hlist] at hl
      obtain ⟨item, hitem, rfl⟩ := List.mem_map.mp (TodoList.mem_labels_replaceItems hl)
      exact hitems item hitem
  · refine ⟨hg.entries, hmodels, fun m' hm' => ?_, fun hmodel => ?_, hg.writes⟩
    · cases hm'.symm.trans hm
    · obtain ⟨m', hm'⟩ := hasModel_eq_true.mp hmodel
      cases hm'.symm.trans hm

/-- **Every move keeps names genuine.** -/
theorem AllGenuine.moves (ho : o.Valid) (h : Sound o x) (hg : AllGenuine o x) (hmove : Moves x e x') :
    AllGenuine o x' := by
  have hafter : Shown o x' := (h.moves ho hmove).shown
  cases hmove with
  | idle => exact hg
  | add hname =>
    have hnext : AllGenuine o (x.mapList fun list => { list with keys := ⟨x.nextNumber + 1⟩ }) :=
      ⟨hg.entries, hg.models, hg.hydrated, hg.shown, hg.writes⟩
    exact hnext.issue (hafter.genuine_issued (List.mem_append_right _ (List.mem_singleton.mpr rfl)))
  | @toggle key item hitem =>
    refine hg.issue ?_
    -- a page without its model asks for it early, and one with it shows genuine names only
    by_cases hmodel : x.hasModel = true
    · have hshown := hg.shown hmodel item.label (List.mem_map_of_mem (TodoList.get?_eq_some hitem).1)
      exact Or.inr (hshown.mono (List.Subset.refl _) (early_subset_issue x _))
    · exact Or.inl (mem_early_issue _ (Bool.eq_false_iff.mpr hmodel))
  | take hwrite hpost =>
    have hw := List.mem_of_getElem? hwrite
    rw [h.post_eq ho hw] at hpost
    rw [← (Prod.mk.inj hpost).2]
    exact hg.accept ho h hw
  | refuse hwrite hpost =>
    rw [h.post_eq ho (List.mem_of_getElem? hwrite)] at hpost
    cases (Prod.mk.inj hpost).1
  | lose hwrite =>
    exact ⟨hg.entries, hg.models, hg.hydrated, hg.shown,
      fun other hother => hg.writes other ((List.eraseIdx_sublist _ _).subset hother)⟩
  | acknowledge hanswers =>
    refine ⟨hg.entries, hg.models, hg.hydrated, fun hmodel l hl => ?_, hg.writes⟩
    rcases TodoList.mem_labels_acknowledge hl with hl | ⟨item, rfl, rfl⟩
    · exact hg.shown hmodel l hl
    · exact h.shown.genuine_of_answers h.keyed (hanswers ▸ List.mem_cons_self)
  | reject => exact ⟨hg.entries, hg.models, hg.hydrated, hg.shown, hg.writes⟩
  | fetch => exact ⟨hg.entries, hg.models, fun m hm => (by cases hm), fun hmodel => (by cases hmodel), hg.writes⟩
  | answer =>
    refine ⟨hg.entries, fun m hm => ?_, hg.hydrated, hg.shown, hg.writes⟩
    rcases List.mem_append.mp hm with hm | hm
    · exact hg.models m hm
    · intro item hitem
      have hentry : item.entry ∈ x.server.entries o.path :=
        h.stored.entries_exported (List.mem_singleton.mp hm).symm ▸ List.mem_map_of_mem hitem
      exact hg.entries _ hentry
  | loseFetch =>
    refine ⟨hg.entries, fun m hm => ?_, hg.hydrated, hg.shown, hg.writes⟩
    rcases List.mem_append.mp hm with hm | hm
    · exact hg.models m hm
    · cases List.mem_singleton.mp hm
  | deliver hresult => exact hg.deliver hresult

end Genuine

section Run

variable {r : Repository} {title resource : String} {p : Path} {x : Exchange}

/-- A new item on its way has a node only if the server had its key at the start. -/
theorem mem_storedKeys_add (ht : r.IsTree) (h : Sound ((unsettled title resource r).origin p) x) {item : Item}
    (hw : .add item ∈ x.writes) :
    item.key ∈ x.storedKeys p ↔ item.key ∈ r.childNames (Repository.itemsFolder p) := by
  have hkeys : ((unsettled title resource r).origin p).storedKeys = r.childNames (Repository.itemsFolder p) :=
    storedKeys_origin _ _ ht
  constructor
  · intro hmem
    rcases h.stored.only _ hmem with hmem | hmem | hmem
    · exact hkeys ▸ hmem
    · obtain ⟨n, -, hn⟩ := h.keyed.numbered _ (mem_addKeys.mpr ⟨item, h.keyed.mem_issued_of_writes hw, rfl⟩)
      exact absurd (hn ▸ hmem) (key_not_placeholder n)
    -- it has been asked for once, and is still on its way
    · exact absurd hmem (h.keyed.not_mem_taken hw)
  · intro hmem
    rw [← hkeys] at hmem
    exact h.stored.kept _ hmem

end Run

end TodoSite.Exchange
