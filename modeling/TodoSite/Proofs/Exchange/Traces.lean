/-
  Where the keys and names come from that a page and a server deal in.

  An exchange begins with a list that the page shows and a list that the server has.  Nobody but the
  page writes, so every name on the server is one that it had at the start, or one that the page has
  written: in a new item, or before it had its model, when it shows the list it began with (`Known`).

  1. **The server** (`Stored`) has the keys that it had, those of the new items that it has taken, and
     perhaps keys of the list first shown, which a toggle has brought.

  2. **Writes are taken** (`post_eq`): all keys that can be written may stand in an address.

  3. **The page** (`Shown`) shows the list it began with and the new items that were taken until it
     has its model, and afterwards nothing but what the server knows; then it shows all the keys that
     the server had at the start, and so its new keys are none of them.

  CRUX.  Each side learns from the other, so neither invariant is kept alone: the server is written to
  with what the page shows, and the page is told what the server has.
-/
import Mathlib.Data.List.Nodup
import TodoSite.Proofs.Exchange.Keys

namespace TodoSite

/-- Where an exchange begins. -/
structure Origin where
  /-- The path of the list. -/
  path : Path
  /-- The labels of the list that the page shows. -/
  shown : List Label
  /-- The labels of the list that the server has. -/
  stored : List Label

namespace Origin

/-- The keys of the list that the page shows at the start. -/
def shownKeys (o : Origin) : List String := o.shown.map (·.1)

/-- The keys of the list that the server has at the start. -/
def storedKeys (o : Origin) : List String := o.stored.map (·.1)

theorem shownKeys_eq {o : Origin} (h : o.shown = o.stored) : o.shownKeys = o.storedKeys := by
  rw [shownKeys, storedKeys, h]

/-- The keys at the start may stand in an address, and the server has each of its own once. -/
structure Valid (o : Origin) : Prop where
  /-- What is shown may be written. -/
  segments : ∀ k ∈ o.shownKeys, Path.IsSegment k
  /-- What is stored has different keys. -/
  nodup : o.storedKeys.Nodup

/-- The labels that can be on the server, after these writes of the page. -/
inductive Known (o : Origin) (issued early : List PendingWrite) : Label → Prop where
  /-- One of the list that the server had. -/
  | stored {l : Label} (h : l ∈ o.stored) : Known o issued early l
  /-- One that the page has written before it had its model. -/
  | early {write : PendingWrite} (h : write ∈ early) : Known o issued early write.item.label
  /-- That of a new item. -/
  | issued {item : Item} (h : .add item ∈ issued) : Known o issued early item.label

theorem Known.mono {o : Origin} {issued early issued' early' : List PendingWrite} {l : Label}
    (h : Known o issued early l) (hissued : issued ⊆ issued') (hearly : early ⊆ early') :
    Known o issued' early' l := by
  cases h with
  | stored h => exact .stored h
  | early h => exact .early (hearly h)
  | issued h => exact .issued (hissued h)

end Origin

namespace Exchange

/-- The keys of the list at `p` that the server has. -/
def storedKeys (x : Exchange) (p : Path) : List String :=
  x.server.childNames (Repository.itemsFolder p)

/-- The origin of an exchange that begins with `x`. -/
def origin (x : Exchange) (p : Path) : Origin :=
  { path := p, shown := x.client.list.labels, stored := (x.server.entries p).map Entry.label }

/-- A label that the page may write: it is known, and its key has a node or was shown first. -/
def Traces (o : Origin) (x : Exchange) (l : Label) : Prop :=
  o.Known x.history.issued x.history.early l ∧ (l.1 ∈ x.storedKeys o.path ∨ l.1 ∈ o.shownKeys)

/-- Labels that the page may write, with all the keys that the server had at the start. -/
def Carries (o : Origin) (x : Exchange) (labels : List Label) : Prop :=
  (∀ l ∈ labels, Traces o x l) ∧ ∀ k ∈ o.storedKeys, k ∈ labels.map (·.1)

/-- What the server has. -/
structure Stored (o : Origin) (x : Exchange) : Prop where
  /-- The page is bound to the list. -/
  address : Path.ofString? x.client.resource = some o.path
  /-- The server has a tree. -/
  tree : x.server.IsTree
  /-- No key is lost. -/
  kept : ∀ k ∈ o.storedKeys, k ∈ x.storedKeys o.path
  /-- What has been taken is there. -/
  taken : ∀ k ∈ addKeys x.history.taken, k ∈ x.storedKeys o.path
  /-- Nothing else is there. -/
  only : ∀ k ∈ x.storedKeys o.path, k ∈ o.storedKeys ∨ k ∈ o.shownKeys ∨ k ∈ addKeys x.history.taken
  /-- Every name is known. -/
  entries : ∀ e ∈ x.server.entries o.path, o.Known x.history.issued x.history.early e.label

/-- What the page shows and writes, and what it will be told. -/
structure Shown (o : Origin) (x : Exchange) : Prop where
  /-- The list until the page has its model. -/
  before : x.hasModel = false → ∀ l ∈ x.client.list.labels,
    l ∈ o.shown ∨ ∃ item, .add item ∈ x.history.taken ∧ l = item.label
  /-- The list from then on. -/
  after : x.hasModel = true → Carries o x x.client.list.labels
  /-- What is to be turned. -/
  toggles : ∀ item, .toggle item ∈ x.writes → Traces o x item.label
  /-- What comes back from a fetch. -/
  models : ∀ m, .ok m ∈ x.models → Carries o x (m.items.map Item.label)
  /-- What has come back from a fetch. -/
  hydrated : ∀ m, x.client.hydration = .hydrated m → Carries o x (m.items.map Item.label)
  /-- What has been written without the model. -/
  early : ∀ write ∈ x.history.early,
    write.item.label ∈ o.shown ∨ ∃ item, .add item ∈ x.history.issued ∧ write.item.label = item.label
  /-- What has been added with the model. -/
  late : ∀ item, .add item ∈ x.history.issued → .add item ∈ x.history.early ∨ item.key ∉ o.storedKeys

variable {o : Origin} {x x' : Exchange} {e : Event} {l : Label}

theorem Traces.mono (h : Traces o x l) (hissued : x.history.issued ⊆ x'.history.issued)
    (hearly : x.history.early ⊆ x'.history.early) (hstored : x.storedKeys o.path ⊆ x'.storedKeys o.path) :
    Traces o x' l :=
  ⟨h.1.mono hissued hearly, h.2.imp_left fun hmem => hstored hmem⟩

theorem Carries.mono {labels : List Label} (h : Carries o x labels)
    (hissued : x.history.issued ⊆ x'.history.issued) (hearly : x.history.early ⊆ x'.history.early)
    (hstored : x.storedKeys o.path ⊆ x'.storedKeys o.path) : Carries o x' labels :=
  ⟨fun l hl => (h.1 l hl).mono hissued hearly hstored, h.2⟩

/-- What a write on its way brings is known. -/
theorem known_of_mem_writes (hk : Keyed x) (hp : Shown o x) {write : PendingWrite} (hw : write ∈ x.writes) :
    o.Known x.history.issued x.history.early write.item.label := by
  cases write with
  | add item => exact .issued (hk.mem_issued_of_writes hw)
  | toggle item => exact (hp.toggles item hw).1

/-! ## Writes are taken -/

section Taken

variable (hk : Keyed x) (ho : o.Valid) (hs : Stored o x) (hp : Shown o x)
include hk ho hs hp

theorem isSegment_of_mem_writes {write : PendingWrite} (hw : write ∈ x.writes) :
    Path.IsSegment write.item.key := by
  -- a new key is made of a number; a key that is turned has a node, or was shown first
  cases write with
  | add item =>
    obtain ⟨n, -, hn⟩ := hk.numbered _ (mem_addKeys.mpr ⟨item, hk.mem_issued_of_writes hw, rfl⟩)
    show Path.IsSegment item.key
    rw [hn]
    exact KeySequence.isSegment_key n
  | toggle item =>
    rcases (hp.toggles item hw).2 with hkey | hkey
    · exact Repository.isSegment_of_mem_childNames hs.tree hkey
    · exact ho.segments _ hkey

/-- The tree after the server has taken the write of an item of the list at `p`. -/
def putItem (x : Exchange) (p : Path) (item : Item) : Repository :=
  x.server.put ((Repository.itemsFolder p).child item.key) (Repository.itemValues item)

/-- **A write is taken**, and it is reported as new exactly when its key has no node. -/
theorem post_eq {write : PendingWrite} (hw : write ∈ x.writes) :
    x.server.post x.client.resource write.item
      = (.ok (if write.item.key ∈ x.storedKeys o.path then .updated else .created),
        x.putItem o.path write.item) := by
  have hmem : (x.server.contains ((Repository.itemsFolder o.path).child write.item.key) = true)
      ↔ write.item.key ∈ x.storedKeys o.path := (Repository.mem_childNames hs.tree).symm
  rw [Repository.post_eq hs.address (isSegment_of_mem_writes hk ho hs hp hw)]
  simp only [hmem]
  rfl

end Taken

theorem mem_storedKeys_putItem {p : Path} (ht : x.server.IsTree) (item : Item) {k : String} :
    k ∈ (x.putItem p item).childNames (Repository.itemsFolder p) ↔ k ∈ x.storedKeys p ∨ k = item.key := by
  have hafter : (x.putItem p item).childNames (Repository.itemsFolder p)
      = if item.key ∈ x.storedKeys p then x.storedKeys p else x.storedKeys p ++ [item.key] :=
    Repository.childNames_put ht
  rw [hafter]
  split
  · rename_i hmem
    exact ⟨Or.inl, fun h => h.elim id fun he => he ▸ hmem⟩
  · rw [List.mem_append, List.mem_singleton]

theorem Stored.addressable (hs : Stored o x) : o.path.Addressable := Path.ofString?_addressable hs.address

theorem Stored.entries_putItem (hs : Stored o x) (item : Item) (hkey : Path.IsSegment item.key) :
    (x.putItem o.path item).entries o.path
      = if item.key ∈ x.storedKeys o.path then Repository.overwrite item (x.server.entries o.path)
        else x.server.entries o.path ++ [item.entry] :=
  Repository.entries_put hs.tree hs.addressable hkey

/-- The names on the server after a write: those that were there, and that of the write. -/
theorem Stored.mem_entries_putItem (hs : Stored o x) {item : Item} (hkey : Path.IsSegment item.key)
    {e : Entry} (he : e ∈ (x.putItem o.path item).entries o.path) :
    e ∈ x.server.entries o.path ∨ e = item.entry := by
  rw [hs.entries_putItem item hkey] at he
  split at he
  · obtain ⟨before, hbefore, rfl⟩ := List.mem_map.mp he
    split
    · exact Or.inr rfl
    · exact Or.inl hbefore
  · rcases List.mem_append.mp he with he | he
    · exact Or.inl he
    · exact Or.inr (List.mem_singleton.mp he)

/-! ## What the page is told -/

/-- An export is what the server has. -/
theorem Stored.entries_exported (hs : Stored o x) {m : Model} (hm : x.exported = .ok m) :
    m.items.map Item.entry = x.server.entries o.path := by
  obtain ⟨p, hp, -, hentries⟩ := Repository.model_eq_ok (model_of_exported hm)
  rw [hs.address] at hp
  cases Option.some.inj hp
  exact hentries

/-- Items that are exported may be written. -/
theorem Stored.exported (hs : Stored o x) {m : Model} (hm : x.exported = .ok m) :
    Carries o x (m.items.map Item.label) := by
  have hentries := hs.entries_exported hm
  constructor
  · intro l hl
    obtain ⟨item, hitem, rfl⟩ := List.mem_map.mp hl
    have hentry : item.entry ∈ x.server.entries o.path := hentries ▸ List.mem_map_of_mem hitem
    exact ⟨hs.entries _ hentry, Or.inl (Repository.eq_entryAt_of_mem hs.tree hentry).1⟩
  · intro k hk
    -- what is exported is the whole folder, so no key is missing
    have hkeys : (m.items.map Item.label).map (·.1) = x.storedKeys o.path := by
      rw [storedKeys, ← Repository.keys_entries hs.tree, ← hentries, List.map_map, List.map_map]
      rfl
    rw [hkeys]
    exact hs.kept k hk

theorem Carries.replaceItems {items : List Item} (h : Carries o x (items.map Item.label)) (list : TodoList) :
    Carries o x (list.replaceItems items).labels := by
  refine ⟨fun l hl => h.1 l (TodoList.mem_labels_replaceItems hl), fun k hk => ?_⟩
  have hkey : k ∈ items.map Item.key := by
    have hmem := h.2 k hk
    rw [List.map_map] at hmem
    exact hmem
  rw [TodoList.keys_labels]
  exact TodoList.key_mem_firstOfEachKey hkey List.not_mem_nil

/-- A new item whose answer is on its way has a node. -/
theorem traces_of_answers (hk : Keyed x) (hs : Stored o x) {item : Item} (h : .add item ∈ x.answers) :
    Traces o x item.label := by
  have htaken : PendingWrite.add item ∈ x.history.taken := hk.told ▸ List.mem_append_right _ h
  exact ⟨.issued (hk.mem_issued_of_taken htaken), Or.inl (hs.taken _ (mem_addKeys.mpr ⟨item, htaken, rfl⟩))⟩

theorem Carries.acknowledge (hk : Keyed x) (hs : Stored o x) {list : TodoList}
    (h : Carries o x list.labels) {write : PendingWrite} (hw : write ∈ x.answers) :
    Carries o x (list.acknowledge write).labels := by
  refine ⟨fun l hl => ?_, fun k hmem => ?_⟩
  · rcases TodoList.mem_labels_acknowledge hl with hl | ⟨item, rfl, rfl⟩
    · exact h.1 l hl
    · exact traces_of_answers hk hs hw
  · exact List.map_subset _ (TodoList.labels_subset_acknowledge list write) (h.2 k hmem)

/-- The outcome of a fetch is what has been on its way, or what the page had. -/
theorem Shown.finishFetch (hp : Shown o x) {result : Except RemoteError Model} (hresult : result ∈ x.models) :
    (∃ m, (x.client.finishFetch result).hydration = .hydrated m
      ∧ (x.client.finishFetch result).list = x.client.list.replaceItems m.items
      ∧ Carries o x (m.items.map Item.label))
    ∨ (x.hasModel = false ∧ (x.client.finishFetch result).hydration = .unhydrated
      ∧ (x.client.finishFetch result).list = x.client.list) := by
  rcases AppState.finishFetch_cases x.client result with ⟨m, hm, hlist, hfrom⟩ | ⟨hnone, hm, hlist⟩
  · refine Or.inl ⟨m, hm, hlist, ?_⟩
    rcases hfrom with hbefore | ⟨-, rfl⟩
    · exact hp.hydrated m hbefore
    · exact hp.models m hresult
  · refine Or.inr ⟨?_, hm, hlist⟩
    rw [Bool.eq_false_iff]
    intro hmodel
    obtain ⟨m, hm⟩ := hasModel_eq_true.mp hmodel
    exact hnone m hm

/-! ## Every move keeps to what is known -/

theorem early_subset_issue (x : Exchange) (write : PendingWrite) :
    x.history.early ⊆ (x.issue write).history.early := by
  intro w hw
  show w ∈ if x.hasModel then x.history.early else x.history.early ++ [write]
  split
  · exact hw
  · exact List.mem_append_left _ hw

theorem mem_early_issue (write : PendingWrite) (h : x.hasModel = false) :
    write ∈ (x.issue write).history.early := by
  show write ∈ if x.hasModel then x.history.early else x.history.early ++ [write]
  rw [h]
  exact List.mem_append_right _ (List.mem_singleton.mpr rfl)

theorem early_issue_cases {write w : PendingWrite} (h : w ∈ (x.issue write).history.early) :
    w ∈ x.history.early ∨ x.hasModel = false ∧ w = write := by
  have hw : w ∈ if x.hasModel then x.history.early else x.history.early ++ [write] := h
  split at hw
  · exact Or.inl hw
  · rename_i hmodel
    exact (List.mem_append.mp hw).imp_right fun hw =>
      ⟨Bool.eq_false_iff.mpr hmodel, List.mem_singleton.mp hw⟩

/-- A server that nothing has reached has what it had. -/
theorem Stored.of_server (hs : Stored o x) (hserver : x'.server = x.server)
    (hresource : x'.client.resource = x.client.resource) (htaken : x'.history.taken = x.history.taken)
    (hissued : x.history.issued ⊆ x'.history.issued) (hearly : x.history.early ⊆ x'.history.early) :
    Stored o x' := by
  have hkeys : x'.storedKeys o.path = x.storedKeys o.path := by rw [storedKeys, storedKeys, hserver]
  constructor
  case address => rw [hresource]; exact hs.address
  case tree => rw [hserver]; exact hs.tree
  case kept => rw [hkeys]; exact hs.kept
  case taken => rw [hkeys, htaken]; exact hs.taken
  case only => rw [hkeys, htaken]; exact hs.only
  case entries => rw [hserver]; exact fun e he => (hs.entries e he).mono hissued hearly

/-- What a page writes becomes known on the server. -/
theorem Stored.accept (hk : Keyed x) (ho : o.Valid) (hs : Stored o x) (hp : Shown o x) {i : Nat}
    {write : PendingWrite} (hw : write ∈ x.writes) :
    Stored o (x.accept i write (x.putItem o.path write.item)) := by
  have hsegment := isSegment_of_mem_writes hk ho hs hp hw
  have hfolder : ((Repository.itemsFolder o.path).child write.item.key).Addressable :=
    Or.inr ⟨Path.proper_itemsFolder hs.addressable, hsegment⟩
  have hmore : ∀ k ∈ x.storedKeys o.path, k ∈ (x.putItem o.path write.item).childNames _ :=
    fun k hmem => (mem_storedKeys_putItem hs.tree _).mpr (Or.inl hmem)
  have hself : write.item.key ∈ (x.putItem o.path write.item).childNames (Repository.itemsFolder o.path) :=
    (mem_storedKeys_putItem hs.tree _).mpr (Or.inr rfl)
  constructor
  case address => exact hs.address
  case tree => exact hs.tree.put hfolder _
  case kept => exact fun k hmem => hmore k (hs.kept k hmem)
  case entries =>
    intro e he
    rcases hs.mem_entries_putItem hsegment he with he | rfl
    · exact hs.entries e he
    · exact known_of_mem_writes hk hp hw
  case taken =>
    intro k hmem
    have htaken : k ∈ addKeys x.history.taken ∨ k ∈ addKeys [write] :=
      List.mem_append.mp (addKeys_append x.history.taken [write] ▸ hmem)
    rcases htaken with hmem | hmem
    · exact hmore k (hs.taken k hmem)
    · obtain ⟨item, hitem, rfl⟩ := mem_addKeys.mp hmem
      cases List.mem_singleton.mp hitem
      exact hself
  case only =>
    intro k hmem
    show k ∈ _ ∨ k ∈ _ ∨ k ∈ addKeys (x.history.taken ++ [write])
    rw [addKeys_append, List.mem_append]
    have hbefore : k ∈ x.storedKeys o.path →
        k ∈ o.storedKeys ∨ k ∈ o.shownKeys ∨ k ∈ addKeys x.history.taken ∨ k ∈ addKeys [write] :=
      fun hmem => (hs.only k hmem).imp_right fun h => h.imp_right Or.inl
    rcases (mem_storedKeys_putItem hs.tree _).mp hmem with hmem | rfl
    · exact hbefore hmem
    · -- a key without a node is that of a new item, or was shown first
      cases write with
      | add item => exact Or.inr (Or.inr (Or.inr (List.mem_singleton.mpr rfl)))
      | toggle item => exact (hp.toggles item hw).2.elim hbefore fun hkey => Or.inr (Or.inl hkey)

/-- A page that has written keeps showing what it may write. -/
theorem Shown.accept (hs : Stored o x) (hp : Shown o x) {i : Nat} {write : PendingWrite} :
    Shown o (x.accept i write (x.putItem o.path write.item)) := by
  have hmore : x.storedKeys o.path ⊆ (x.putItem o.path write.item).childNames _ :=
    fun k hmem => (mem_storedKeys_putItem hs.tree _).mpr (Or.inl hmem)
  have htraces : ∀ {l}, Traces o x l → Traces o (x.accept i write (x.putItem o.path write.item)) l :=
    fun h => h.mono (List.Subset.refl _) (List.Subset.refl _) hmore
  have hcarries : ∀ {labels}, Carries o x labels →
      Carries o (x.accept i write (x.putItem o.path write.item)) labels :=
    fun h => h.mono (List.Subset.refl _) (List.Subset.refl _) hmore
  constructor
  case before =>
    intro hmodel l hl
    refine (hp.before hmodel l hl).imp_right fun ⟨item, hitem, he⟩ => ⟨item, ?_, he⟩
    exact List.mem_append_left _ hitem
  case after => exact fun hmodel => hcarries (hp.after hmodel)
  case toggles =>
    exact fun item hitem => htraces (hp.toggles item ((List.eraseIdx_sublist _ _).subset hitem))
  case models => exact fun m hm => hcarries (hp.models m hm)
  case hydrated => exact fun m hm => hcarries (hp.hydrated m hm)
  case early => exact hp.early
  case late => exact hp.late

/-- What is asked for on the page is early, or about what the server knows. -/
theorem Shown.issue (hp : Shown o x) {write : PendingWrite}
    (hnew : ∀ item, write = .add item → x.hasModel = true → item.key ∉ o.storedKeys)
    (hturn : ∀ item, write = .toggle item → Traces o (x.issue write) item.label)
    (hshown : x.hasModel = false → ∀ item, write = .toggle item →
      item.label ∈ o.shown ∨ ∃ new, .add new ∈ x.history.issued ∧ item.label = new.label) :
    Shown o (x.issue write) := by
  have hissued : x.history.issued ⊆ (x.issue write).history.issued := List.subset_append_left _ _
  have htraces : ∀ {l}, Traces o x l → Traces o (x.issue write) l :=
    fun h => h.mono hissued (early_subset_issue x write) (List.Subset.refl _)
  have hcarries : ∀ {labels}, Carries o x labels → Carries o (x.issue write) labels :=
    fun h => h.mono hissued (early_subset_issue x write) (List.Subset.refl _)
  have hself : write ∈ (x.issue write).history.issued := List.mem_append_right _ (List.mem_singleton.mpr rfl)
  constructor
  case before => exact hp.before
  case after => exact fun hmodel => hcarries (hp.after hmodel)
  case toggles =>
    intro item hitem
    rcases List.mem_append.mp hitem with hitem | hitem
    · exact htraces (hp.toggles item hitem)
    · exact hturn item (List.mem_singleton.mp hitem).symm
  case models => exact fun m hm => hcarries (hp.models m hm)
  case hydrated => exact fun m hm => hcarries (hp.hydrated m hm)
  case early =>
    intro w hw
    rcases early_issue_cases hw with hw | ⟨hmodel, rfl⟩
    · exact (hp.early w hw).imp_right fun ⟨item, hitem, he⟩ => ⟨item, hissued hitem, he⟩
    · cases w with
      | add item => exact Or.inr ⟨item, hself, rfl⟩
      | toggle item =>
        exact (hshown hmodel item rfl).imp_right fun ⟨new, hnew, he⟩ => ⟨new, hissued hnew, he⟩
  case late =>
    intro item hitem
    rcases List.mem_append.mp hitem with hitem | hitem
    · exact (hp.late item hitem).imp_left fun h => early_subset_issue x write h
    · cases List.mem_singleton.mp hitem
      -- with the model the key is new to the server, and without it the write is early
      by_cases hmodel : x.hasModel = true
      · exact Or.inr (hnew item rfl hmodel)
      · exact Or.inl (mem_early_issue _ (Bool.eq_false_iff.mpr hmodel))

theorem Stored.moves (hk : Keyed x) (ho : o.Valid) (hs : Stored o x) (hp : Shown o x)
    (hmove : Moves x e x') : Stored o x' := by
  cases hmove with
  | take hwrite hpost =>
    have hw := List.mem_of_getElem? hwrite
    rw [post_eq hk ho hs hp hw] at hpost
    rw [← (Prod.mk.inj hpost).2]
    exact hs.accept hk ho hp hw
  | refuse hwrite hpost =>
    rw [post_eq hk ho hs hp (List.mem_of_getElem? hwrite)] at hpost
    cases (Prod.mk.inj hpost).1
  | add hname =>
    exact hs.of_server rfl rfl rfl (List.subset_append_left _ _) (early_subset_issue (x.mapList _) _)
  | toggle hitem =>
    exact hs.of_server rfl rfl rfl (List.subset_append_left _ _) (early_subset_issue x _)
  | deliver hresult =>
    exact hs.of_server rfl (AppState.resource_finishFetch _ _) rfl (List.Subset.refl _) (List.Subset.refl _)
  | _ => exact hs.of_server rfl rfl rfl (List.Subset.refl _) (List.Subset.refl _)

/-- A new key is none of those at the start, once the page shows them all. -/
theorem Shown.key_nextNumber_not_mem (hp : Shown o x) (hmodel : x.hasModel = true) :
    KeySequence.key x.nextNumber ∉ o.storedKeys := by
  intro hmem
  have hshown := (hp.after hmodel).2 _ hmem
  rw [TodoList.keys_labels] at hshown
  exact KeySequence.key_number_not_mem _ _ hshown

/-- What the page may turn is early, or about what the server knows. -/
theorem Shown.toggle (hk : Keyed x) (hs : Stored o x) (hp : Shown o x) {key : String} {item : Item}
    (hitem : x.client.list.get? key = some item) :
    Shown o (x.issue (.toggle { item with done := !item.done })) := by
  have hlabel : item.label ∈ x.client.list.labels := List.mem_map_of_mem (TodoList.get?_eq_some hitem).1
  refine hp.issue (fun other he => by cases he) (fun other he => ?_) fun hmodel other he => ?_
  · cases PendingWrite.toggle.inj he
    -- with the model all that is shown leads back to the server; without it the write is early itself
    by_cases hmodel : x.hasModel = true
    · exact ((hp.after hmodel).1 _ hlabel).mono (List.subset_append_left _ _) (early_subset_issue x _)
        (List.Subset.refl _)
    · have hmodel : x.hasModel = false := Bool.eq_false_iff.mpr hmodel
      refine ⟨.early (mem_early_issue (.toggle { item with done := !item.done }) hmodel), ?_⟩
      rcases hp.before hmodel _ hlabel with hshown | ⟨new, hnew, he⟩
      · exact Or.inr (List.mem_map_of_mem hshown)
      · have hkey : item.key = new.key := congrArg Prod.fst he
        exact Or.inl (hkey ▸ hs.taken _ (mem_addKeys.mpr ⟨new, hnew, rfl⟩))
  · cases PendingWrite.toggle.inj he
    exact (hp.before hmodel _ hlabel).imp_right fun ⟨new, hnew, he⟩ =>
      ⟨new, hk.mem_issued_of_taken hnew, he⟩

theorem Shown.acknowledge (hk : Keyed x) (hs : Stored o x) (hp : Shown o x) {write : PendingWrite}
    {answers : List PendingWrite} (hanswers : x.answers = write :: answers) :
    Shown o { x.mapList (·.acknowledge write) with
      answers
      history := { x.history with acknowledged := x.history.acknowledged ++ [write] } } := by
  have hw : write ∈ x.answers := hanswers ▸ List.mem_cons_self
  refine ⟨fun hmodel l hl => ?_, fun hmodel => (hp.after hmodel).acknowledge hk hs hw, hp.toggles, hp.models,
    hp.hydrated, hp.early, hp.late⟩
  rcases TodoList.mem_labels_acknowledge hl with hl | ⟨item, rfl, rfl⟩
  · exact hp.before hmodel l hl
  · exact Or.inr ⟨item, hk.told ▸ List.mem_append_right _ hw, rfl⟩

theorem Shown.deliver (hp : Shown o x) {i : Nat} {result : Except RemoteError Model}
    (hresult : x.models[i]? = some result) :
    Shown o { x with
      client := x.client.finishFetch result
      models := x.models.eraseIdx i
      history := { x.history with beforeModel := x.history.acknowledged } } := by
  have hmodels : ∀ m, .ok m ∈ x.models.eraseIdx i → Carries o x (m.items.map Item.label) :=
    fun m hm => hp.models m ((List.eraseIdx_sublist _ _).subset hm)
  rcases hp.finishFetch (List.mem_of_getElem? hresult) with ⟨m, hm, hlist, hcarries⟩ | ⟨hnone, hm, hlist⟩
  · refine ⟨fun hmodel => ?_, fun _ => ?_, hp.toggles, hmodels, fun m' hm' => ?_, hp.early, hp.late⟩
    · exact absurd (hasModel_eq_true.mpr ⟨m, hm⟩) (Bool.eq_false_iff.mp hmodel)
    · show Carries o x (x.client.finishFetch result).list.labels
      rw [hlist]
      exact hcarries.replaceItems _
    · have hsame : Hydration.hydrated m' = .hydrated m := hm'.symm.trans hm
      cases hsame
      exact hcarries
  · refine ⟨fun _ => ?_, fun hmodel => ?_, hp.toggles, hmodels, fun m' hm' => ?_, hp.early, hp.late⟩
    · show ∀ l ∈ (x.client.finishFetch result).list.labels, _
      rw [hlist]
      exact hp.before hnone
    · obtain ⟨m', hm'⟩ := hasModel_eq_true.mp hmodel
      cases hm'.symm.trans hm
    · cases hm'.symm.trans hm

theorem Shown.moves (hk : Keyed x) (ho : o.Valid) (hs : Stored o x) (hp : Shown o x)
    (hmove : Moves x e x') : Shown o x' := by
  cases hmove with
  | idle => exact hp
  | add hname =>
    have hnext : Shown o (x.mapList fun list => { list with keys := ⟨x.nextNumber + 1⟩ }) :=
      ⟨hp.before, hp.after, hp.toggles, hp.models, hp.hydrated, hp.early, hp.late⟩
    refine hnext.issue (fun item he hmodel => ?_) (fun item he => by cases he) fun _ item he => by cases he
    cases PendingWrite.add.inj he
    exact hp.key_nextNumber_not_mem hmodel
  | toggle hitem => exact hp.toggle hk hs hitem
  | take hwrite hpost =>
    rw [post_eq hk ho hs hp (List.mem_of_getElem? hwrite)] at hpost
    rw [← (Prod.mk.inj hpost).2]
    exact hp.accept hs
  | refuse hwrite hpost =>
    rw [post_eq hk ho hs hp (List.mem_of_getElem? hwrite)] at hpost
    cases (Prod.mk.inj hpost).1
  | lose hwrite =>
    exact ⟨hp.before, hp.after, fun item hitem => hp.toggles item ((List.eraseIdx_sublist _ _).subset hitem),
      hp.models, hp.hydrated, hp.early, hp.late⟩
  | acknowledge hanswers => exact hp.acknowledge hk hs hanswers
  | reject => exact ⟨hp.before, hp.after, hp.toggles, hp.models, hp.hydrated, hp.early, hp.late⟩
  | fetch hwaits =>
    -- a page that begins to wait has no model
    have hnone : x.hasModel = false := by
      rw [Bool.eq_false_iff]
      intro hmodel
      obtain ⟨m, hm⟩ := hasModel_eq_true.mp hmodel
      rw [hm] at hwaits
      cases hwaits
    exact ⟨fun _ => hp.before hnone, fun hmodel => (by cases hmodel), hp.toggles, hp.models,
      fun m hm => (by cases hm), hp.early, hp.late⟩
  | answer =>
    refine ⟨hp.before, hp.after, hp.toggles, fun m hm => ?_, hp.hydrated, hp.early, hp.late⟩
    rcases List.mem_append.mp hm with hm | hm
    · exact hp.models m hm
    · exact hs.exported (List.mem_singleton.mp hm).symm
  | loseFetch =>
    refine ⟨hp.before, hp.after, hp.toggles, fun m hm => ?_, hp.hydrated, hp.early, hp.late⟩
    rcases List.mem_append.mp hm with hm | hm
    · exact hp.models m hm
    · cases List.mem_singleton.mp hm
  | deliver hresult => exact hp.deliver hresult

/-! ## Along a run -/

/-- All that is known of an exchange that began at `o`. -/
structure Sound (o : Origin) (x : Exchange) : Prop where
  /-- The keys fit. -/
  keyed : Keyed x
  /-- What the server has is known. -/
  stored : Stored o x
  /-- What the page shows is known. -/
  shown : Shown o x

/-- **Every move keeps to what is known.** -/
theorem Sound.moves (ho : o.Valid) (h : Sound o x) (hmove : Moves x e x') : Sound o x' :=
  ⟨h.keyed.moves hmove, h.stored.moves h.keyed ho h.shown hmove, h.shown.moves h.keyed ho h.stored hmove⟩

theorem Sound.post_eq (ho : o.Valid) (h : Sound o x) {write : PendingWrite} (hw : write ∈ x.writes) :
    x.server.post x.client.resource write.item
      = (.ok (if write.item.key ∈ x.storedKeys o.path then .updated else .created),
        x.putItem o.path write.item) :=
  Exchange.post_eq h.keyed ho h.stored h.shown hw

theorem Sound.isSegment (ho : o.Valid) (h : Sound o x) {write : PendingWrite} (hw : write ∈ x.writes) :
    Path.IsSegment write.item.key := isSegment_of_mem_writes h.keyed ho h.stored h.shown hw

/-- **A key has one name**, where the page has written nothing without its model. -/
theorem Sound.label_eq (ho : o.Valid) (h : Sound o x) (hearly : x.history.early = []) {l' : Label}
    (hl : o.Known x.history.issued x.history.early l) (hl' : o.Known x.history.issued x.history.early l')
    (hkey : l'.1 = l.1) : l' = l := by
  rw [hearly] at hl hl'
  -- a new item has a key that the server did not have
  have hnew : ∀ item, .add item ∈ x.history.issued → item.label.1 ∉ o.storedKeys := fun item hitem =>
    (h.shown.late item hitem).resolve_left fun he => by
      rw [hearly] at he
      exact absurd he List.not_mem_nil
  cases hl' with
  | early hw => exact absurd hw List.not_mem_nil
  | stored hb =>
    cases hl with
    | early hw => exact absurd hw List.not_mem_nil
    | stored ha => exact List.inj_on_of_nodup_map ho.nodup hb ha hkey
    | issued hitem =>
      have hmem : l'.1 ∈ o.storedKeys := List.mem_map_of_mem hb
      exact absurd (hkey ▸ hmem) (hnew _ hitem)
  | issued hitem' =>
    cases hl with
    | early hw => exact absurd hw List.not_mem_nil
    | stored ha =>
      have hmem : l.1 ∈ o.storedKeys := List.mem_map_of_mem ha
      exact absurd (hkey ▸ hmem) (hnew _ hitem')
    | issued hitem => rw [eq_of_nodup_addKeys h.keyed.nodup hitem' hitem hkey]

section Start

variable {client : AppState} {server : Repository} {p : Path}

theorem storedKeys_origin (client : AppState) (p : Path) (ht : server.IsTree) :
    (origin { client, server } p).storedKeys = server.childNames (Repository.itemsFolder p) := by
  rw [← Repository.keys_entries ht]
  exact List.map_map

/-- **At the start** everything is known: a page without its model shows what it shows, and a page
    with it shows what the server has. -/
theorem sound_start (haddress : Path.ofString? client.resource = some p) (ht : server.IsTree)
    (hmodel : ∀ m, client.hydration = .hydrated m →
      client.list.labels = (server.entries p).map Entry.label
        ∧ m.items.map Item.label = (server.entries p).map Entry.label) :
    Sound (origin { client, server } p) { client, server } := by
  have hkeys := storedKeys_origin client p ht
  have hcarries : Carries (origin { client, server } p) { client, server } ((server.entries p).map Entry.label) := by
    refine ⟨fun l hl => ⟨.stored hl, Or.inl ?_⟩, fun k hk => hk⟩
    obtain ⟨entry, hentry, rfl⟩ := List.mem_map.mp hl
    exact (Repository.eq_entryAt_of_mem ht hentry).1
  constructor
  case keyed =>
    exact ⟨fun _ hk => absurd hk List.not_mem_nil, List.nodup_nil, fun _ hw => absurd hw List.not_mem_nil,
      List.nodup_nil, rfl⟩
  case stored =>
    refine ⟨haddress, ht, fun k hk => ?_, fun k hk => absurd hk List.not_mem_nil, fun k hk => Or.inl ?_,
      fun e he => .stored (List.mem_map_of_mem he)⟩
    · rw [hkeys] at hk
      exact hk
    · rw [hkeys]
      exact hk
  case shown =>
    refine ⟨fun _ l hl => Or.inl hl, fun hm => ?_, fun item hitem => absurd hitem List.not_mem_nil,
      fun m hm => absurd hm List.not_mem_nil, fun m hm => ?_, fun w hw => absurd hw List.not_mem_nil,
      fun item hitem => absurd hitem List.not_mem_nil⟩
    · obtain ⟨m, hm⟩ := hasModel_eq_true.mp hm
      show Carries _ _ client.list.labels
      rw [(hmodel m hm).1]
      exact hcarries
    · rw [(hmodel m hm).2]
      exact hcarries

end Start

end Exchange

end TodoSite
