/-
  A page that carries its model agrees with the server.

  Such a page never fetches, so its list changes by answers only.  What it will show once all the
  answers on their way are in, the list *ahead*, has the entries that the server exports, at every
  moment of every run.

  CRUX (`Agrees.moves`).  Page and server handle a write differently.  The page appends an item or
  leaves the list alone, and sets a flag; the server makes a node or overwrites name and flag.  They
  agree because a new item has a key that the server does not know, and a turned item carries the
  name that the server has for its key.
-/
import TodoSite.Proofs.Exchange.Traces

namespace TodoSite.Exchange

/-- The list that the page shows when the answers on their way have come in, one after the other. -/
def ahead (x : Exchange) : TodoList := x.client.list.acknowledgeAll x.answers

/-- A page that has its model, and a server that agrees with it. -/
structure Agrees (o : Origin) (x : Exchange) : Prop where
  /-- The page has its model. -/
  hydrated : ∃ m, x.client.hydration = .hydrated m
  /-- No fetch is on its way. -/
  fetches : x.fetches = 0
  /-- No outcome of a fetch is on its way. -/
  models : x.models = []
  /-- Nothing has been written without the model. -/
  early : x.history.early = []
  /-- The list ahead is the list on the server. -/
  same : x.ahead.entries = x.server.entries o.path

variable {o : Origin} {x x' : Exchange} {e : Event}

theorem Agrees.keys_ahead (ha : Agrees o x) (h : Sound o x) :
    x.ahead.items.map Item.key = x.storedKeys o.path := by
  rw [← TodoList.keys_entries, ha.same, Repository.keys_entries h.stored.tree]
  rfl

/-- A new item on its way is not on the server, which then has the keys of the start and those of
    the new items that it has taken. -/
theorem Agrees.not_mem_storedKeys (ha : Agrees o x) (h : Sound o x) (hsame : o.shown = o.stored)
    {item : Item} (hw : .add item ∈ x.writes) : item.key ∉ x.storedKeys o.path := by
  have hfresh : item.key ∉ o.storedKeys := by
    refine (h.shown.late item (h.keyed.mem_issued_of_writes hw)).resolve_left ?_
    rw [ha.early]
    exact List.not_mem_nil
  have hkeys : o.shownKeys = o.storedKeys := Origin.shownKeys_eq hsame
  intro hmem
  rcases h.stored.only _ hmem with hmem | hmem | hmem
  · exact hfresh hmem
  · exact hfresh (hkeys ▸ hmem)
  · exact h.keyed.not_mem_taken hw hmem

/-- **A write has one effect on both sides**: what the server exports afterwards is the list ahead
    with the write acknowledged. -/
theorem Agrees.entries_putItem (ha : Agrees o x) (ho : o.Valid) (h : Sound o x)
    (hsame : o.shown = o.stored) {write : PendingWrite} (hw : write ∈ x.writes) :
    (x.ahead.acknowledge write).entries = (x.putItem o.path write.item).entries o.path := by
  have hkeys := ha.keys_ahead h
  have hsegment := h.isSegment ho hw
  -- a new item comes last on both sides, and a turned one stays where it is
  cases write with
  | add item =>
    have hnew := ha.not_mem_storedKeys h hsame hw
    have hafter := h.stored.entries_putItem item hsegment
    rw [if_neg hnew, ← ha.same] at hafter
    rw [TodoList.acknowledge_add_of_not_mem (hkeys ▸ hnew)]
    exact List.map_append.trans hafter.symm
  | toggle item =>
    obtain ⟨hknown, hkey⟩ := h.shown.toggles item hw
    have hstored : o.shownKeys = o.storedKeys := Origin.shownKeys_eq hsame
    have hmem : item.key ∈ x.storedKeys o.path :=
      hkey.elim id fun hshown => h.stored.kept _ (hstored ▸ hshown)
    have hafter := h.stored.entries_putItem item hsegment
    rw [if_pos hmem, ← ha.same] at hafter
    refine (TodoList.entries_acknowledge_toggle ?_ ?_).trans hafter.symm
    · rw [hkeys]
      exact Repository.nodup_childNames h.stored.tree
    · -- the server knows the key of the turned item under the name that it carries
      intro other hother hkey
      have hentry : other.entry ∈ x.server.entries o.path := ha.same ▸ List.mem_map_of_mem hother
      have hlabel : other.label = item.label :=
        h.label_eq ho ha.early hknown (h.stored.entries _ hentry) hkey
      exact congrArg Prod.snd hlabel

theorem Agrees.early_issue (ha : Agrees o x) (write : PendingWrite) : (x.issue write).history.early = [] := by
  show (if x.hasModel then x.history.early else x.history.early ++ [write]) = []
  rw [if_pos (hasModel_eq_true.mpr ha.hydrated), ha.early]

/-- **Every move keeps the agreement.** -/
theorem Agrees.moves (ha : Agrees o x) (ho : o.Valid) (h : Sound o x) (hsame : o.shown = o.stored)
    (hmove : Moves x e x') : Agrees o x' := by
  obtain ⟨m, hm⟩ := ha.hydrated
  cases hmove with
  | idle => exact ha
  | add hname =>
    have hnext : Agrees o (x.mapList fun list => { list with keys := ⟨x.nextNumber + 1⟩ }) :=
      ⟨ha.hydrated, ha.fetches, ha.models, ha.early,
        (congrArg (List.map Item.entry) (TodoList.items_acknowledgeAll_keys _ _ _)).trans ha.same⟩
    exact ⟨ha.hydrated, ha.fetches, ha.models, hnext.early_issue _, hnext.same⟩
  | toggle hitem => exact ⟨ha.hydrated, ha.fetches, ha.models, ha.early_issue _, ha.same⟩
  | @take i write upsert server hwrite hpost =>
    have hw := List.mem_of_getElem? hwrite
    rw [h.post_eq ho hw] at hpost
    rw [← (Prod.mk.inj hpost).2]
    refine ⟨ha.hydrated, ha.fetches, ha.models, ha.early, ?_⟩
    have hahead : (x.accept i write (x.putItem o.path write.item)).ahead = x.ahead.acknowledge write :=
      TodoList.acknowledgeAll_concat _ _ _
    rw [hahead]
    exact ha.entries_putItem ho h hsame hw
  | refuse hwrite hpost =>
    rw [h.post_eq ho (List.mem_of_getElem? hwrite)] at hpost
    cases (Prod.mk.inj hpost).1
  | lose hwrite => exact ⟨ha.hydrated, ha.fetches, ha.models, ha.early, ha.same⟩
  | acknowledge hanswers =>
    refine ⟨ha.hydrated, ha.fetches, ha.models, ha.early, ?_⟩
    have hsame := ha.same
    rw [ahead, hanswers] at hsame
    exact hsame
  | reject => exact ⟨ha.hydrated, ha.fetches, ha.models, ha.early, ha.same⟩
  -- a page with its model does not fetch, so nothing can come back
  | fetch hwaits => rw [hm] at hwaits; cases hwaits
  | answer hfetches => rw [ha.fetches] at hfetches; cases hfetches
  | loseFetch hfetches => rw [ha.fetches] at hfetches; cases hfetches
  | deliver hresult => rw [ha.models] at hresult; cases hresult

/-! ## From the page that the server has sent -/

/-- A page that carries the model of a list, and the server that has sent it. -/
def embedded (resource : String) (m : Model) (r : Repository) : Exchange :=
  { client := .ofModel resource m, server := r }

section Embedded

variable {r : Repository} {resource : String} {m : Model} {p : Path}

theorem list_embedded (ht : r.IsTree) (hentries : m.items.map Item.entry = r.entries p) :
    (embedded resource m r).client.list.items = m.items := by
  have hkeys : m.items.map Item.key = r.childNames (Repository.itemsFolder p) := by
    rw [← Repository.keys_entries ht, ← hentries, List.map_map]
    rfl
  refine TodoList.items_ofItems ?_
  rw [hkeys]
  exact Repository.nodup_childNames ht

theorem labels_eq_of_entries (hentries : m.items.map Item.entry = r.entries p) :
    m.items.map Item.label = (r.entries p).map Entry.label := by
  rw [← hentries, List.map_map]
  rfl

theorem labels_embedded (ht : r.IsTree) (hentries : m.items.map Item.entry = r.entries p) :
    (embedded resource m r).client.list.labels = (r.entries p).map Entry.label := by
  rw [← labels_eq_of_entries hentries, TodoList.labels, list_embedded ht hentries]

theorem valid_embedded (ht : r.IsTree) (hentries : m.items.map Item.entry = r.entries p) :
    ((embedded resource m r).origin p).Valid := by
  have hkeys : ((embedded resource m r).origin p).storedKeys = r.childNames (Repository.itemsFolder p) :=
    storedKeys_origin _ _ ht
  have hsame : ((embedded resource m r).origin p).shownKeys = ((embedded resource m r).origin p).storedKeys :=
    Origin.shownKeys_eq (labels_embedded ht hentries)
  constructor
  case segments =>
    rw [hsame, hkeys]
    exact fun k hk => Repository.isSegment_of_mem_childNames ht hk
  case nodup =>
    rw [hkeys]
    exact Repository.nodup_childNames ht

theorem agrees_embedded (ht : r.IsTree) (hentries : m.items.map Item.entry = r.entries p) :
    Agrees ((embedded resource m r).origin p) (embedded resource m r) where
  hydrated := ⟨m, rfl⟩
  fetches := rfl
  models := rfl
  early := rfl
  same := by
    show (embedded resource m r).client.list.items.map Item.entry = r.entries p
    rw [list_embedded ht hentries, hentries]

/-- **A page that carries its model and its server agree, at every moment of every run**: the server
    takes every write, and the list that the page is about to show is the one that is exported. -/
theorem agreement (hr : Repository.Reachable r) (hm : r.model resource = .ok m) (events : List Event) :
    let x := (embedded resource m r).run events
    (∀ write ∈ x.writes, ∃ upsert, (x.server.post resource write.item).1 = .ok upsert)
      ∧ ∃ exported, x.server.model resource = .ok exported
        ∧ (x.client.list.acknowledgeAll x.answers).items.map Item.entry = exported.items.map Item.entry := by
  intro x
  have ht := hr.isTree
  obtain ⟨p, hp, hstored, hentries⟩ := Repository.model_eq_ok hm
  have ho : ((embedded resource m r).origin p).Valid := valid_embedded ht hentries
  have hsame : ((embedded resource m r).origin p).shown = ((embedded resource m r).origin p).stored :=
    labels_embedded ht hentries
  have hsound : Sound ((embedded resource m r).origin p) (embedded resource m r) := by
    refine sound_start hp ht fun model hmodel => ⟨labels_embedded ht hentries, ?_⟩
    cases hmodel
    exact labels_eq_of_entries hentries
  obtain ⟨h, ha⟩ : Sound _ x ∧ Agrees _ x :=
    run_keeps (P := fun x => Sound ((embedded resource m r).origin p) x ∧ Agrees _ x)
      (fun h hmove => ⟨h.1.moves ho hmove, h.2.moves ho h.1 hsame hmove⟩)
      ⟨hsound, agrees_embedded ht hentries⟩ events
  have hresource : x.client.resource = resource := resource_run (embedded resource m r) events
  constructor
  · intro write hwrite
    have hpost := h.post_eq ho hwrite
    rw [hresource] at hpost
    exact ⟨_, congrArg Prod.fst hpost⟩
  · obtain ⟨exported, hexported, hlast⟩ :=
      Repository.model_isOk hp (contains_run (x := embedded resource m r) hstored events)
    exact ⟨exported, hexported, ha.same.trans hlast.symm⟩

end Embedded

/-- Two new items and a toggle at once; the server takes the second item first, then the toggle, and
    only one answer has come in. -/
theorem agreement_overlapping :
    let r := (({} : Repository).seed "/l" "L" [{ name := "a", key := "1" }]).2
    let m : Model := { title := "L", items := [{ name := "a", key := "1", path := some "/l/items/1" }] }
    let events : List Event :=
      [.add "b", .add " c ", .toggle "1", .take 1, .take 1, .acknowledge, .take 0]
    let x := (embedded "/l" m r).run events
    r.model "/l" = .ok m
      ∧ (x.server.entries (.child .root "l"), x.client.list.entries)
        = ([("1", "a", true), ("item3", "c", false), ("item2", "b", false)],
            [("1", "a", false), ("item3", "c", false)])
      ∧ (∀ write ∈ x.writes, ∃ upsert, (x.server.post "/l" write.item).1 = .ok upsert)
      ∧ ∃ exported, x.server.model "/l" = .ok exported
        ∧ (x.client.list.acknowledgeAll x.answers).items.map Item.entry
          = exported.items.map Item.entry := by
  intro r m events
  have hr : Repository.Reachable r := .seed "/l" "L" [{ name := "a", key := "1" }] .new
  have hm : r.model "/l" = .ok m := by decide +kernel
  exact ⟨hm, by decide +kernel, agreement hr hm events⟩

end TodoSite.Exchange
