/-
  The list that the server begins with.

  A start goes on wherever the list can be written, which is at every address.  A request is sent on by other
  rules: what lies under the files is a file, and what ends like the address of an export is one.

  1. **The list is there** (`model_of_seeded`) — it has the title and the items that are asked for, and no others.

  2. **Where its page is** (`page_served_iff`) — at its path, but for the paths that these rules send elsewhere.
-/
import TodoSite.Proofs.Path.Canonical
import TodoSite.Proofs.Repository.Seed
import TodoSite.Proofs.Router.Page
import TodoSite.Server.Startup

namespace TodoSite.Server

/-- The items that a list begins with. -/
def Settings.items (settings : Settings) : List Item :=
  if settings.seedPlaceholders then placeholderItems else []

/-- The list that the settings ask for, as it is exported. -/
def Settings.model (settings : Settings) : Model :=
  { title := settings.title, items := settings.items.map (Repository.placed settings.resource) }

namespace Startup

variable {settings : Settings} {r : Repository}

/-! ## The list is there -/

/-- The keys of the placeholders may stand in addresses, and differ. -/
theorem keys_items (settings : Settings) :
    (settings.items.map Item.key).Nodup ∧ ∀ item ∈ settings.items, Path.IsSegment item.key := by
  rw [Settings.items]
  split
  · refine ⟨by decide, ?_⟩
    simp only [placeholderItems, List.forall_mem_cons, Path.IsSegment]
    decide
  · exact ⟨List.nodup_nil, List.forall_mem_nil _⟩

/-- A list is only written at an address. -/
theorem exists_path_of_seeded (h : seeded settings = (.ok (), r)) :
    ∃ p, Path.ofString? settings.resource = some p := by
  cases hp : Path.ofString? settings.resource with
  | some p => exact ⟨p, rfl⟩
  | none =>
    have hrefused : ({} : Repository).upsert settings.resource [(titleProperty, settings.title)]
        = (.error (.invalidPath settings.resource), {}) := by
      rw [Repository.upsert, hp]
    rw [seeded, Repository.seed, hrefused] at h
    cases h

/-- **The list is there** after a start, as the settings ask for it. -/
theorem model_of_seeded (h : seeded settings = (.ok (), r)) : r.model settings.resource = .ok settings.model := by
  obtain ⟨p, hp⟩ := exists_path_of_seeded h
  obtain ⟨hnodup, hkeys⟩ := keys_items settings
  obtain ⟨-, hmodel⟩ := Repository.seed_model_new hp settings.title hnodup hkeys
  have hr : (({} : Repository).seed settings.resource settings.title settings.items).2 = r := congrArg Prod.snd h
  rw [hr] at hmodel
  exact hmodel

/-! ## Where its page is -/

/-- **Where the page of the list is.** -/
theorem page_served_iff (h : seeded settings = (.ok (), r))
    (hchars : ∀ c ∈ settings.resource.toList, Uri.isPathChar c = true) :
    r.model settings.resource = .ok settings.model
      ∧ (settings.resource.utf8ByteSize ≤ Uri.maxBytes →
        Request.make? settings.resource = some { path := settings.resource })
      ∧ ∃ document, Page.render serverFolder ⟨settings.resource, settings.model⟩ = .ok document
        ∧ ((Router.respond r { path := settings.resource }).1 = .html document
          ↔ ¬ NamesFile settings.resource ∧ ¬ Router.propertiesEnding.toList <:+ settings.resource.toList) := by
  have hmodel := model_of_seeded h
  refine ⟨hmodel, fun hsize => ?_, _, render_serverFolder _, ?_⟩
  · have hslash := ((Path.ofString?_isSome_iff settings.resource).mp (exists_path_of_seeded h)).1
    rw [Request.make?_get hslash hchars, if_neg (Nat.not_lt.mpr hsize)]
  · rw [Router.respond_eq_html_iff, Router.read_eq_html_iff]
    constructor
    · rintro ⟨hfile, hjson, -⟩
      exact ⟨hfile, hjson⟩
    · rintro ⟨hfile, hjson⟩
      exact ⟨hfile, hjson, _, hmodel, rfl⟩

/-- A list at the root of the files, which is no file itself. -/
theorem page_served_at_files :
    let settings : Settings := { resource := "/clientlib/", title := "Errands", seedPlaceholders := true }
    ∃ r document, seeded settings = (.ok (), r)
      ∧ Request.make? "/clientlib/" = some { path := "/clientlib/" }
      ∧ Page.render serverFolder ⟨"/clientlib/", { title := "Errands", items :=
          [{ name := "Item 1", key := "1", path := some "/clientlib/items/1" },
            { name := "Item 2", done := true, key := "2", path := some "/clientlib/items/2" },
            { name := "Item 3", key := "3", path := some "/clientlib/items/3" }] }⟩ = .ok document
      ∧ (Router.respond r { path := "/clientlib/" }).1 = .html document := by
  intro settings
  have hp : Path.ofString? settings.resource = some (.child .root "clientlib") := by decide +kernel
  obtain ⟨hnodup, hkeys⟩ := keys_items settings
  obtain ⟨hok, -⟩ := Repository.seed_model_new hp settings.title hnodup hkeys
  have hstart : seeded settings = (.ok (), (seeded settings).2) := Prod.ext hok rfl
  have hlist : settings.model = { title := "Errands", items :=
      [{ name := "Item 1", key := "1", path := some "/clientlib/items/1" },
        { name := "Item 2", done := true, key := "2", path := some "/clientlib/items/2" },
        { name := "Item 3", key := "3", path := some "/clientlib/items/3" }] } := by
    decide +kernel
  have hchars : ∀ c ∈ settings.resource.toList, Uri.isPathChar c = true :=
    List.all_eq_true.mp (by decide)
  obtain ⟨-, hrequest, document, hdocument, hpage⟩ := page_served_iff hstart hchars
  rw [hlist] at hdocument
  exact ⟨_, document, hstart, hrequest (by decide), hdocument, hpage.mpr ⟨by decide, by decide⟩⟩

/-- Whether a list that is called `L` can be written at a path, and its page is not found there. -/
def Unserved (resource : String) : Prop :=
  let start := seeded { resource, title := "L" }
  start.1.toOption = some () ∧ (start.2.model resource).toOption = some { title := "L" }
    ∧ Request.make? resource = some { path := resource }
    ∧ (Router.respond start.2 { path := resource }).1.status = 404

instance : DecidablePred Unserved := fun _ => inferInstanceAs (Decidable (_ ∧ _))

/-- **Where there is no page**: what is asked for is taken for the properties of a node, for an export, or for a
    file. -/
theorem page_not_served : Unserved "/l.json" ∧ Unserved "/l.model.json" ∧ Unserved "/clientlib/l" := by
  decide +kernel

end Startup

end TodoSite.Server
