/-
  The text of a model.

  1. **Its strings** (`Model.texts`) — what a person has put into a model.  Of the strings in its text
     the others are names of members (`exists_text_iff`).

  2. **Round trip** — two texts carry a model: the one in which it is exported, and the one that stands
     in a page, where every `</` is written `<\/`.  They differ only in how their strings are spelled;
     so one proof, for any spelling `q`, reads both back (`Model.read_write`).

  3. **A client** reads the one text where it fetches a model, and the other where it starts in a page;
     both give the model that was meant (`Model.comes_back`).

  CRUX.  An item without a path has no member for it.  The first three members are the same in both
  cases (`members_item`), and what follows them decides.
-/
import TodoSite.Client
import TodoSite.Model.Json
import TodoSite.Model.Reader
import TodoSite.Proofs.Json.Record
import TodoSite.Proofs.Markup.Script

namespace TodoSite

open Json Json.Reader

/-! ## Strings -/

/-- The strings of an item that are not fixed. -/
def Item.texts (item : Item) : List String :=
  item.name :: item.key :: item.path.toList

/-- The strings of a model that are not fixed: the title, and the names, keys and paths. -/
def Model.texts (model : Model) : List String :=
  model.title :: model.items.flatMap Item.texts

/-- The names of the members of models and items. -/
def memberNames : List String := ["title", "items", "name", "done", "itemKey", "path"]

/-- The strings of an item as JSON. -/
theorem Item.text_mem_tokens (item : Item) (s : String) :
    Token.text s ∈ tokens item.toJson
      ↔ s ∈ item.texts ∨ s ∈ ["name", "done", "itemKey"] ∨ s = "path" ∧ item.path.isSome = true := by
  obtain ⟨name, done, key, path⟩ := item
  cases path with
  | none =>
    have hmembers : Token.text s ∈ tokens (Item.toJson { name, done, key })
        ↔ s = "name" ∨ s = name ∨ s = "done" ∨ s = "itemKey" ∨ s = key := by
      rw [Item.toJson, text_mem_object]
      simp [tokens, or_assoc]
    rw [hmembers]
    grind [Item.texts]
  | some path =>
    have hmembers : Token.text s ∈ tokens (Item.toJson { name, done, key, path })
        ↔ s = "name" ∨ s = name ∨ s = "done" ∨ s = "itemKey" ∨ s = key ∨ s = "path" ∨ s = path := by
      rw [Item.toJson, text_mem_object]
      simp [tokens, or_assoc]
    rw [hmembers]
    grind [Item.texts]

/-- The strings of a model as JSON. -/
theorem Model.text_mem_tokens (model : Model) (s : String) :
    Token.text s ∈ tokens model.toJson
      ↔ s = model.title ∨ s ∈ ["title", "items"]
        ∨ ∃ item ∈ model.items, Token.text s ∈ tokens item.toJson := by
  have hitems : Token.text s ∈ tokens (.array (model.items.map Item.toJson))
      ↔ ∃ item ∈ model.items, Token.text s ∈ tokens item.toJson := by
    rw [text_mem_array]
    constructor
    · rintro ⟨v, hv, hs⟩
      obtain ⟨item, hitem, rfl⟩ := List.mem_map.mp hv
      exact ⟨item, hitem, hs⟩
    · rintro ⟨item, hitem, hs⟩
      exact ⟨_, List.mem_map_of_mem hitem, hs⟩
  rw [← hitems]
  have hmembers : Token.text s ∈ tokens model.toJson
      ↔ s = "title" ∨ s = model.title ∨ s = "items"
        ∨ Token.text s ∈ tokens (.array (model.items.map Item.toJson)) := by
    rw [Model.toJson, text_mem_object]
    simp [text_mem_text, or_assoc]
  rw [hmembers]
  grind

/-- **Only what a person has put in** can have what no name of a member has. -/
theorem Model.exists_text_iff (model : Model) {P : String → Prop}
    (hnames : ∀ s ∈ memberNames, ¬ P s) :
    (∃ s, Token.text s ∈ tokens model.toJson ∧ P s) ↔ ∃ s ∈ model.texts, P s := by
  have hmodel : ["title", "items"] ⊆ memberNames := by decide
  have hfields : ["name", "done", "itemKey"] ⊆ memberNames := by decide
  have hpath : "path" ∈ memberNames := by decide
  constructor
  · rintro ⟨s, hs, hP⟩
    rcases (model.text_mem_tokens s).mp hs with rfl | hs | ⟨item, hmem, hs⟩
    · exact ⟨_, List.mem_cons_self, hP⟩
    · exact absurd hP (hnames s (hmodel hs))
    · rcases (item.text_mem_tokens s).mp hs with hs | hs | hs
      · exact ⟨s, List.mem_cons_of_mem _ (List.mem_flatMap.mpr ⟨item, hmem, hs⟩), hP⟩
      · exact absurd hP (hnames s (hfields hs))
      · exact absurd hP (hnames s (hs.1 ▸ hpath))
  · rintro ⟨s, hs, hP⟩
    refine ⟨s, (model.text_mem_tokens s).mpr ?_, hP⟩
    rcases List.mem_cons.mp hs with rfl | hs
    · exact Or.inl rfl
    · obtain ⟨item, hitem, hs⟩ := List.mem_flatMap.mp hs
      exact Or.inr (Or.inr ⟨item, hitem, (item.text_mem_tokens s).mpr (Or.inl hs)⟩)

section Spelling

variable {q : List Char → List Char} (hq : ∀ s, Spells (q s) s)

/-! ## Items -/

/-- The members of an item, but for the path. -/
def itemText (q : List Char → List Char) (item : Item) (more : List Char) : List Char :=
  Token.write q (.text "name") ++ ':' :: (Token.write q (.text item.name)
    ++ ',' :: (Token.write q (.text "done") ++ ':'
      :: ((if item.done then "true".toList else "false".toList)
        ++ ',' :: (Token.write q (.text "itemKey") ++ ':'
          :: (Token.write q (.text item.key) ++ more)))))

/-- The member with the path, if there is one. -/
def pathText (q : List Char → List Char) : Option String → List Char → List Char
  | none, more => more
  | some path, more =>
    ',' :: (Token.write q (.text "path") ++ ':' :: (Token.write q (.text path) ++ more))

/-- The members of a model, and the brace behind them. -/
def modelText (q : List Char → List Char) (model : Model) (rest : List Char) : List Char :=
  Token.write q (.text "title") ++ ':' :: (Token.write q (.text model.title)
    ++ ',' :: (Token.write q (.text "items") ++ ':' :: '['
      :: (write q (separated (model.items.map fun item => tokens item.toJson))
        ++ ']' :: '\x7d' :: rest)))

theorem write_item (item : Item) (rest : List Char) :
    write q (tokens item.toJson) ++ rest
      = '\x7b' :: itemText q item (pathText q item.path ('\x7d' :: rest)) := by
  obtain ⟨name, done, key, path⟩ := item
  cases path with
  | none =>
    simp only [Item.toJson, tokens, memberTokens, separated, write_cons, Token.write.eq_1,
      List.cons_append, List.append_assoc, List.nil_append, List.append_nil]
    rfl
  | some path =>
    simp only [Item.toJson, tokens, memberTokens, separated, write_cons, Token.write.eq_1,
      List.cons_append, List.append_assoc, List.nil_append]
    rfl

theorem length_itemText (item : Item) (more : List Char) :
    more.length + 4 ≤ (itemText q item more).length := by
  simp only [itemText, List.length_append, List.length_cons]
  omega

include hq

/-- All members but the path; two more steps are left at least. -/
theorem members_item (item : Item) (more : List Char) :
    ∃ fuel, members ItemFields.record {} (itemText q item more)
      = membersFrom ItemFields.record (fuel + 2) false
          { name := some item.name, done := some item.done, key := some item.key } more := by
  have hlength := length_itemText (q := q) item more
  have hsteps : (itemText q item more).length + 1 = (itemText q item more).length - 4 + 2 + 3 := by
    omega
  refine ⟨(itemText q item more).length - 4, ?_⟩
  rw [members, hsteps, itemText, membersFrom_member (name?_first hq _ _) rfl rfl (text_write hq _ _),
    membersFrom_member (name?_next hq _ _) rfl rfl (boolean_write _ _),
    membersFrom_member (name?_next hq _ _) rfl rfl (text_write hq _ _)]

/-- **An item** is read back. -/
theorem Item.read_write (item : Item) (rest : List Char) :
    Item.read (write q (tokens item.toJson) ++ rest) = .ok (item, rest) := by
  rw [write_item]
  show readObject _ = _
  obtain ⟨fuel, hmembers⟩ := members_item hq item (pathText q item.path ('\x7d' :: rest))
  rw [readObject, hmembers]
  obtain ⟨name, done, key, path⟩ := item
  cases path with
  | none => rfl
  | some path =>
    rw [pathText, membersFrom_member (name?_next hq _ _) rfl rfl (text?_write hq _ _)]
    rfl

/-! ## Models -/

omit hq in
theorem elementTokens_map (items : List Item) :
    elementTokens (items.map Item.toJson) = items.map fun item => tokens item.toJson := by
  induction items with
  | nil => rfl
  | cons item items ih => rw [List.map_cons, elementTokens, ih, List.map_cons]

omit hq in
theorem write_model (model : Model) (rest : List Char) :
    write q (tokens model.toJson) ++ rest = '\x7b' :: modelText q model rest := by
  simp only [Model.toJson, tokens, memberTokens, separated, write_cons, write_append,
    elementTokens_map, Token.write.eq_1, List.cons_append, List.append_assoc, List.nil_append]
  rfl

/-- The items of a model are read back. -/
theorem items_write (items : List Item) (rest : List Char) :
    list Item.read ('[' :: (write q (separated (items.map fun item => tokens item.toJson))
      ++ ']' :: rest)) = .ok (items, rest) :=
  list_write (Item.read_write hq)
    (fun item => ⟨_, (List.append_nil _).symm.trans (write_item item [])⟩) items rest

theorem members_model (model : Model) (rest : List Char) :
    members ModelFields.record {} (modelText q model rest)
      = .ok ({ title := some model.title, items := some model.items }, rest) := by
  have hlength : 2 ≤ (modelText q model rest).length := by
    simp only [modelText, List.length_append, List.length_cons]
    omega
  have hsteps : (modelText q model rest).length + 1
      = (modelText q model rest).length - 2 + 1 + 2 := by
    omega
  rw [members, hsteps, modelText,
    membersFrom_member (name?_first hq _ _) rfl rfl (text_write hq _ _),
    membersFrom_member (name?_next hq _ _) rfl rfl (items_write hq _ _)]
  rfl

/-- **A model** is read back from every text that spells its strings. -/
theorem Model.read_write (model : Model) :
    Model.read (String.ofList (write q (tokens model.toJson))) = .ok model := by
  have hvalue : readValue (write q (tokens model.toJson)) = .ok (model, []) := by
    rw [← List.append_nil (write q (tokens model.toJson)), write_model]
    show readObject _ = _
    rw [readObject, members_model hq]
    rfl
  rw [Model.read, String.toList_ofList, hvalue]
  rfl

end Spelling

/-- **What is exported** is read back. -/
theorem Model.read_render (model : Model) : Model.read model.render = .ok model := by
  rw [← String.ofList_toList (s := model.render), Model.render, toList_render]
  exact Model.read_write spells_quoteChar model

/-- **What a page carries** is its model. -/
theorem Model.read_scriptText (model : Model) :
    Model.read (Markup.scriptText model.toJson) = .ok model := by
  rw [← String.ofList_toList (s := Markup.scriptText model.toJson), Markup.toList_scriptText]
  exact Model.read_write Markup.spells_embedded model

/-! ## What a client reads -/

theorem Client.readModel_render (model : Model) : Client.readModel model.render = .ok model := by
  rw [Client.readModel, model.read_render]

theorem Client.readModel_scriptText (model : Model) :
    Client.readModel (Markup.scriptText model.toJson) = .ok model := by
  rw [Client.readModel, model.read_scriptText]

/-- A string that stands in a page is read back, whatever it holds and whatever comes behind it. -/
theorem text_scriptText (s : String) (rest : List Char) :
    Reader.text ((Markup.scriptText (.text s)).toList ++ rest) = .ok (s, rest) := by
  rw [Markup.toList_scriptText, tokens, write_cons]
  show Reader.text (Token.write Markup.embedded (.text s) ++ [] ++ rest) = _
  rw [List.append_nil]
  exact text_write Markup.spells_embedded s rest

/-- **A model comes back** from both of its texts.  The one in a page has no end tag, and none of its
    strings is another than it was. -/
theorem Model.comes_back (model : Model) :
    Client.readModel model.render = .ok model
      ∧ ¬ "</".toList <:+: (Markup.scriptText model.toJson).toList
      ∧ Client.readModel (Markup.scriptText model.toJson) = .ok model
      ∧ ∀ (s : String) (rest : List Char),
        Reader.text ((Markup.scriptText (.text s)).toList ++ rest) = .ok (s, rest) :=
  ⟨Client.readModel_render model, Markup.not_infix_scriptText _, Client.readModel_scriptText model,
    text_scriptText⟩

end TodoSite
