/-
  The form of an item, from the page that sends it to the node that keeps it.

  1. **The line that is sent** holds the four fields of the form and nothing else, whatever the name of
     the item looks like.  It is read in two ways, as pairs and as a form, and both give back what was
     written (`ItemForm.ofPairs_pairs`).

  2. **The node that is written** (`Repository.properties_after_form`) holds the name as a text and the flag
     as a truth value.  The field that asks for a truth value is not kept.
-/
import TodoSite.Proofs.Repository.Items

namespace TodoSite

/-! ## Reading -/

/-- The fields of a form, in their order, are read as that form. -/
theorem ItemForm.ofPairs_pairs (form : ItemForm) : ItemForm.ofPairs form.pairs = .ok form := by
  have hdone : readDone (boolText form.done) = .ok form.done := by
    cases form.done <;> rfl
  show ItemForm.ofPairs [(primaryType, form.nodeType), ("name", form.name), ("done", boolText form.done),
    ("done@TypeHint", form.doneType)] = .ok form
  simp [ItemForm.ofPairs, Fields.put, hdone, primaryType, require, Except.map, bind, Except.bind, pure, Except.pure]

/-! ## Storing -/

/-- What the node at an address holds after the form of an item has been written there. -/
theorem Repository.properties_after_form {r : Repository} {address : String} {p : Path} (item : Item)
    (hr : Reachable r) (hp : Path.ofString? address = some p) :
    ∃ node, (r.upsert address (Form.decode (Text.encode item.formBody))).2.at? address = some node
      ∧ ∀ name, node.properties.get? name
        = if name = "done" then some (.bool item.done)
          else if name = "name" then some (.text item.name)
          else if name = primaryType then some (.text unstructured)
          else (r.at? address).bind (·.properties.get? name) := by
  have hnode : (r.put p (itemValues item)).get? p
      = some (setting (itemValues item) ((r.get? p).getD Node.unstructured)) := by
    rw [get?_put, if_pos rfl, get?_ensure_self hr.isTree.root]
    rfl
  refine ⟨_, by rw [upsert_formBody item hp, at?_eq hp, hnode], fun name => ?_⟩
  rw [get?_setting_itemValues, at?_eq hp]
  by_cases htype : name = primaryType
  · subst htype
    rfl
  · -- a node that is new holds its type only
    have hnew : Node.unstructured.properties.get? name = none := if_neg (Ne.symm htype)
    rw [if_neg htype, if_neg htype]
    cases r.get? p with
    | none => rw [Option.getD_none, hnew]; rfl
    | some node => rfl

/-! ## The way of a form -/

/-- **The form of an item comes back**, and is stored as it was meant: the name is a text, whatever it
    looks like, and the flag a truth value. -/
theorem Item.formBody_comes_back (item : Item) :
    let fields := Form.decode (Text.encode item.formBody)
    fields = [("jcr:primaryType", "nt:unstructured"), ("name", item.name),
        ("done", if item.done then "true" else "false"), ("done@TypeHint", "boolean")]
      ∧ ItemForm.ofPairs fields = .ok item.form
      ∧ ∀ (r : Repository) (address : String) (p : Path), Repository.Reachable r →
        Path.ofString? address = some p →
        (r.upsert address fields).1 = .ok (if r.contains p then .updated else .created)
          ∧ ∃ node, (r.upsert address fields).2.at? address = some node
            ∧ ∀ name, node.properties.get? name
              = if name = "done" then some (.bool item.done)
                else if name = "name" then some (.text item.name)
                else if name = "jcr:primaryType" then some (.text "nt:unstructured")
                else (r.at? address).bind (·.properties.get? name) := by
  intro fields
  have hfields : fields = item.form.pairs := Form.decode_encode item.form.pairs
  refine ⟨hfields, ?_, fun r address p hr hp => ⟨?_, ?_⟩⟩
  · rw [hfields]
    exact ItemForm.ofPairs_pairs item.form
  · exact congrArg Prod.fst (Repository.upsert_formBody item hp)
  · exact Repository.properties_after_form item hr hp

/-- A name full of the marks of forms is written over another one.  What the node held besides is kept,
    and the text that looked like a truth value is one afterwards. -/
theorem Item.formBody_comes_back_marks :
    let item : Item := { name := "done=false&name=%41+ \x00é%", done := true, key := "1" }
    let r := (({} : Repository).upsert "/l/items/1" [("name", "old"), ("done", "no"), ("color", "red")]).2
    let r' := (r.upsert "/l/items/1/" (Form.decode (Text.encode item.formBody))).2
    Repository.Reachable r
      ∧ Path.ofString? "/l/items/1/" = some (.child (.child (.child .root "l") "items") "1")
      ∧ (Form.decode (Text.encode item.formBody)).map (·.1)
        = ["jcr:primaryType", "name", "done", "done@TypeHint"]
      ∧ ∃ node, r'.at? "/l/items/1/" = some node
        ∧ node.properties.get? "name" = some (.text "done=false&name=%41+ \x00é%")
        ∧ node.properties.get? "done" = some (.bool true)
        ∧ node.properties.get? "color" = some (.text "red")
        ∧ node.properties.get? "done@TypeHint" = none := by
  intro item r r'
  have hr : Repository.Reachable r := .upsert _ _ .new
  have hp : Path.ofString? "/l/items/1/" = some (.child (.child (.child .root "l") "items") "1") := by
    decide +kernel
  obtain ⟨hfields, -, hstored⟩ := Item.formBody_comes_back item
  obtain ⟨-, node, hnode, hproperties⟩ := hstored r "/l/items/1/" _ hr hp
  have hcolor : (r.at? "/l/items/1/").bind (·.properties.get? "color") = some (.text "red") := by decide +kernel
  have hhint : (r.at? "/l/items/1/").bind (·.properties.get? "done@TypeHint") = none := by decide +kernel
  refine ⟨hr, hp, by rw [hfields]; rfl, node, hnode, ?_, ?_, ?_, ?_⟩
  · rw [hproperties, if_neg (by decide), if_pos rfl]
  · rw [hproperties, if_pos rfl]
  · rw [hproperties, if_neg (by decide), if_neg (by decide), if_neg (by decide), hcolor]
  · rw [hproperties, if_neg (by decide), if_neg (by decide), if_neg (by decide), hhint]

end TodoSite
