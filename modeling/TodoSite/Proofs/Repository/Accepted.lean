/-
  What a write that is taken does to the tree.

  1. **What the fields give** (`Fields.property?`) — of the fields with one name the last counts, and hints
     are not stored.  The values of a write that is taken are just these (`Fields.last?_values`).

  2. **The list that grows** (`childNames_ensure_new`) — where a node is made, the deepest node above it that
     was there gets a name at the end of its list, and no other list that was there changes.

  3. **The same write again** (`put_put`) finds the node and its properties there, and changes nothing.

  All together, this is what a write does (`upsert_takes`).
-/
import TodoSite.Proofs.Repository.Effect

namespace TodoSite

/-! ## What the fields give -/

namespace Fields

variable {fields : Fields} {values : List (String × Value)}

/-- A text as it is stored under a name.  Where a truth value is asked for, a write is only taken if the text
    spells one. -/
def stored (fields : Fields) (name raw : String) : Value :=
  if (fields.hint? name).any asksForBool then .bool ((Value.spelledBool? raw).getD false) else .text raw

/-- The property that the fields give under a name, if they give one. -/
def property? (fields : Fields) (name : String) : Option Value :=
  if isHint name then none else (NameMap.last? name fields).map (fields.stored name)

theorem value_eq_ok {field : String × String} {value : String × Value} (h : fields.value field = .ok value) :
    value = (field.1, fields.stored field.1 field.2) := by
  unfold Fields.value at h
  unfold stored
  split at h
  · rename_i hnone
    rw [hnone]
    exact (Except.ok.inj h).symm
  · rename_i hint hsome
    rw [hsome, Option.any_some]
    split at h
    · rename_i hasks
      split at h
      · rename_i b hb
        rw [if_pos hasks, hb]
        exact (Except.ok.inj h).symm
      · cases h
    · rename_i hasks
      rw [if_neg hasks]
      exact (Except.ok.inj h).symm

/-- The values of a write that is taken. -/
theorem values_eq_ok (h : fields.values = .ok values) :
    values = (fields.filter fun field => !isHint field.1).map
      fun field => (field.1, fields.stored field.1 field.2) :=
  mapM_eq_ok (fun _ _ => value_eq_ok) h

/-- **What the fields give** is what the values of the write say. -/
theorem last?_values (h : fields.values = .ok values) (name : String) :
    NameMap.last? name values = fields.property? name := by
  -- the hints are those of all fields, however many have been looked at
  have hlast : ∀ fs : Fields, NameMap.last? name ((fs.filter fun field => !isHint field.1).map
      fun field => (field.1, fields.stored field.1 field.2))
        = if isHint name then none else (NameMap.last? name fs).map (fields.stored name) := by
    intro fs
    induction fs using List.reverseRecOn with
    | nil => exact (ite_self _).symm
    | append_singleton fs field ih =>
      rw [List.filter_append, List.map_append, NameMap.last?_concat]
      cases hhint : isHint field.1 with
      | true =>
        rw [List.filter_cons_of_neg (by rw [hhint]; decide), List.filter_nil, List.map_nil, List.append_nil, ih]
        by_cases hname : name = field.1
        · rw [hname, hhint]
          rfl
        · rw [if_neg hname]
      | false =>
        rw [List.filter_cons_of_pos (by rw [hhint]; rfl), List.filter_nil, List.map_singleton, NameMap.last?_concat, ih]
        by_cases hname : name = field.1
        · rw [if_pos hname, if_pos hname, hname, hhint]
          rfl
        · rw [if_neg hname, if_neg hname]
  rw [values_eq_ok h, hlast, property?]

end Fields

namespace Repository

variable {r : Repository} {p q : Path} {values : List (String × Value)}

/-! ## The list that grows -/

/-- **A new node** is listed at the end by the deepest node above it that was there.  No other list that was
    there changes. -/
theorem childNames_ensure_new (ht : IsTree r) (hnew : ¬ r.contains p = true) :
    ∃ above name, r.contains above = true ∧ above.child name ∈ p.way
      ∧ (∀ q ∈ p.way, r.contains q = true → q ∈ above.way)
      ∧ ∀ q, r.contains q = true →
        (r.ensure p).childNames q = if q = above then r.childNames q ++ [name] else r.childNames q := by
  induction p with
  | root => exact absurd ht.root hnew
  | child parent name ih =>
    -- a node that was there is not the new one
    have hne : ∀ {q}, r.contains q = true → q ≠ .child parent name := by
      rintro q hq rfl
      exact hnew hq
    by_cases hparent : r.contains parent = true
    · refine ⟨parent, name, hparent, Path.mem_way_self _, fun q hway hq => ?_, fun q hq => ?_⟩
      · exact (Path.mem_way_child.mp hway).resolve_left (hne hq)
      · rw [childNames, get?_ensure_child hnew, if_neg (hne hq), ensure_of_contains hparent]
        by_cases he : q = parent
        · obtain ⟨node, hnode⟩ := contains_iff.mp hparent
          rw [if_pos he, if_pos he, he, childNames, hnode]
          rfl
        · rw [if_neg he, if_neg he]
          rfl
    · obtain ⟨above, first, habove, hfirst, hdeepest, hlists⟩ := ih hparent
      refine ⟨above, first, habove, Path.mem_way_child.mpr (Or.inr hfirst), fun q hway hq => ?_, fun q hq => ?_⟩
      · exact hdeepest q ((Path.mem_way_child.mp hway).resolve_left (hne hq)) hq
      · have he : q ≠ parent := by
          rintro rfl
          exact hparent hq
        rw [childNames, get?_ensure_child hnew, if_neg (hne hq), if_neg he]
        exact hlists q hq

/-! ## The same write again -/

theorem setIn_of_find? {node : Node} {nodes : List (Path × Node)}
    (h : (nodes.find? fun entry => entry.1 = p).map (·.2) = some node) : setIn p node nodes = nodes := by
  induction nodes with
  | nil => cases h
  | cons entry nodes ih =>
    rw [setIn]
    rw [List.find?_cons] at h
    by_cases he : entry.1 = p
    · rw [decide_eq_true he] at h
      rw [if_pos he, ← he, ← Option.some.inj h]
    · rw [decide_eq_false he] at h
      rw [if_neg he, ih h]

/-- A node that is put where it stands changes nothing. -/
theorem set_of_get? {node : Node} (h : r.get? p = some node) : r.set p node = r :=
  congrArg Repository.mk (setIn_of_find? h)

theorem setting_setting (values : List (String × Value)) (node : Node) :
    setting values (setting values node) = setting values node :=
  congrArg (Node.mk · node.children) (NameMap.insertAll_insertAll node.properties values)

/-- **The same write again** changes nothing. -/
theorem put_put (hroot : r.contains .root = true) (p : Path) (values : List (String × Value)) :
    (r.put p values).put p values = r.put p values := by
  obtain ⟨node, hnode⟩ := contains_iff.mp (contains_ensure (p := p) hroot)
  have hself : (r.put p values).get? p = some (setting values node) := by
    rw [get?_put, if_pos rfl, hnode]
    rfl
  have hput : (r.put p values).put p values = ((r.put p values).ensure p).modify p (setting values) := rfl
  rw [hput, ensure_of_contains (contains_iff.mpr ⟨_, hself⟩), modify, hself]
  dsimp only
  rw [setting_setting, set_of_get? hself]

/-! ## All together -/

/-- `r'` is what becomes of `r` when the fields are taken at `p`. -/
structure Takes (r : Repository) (p : Path) (fields : Fields) (r' : Repository) : Prop where
  /-- The nodes on the way to `p` are stored besides those that were. -/
  contains : ∀ q, r'.contains q = true ↔ r.contains q = true ∨ q ∈ p.way
  /-- At `p` there is what the fields give, and else what was there before or stands in a new node. -/
  written : ∀ name, (r'.propertiesAt p).bind (·.get? name)
    = (fields.property? name).or (((r.propertiesAt p).getD [(primaryType, .text unstructured)]).get? name)
  /-- A node that is made above `p` has its type and nothing else. -/
  made : ∀ q ∈ p.way, q ≠ p → ¬ r.contains q = true → r'.propertiesAt q = some [(primaryType, .text unstructured)]
  /-- The other nodes keep their properties. -/
  kept : ∀ q, r.contains q = true → q ≠ p → r'.propertiesAt q = r.propertiesAt q
  /-- Where the node was there, no list of children changes. -/
  lists : r.contains p = true → ∀ q, r'.childNames q = r.childNames q
  /-- Where it was not, the list of the deepest node that was there on the way gets one name at its end, and no
      other list that was there changes. -/
  grown : ¬ r.contains p = true → ∃ above name, r.contains above = true ∧ above.child name ∈ p.way
    ∧ (∀ q ∈ p.way, r.contains q = true → q ∈ above.way)
    ∧ ∀ q, r.contains q = true → r'.childNames q = if q = above then r.childNames q ++ [name] else r.childNames q
  /-- A node that is made lists the next one on the way. -/
  below : ∀ q, ¬ r.contains q = true → ∀ name, name ∈ r'.childNames q ↔ q.child name ∈ p.way

theorem takes_put (ht : IsTree r) (hp : p.Addressable) {fields : Fields} (hvalues : fields.values = .ok values) :
    Takes r p fields (r.put p values) where
  contains q := by
    rw [contains_put, contains_ensure_iff ht, or_comm]
  written name := by
    rw [propertiesAt_put ht, if_pos rfl, Option.bind_some, NameMap.get?_insertAll, Fields.last?_values hvalues]
    rfl
  made q hway hne hnew := by
    rw [propertiesAt_put ht, if_neg hne, if_pos hway, propertiesAt_eq_none hnew]
    rfl
  kept q hq hne := propertiesAt_put_of_stored ht hq hne values
  lists hstored q := by
    rw [childNames_put_eq, ensure_of_contains hstored]
  grown hnew := by
    simp only [childNames_put_eq]
    exact childNames_ensure_new ht hnew
  below q hnew name := by
    rw [mem_childNames (ht.put hp values), contains_put, contains_ensure_iff ht]
    exact or_iff_left fun hchild => hnew (ht.contains_parent hchild)

/-- **What a write that is taken does**, and that nothing is left to do for the same write again. -/
theorem upsert_takes {r' : Repository} {address : String} {fields : Fields} {outcome : Upsert} (hr : Reachable r)
    (hp : Path.ofString? address = some p) (h : r.upsert address fields = (.ok outcome, r')) :
    (outcome = .created ↔ ¬ r.contains p = true) ∧ Takes r p fields r'
      ∧ r'.upsert address fields = (.ok .updated, r') := by
  rw [upsert, hp] at h
  cases hvalues : fields.values with
  | error e => rw [hvalues] at h; cases h
  | ok values =>
    rw [hvalues] at h
    obtain ⟨houtcome, rfl⟩ := Prod.mk.inj h
    have ht := hr.isTree
    have hagain : (r.put p values).contains p = true := by
      rw [contains_put]
      exact contains_ensure ht.root
    refine ⟨?_, takes_put ht (Path.ofString?_addressable hp) hvalues, ?_⟩
    · rw [← Except.ok.inj houtcome]
      by_cases hc : r.contains p = true
      · rw [if_pos hc]
        exact iff_of_false (by decide) (not_not_intro hc)
      · rw [if_neg hc]
        exact iff_of_true rfl hc
    · rw [upsert, hp, hvalues]
      dsimp only
      rw [if_pos hagain, put_put ht.root]

/-- Two fields and two hints with one name each, for a node two steps below the only one there is. -/
theorem upsert_takes_nested :
    let fields : Fields := [("done", "TRUE "), ("n", "0"), ("done@TypeHint", "text"), ("n", "1"),
      ("done@TypeHint", "Boolean")]
    let p := (Path.root.child "a").child "b"
    let r' := (({} : Repository).upsert "/a/b/" fields).2
    Reachable {} ∧ Path.ofString? "/a/b/" = some p
      ∧ ({} : Repository).upsert "/a/b/" fields = (.ok .created, r')
      ∧ ((Upsert.created = .created ↔ ¬ ({} : Repository).contains p = true) ∧ Takes {} p fields r'
        ∧ r'.upsert "/a/b/" fields = (.ok .updated, r'))
      ∧ r'.propertiesAt p = some [("done", .bool true), (primaryType, .text unstructured), ("n", .text "1")] :=
  have hp : Path.ofString? "/a/b/" = some ((Path.root.child "a").child "b") := by decide +kernel
  have hwrite : ({} : Repository).upsert "/a/b/" [("done", "TRUE "), ("n", "0"), ("done@TypeHint", "text"), ("n", "1"),
      ("done@TypeHint", "Boolean")] = (.ok .created, _) := Prod.ext (by decide +kernel) rfl
  ⟨.new, hp, hwrite, upsert_takes .new hp hwrite, by decide +kernel⟩

end Repository

end TodoSite
