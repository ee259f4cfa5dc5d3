/-
  What an address comes to.

  1. **Which texts are addresses** (`ofString?_isSome_iff`) — those that begin with a slash and have no part
     that is no name, the slashes at the end left aside.

  2. **Slashes at the end** (`eq_iff_of_dropEndSlashes_eq`) do not matter, with one exception: a single
     slash is the root, and more of them are the nameless node.

  3. **How the path is written** — a proper path is written as the root, or as a slash and its names with
     slashes between (`Proper.isCanonical`), with no slash at the end (`getLast?_render`).

  4. **The normal form** of an address is what its path is written as (`isNormalForm_of_eq_some`).

  CRUX.  The nameless node is what breaks the rules.  It is written as the empty text, which is not an
  address; every other path is written as an address of itself.
-/
import TodoSite.Proofs.Path.Written

namespace TodoSite.Path

variable {address : String} {p q : Path}

/-! ## Which texts are addresses -/

/-- The texts behind the slashes of an address, those at its end left aside. -/
def parts (address : String) : List String := (segments (Text.dropEndSlashes address).toList).tail

theorem isName_iff (part : String) : isName part = true ↔ part ≠ "" ∧ part ≠ "." ∧ part ≠ ".." := by
  simp [isName, and_assoc]

theorem segments_cons_slash (cs : List Char) : segments ('/' :: cs) = "" :: segments cs := by
  rw [segments, Text.pieces_cons_sep, List.map_cons]
  rfl

theorem parts_of_dropEndWhile_nil (h : Text.dropEndWhile (· == '/') address.toList = []) :
    parts address = [] := by
  rw [parts, toList_dropEndSlashes, h]
  rfl

theorem parts_of_dropEndWhile_cons {kept : List Char}
    (h : Text.dropEndWhile (· == '/') address.toList = '/' :: kept) : parts address = segments kept := by
  rw [parts, toList_dropEndSlashes, h, segments_cons_slash, List.tail_cons]

/-- **Which texts are addresses.** -/
theorem ofString?_isSome_iff (address : String) : (∃ p, ofString? address = some p)
    ↔ address.toList.head? = some '/' ∧ ∀ part ∈ parts address, part ≠ "" ∧ part ≠ "." ∧ part ≠ ".." := by
  unfold ofString?
  by_cases hroot : address = "/"
  · subst hroot
    exact ⟨fun _ => ⟨by decide, by decide⟩, fun _ => ⟨root, if_pos rfl⟩⟩
  rw [if_neg hroot]
  split
  · rename_i rest hlist
    rw [← hlist]
    split
    · rename_i hnil
      refine ⟨fun _ => ⟨by rw [hlist]; rfl, fun part hpart => ?_⟩, fun _ => ⟨nameless, rfl⟩⟩
      rw [parts_of_dropEndWhile_nil hnil] at hpart
      exact absurd hpart List.not_mem_nil
    · rename_i c kept hkept
      obtain rfl := eq_slash_of_dropEndWhile (hlist ▸ hkept)
      have hall : (segments kept).all isName = true
          ↔ ∀ part ∈ segments kept, part ≠ "" ∧ part ≠ "." ∧ part ≠ ".." := by
        simp only [List.all_eq_true, isName_iff]
      rw [parts_of_dropEndWhile_cons hkept, ← hall]
      show (∃ p, (if (segments kept).all isName = true then some (root.descend (segments kept)) else none) = some p)
        ↔ _
      by_cases hnames : (segments kept).all isName = true
      · rw [if_pos hnames]
        exact ⟨fun _ => ⟨by rw [hlist]; rfl, hnames⟩, fun _ => ⟨_, rfl⟩⟩
      · rw [if_neg hnames]
        constructor
        · rintro ⟨_, h⟩
          cases h
        · rintro ⟨-, h⟩
          exact absurd h hnames
  · -- the text does not begin with a slash
    rename_i hlist
    constructor
    · rintro ⟨_, h⟩
      cases h
    · rintro ⟨hhead, -⟩
      obtain ⟨rest, hrest⟩ := List.head?_eq_some_iff.mp hhead
      exact absurd hrest (hlist rest)

/-! ## Which paths they lead to -/

theorem depth_descend (p : Path) (names : List String) : (p.descend names).depth = p.depth + names.length := by
  induction names generalizing p with
  | nil => rfl
  | cons name names ih =>
    have hstep : (p.descend (name :: names)).depth = ((p.child name).descend names).depth := rfl
    rw [hstep, ih, depth, List.length_cons]
    omega

theorem segments_ne_nil (cs : List Char) : segments cs ≠ [] := by
  cases cs with
  | nil => simp [segments, Text.pieces]
  | cons c cs =>
    by_cases hc : c = '/'
    · subst hc
      rw [segments_cons_slash]
      exact List.cons_ne_nil _ _
    · obtain ⟨piece, pieces, -, hpieces⟩ := Text.pieces_cons_ne cs hc
      rw [segments, hpieces]
      exact List.cons_ne_nil _ _

/-- The root has one address. -/
theorem eq_root_iff (h : ofString? address = some p) : p = root ↔ address = "/" := by
  constructor
  · rintro rfl
    by_contra hne
    unfold ofString? at h
    rw [if_neg hne] at h
    split at h
    · split at h
      · cases Option.some.inj h
      · rename_i c kept hkept
        dsimp only at h
        split at h
        · -- there is at least one name
          have hdepth : (root.descend (segments kept)).depth = 0 := congrArg depth (Option.some.inj h)
          have hlength : 0 < (segments kept).length := List.length_pos_iff.mpr (segments_ne_nil kept)
          rw [depth_descend, depth] at hdepth
          omega
        · cases h
    · cases h
  · rintro rfl
    exact (Option.some.inj h).symm

/-- The nameless node has as its addresses the slashes alone that are not the address of the root. -/
theorem eq_nameless_iff (h : ofString? address = some p) :
    p = nameless ↔ address ≠ "/" ∧ ∀ c ∈ address.toList, c = '/' := by
  have hslashes : (Text.dropEndSlashes address).toList = [] ↔ ∀ c ∈ address.toList, c = '/' := by
    rw [toList_dropEndSlashes, Text.dropEndWhile_eq_nil_iff]
    simp only [beq_iff_eq]
  rw [← hslashes, ne_eq, ← eq_root_iff h]
  rcases ofString?_eq_some h with ⟨hnil, rfl | rfl⟩ | ⟨kept, hlist, hkept, rfl⟩
  · simp [nameless]
  · simp [nameless, hnil]
  · have hproper : (root.descend (segments kept)).Proper := proper_descend trivial hkept
    simp [hproper.ne_nameless, hlist]

/-- **Slashes at the end** tell two addresses apart only where one of them is the root's. -/
theorem eq_iff_of_dropEndSlashes_eq {other : String} (hp : ofString? address = some p)
    (hq : ofString? other = some q) (h : Text.dropEndSlashes address = Text.dropEndSlashes other) :
    p = q ↔ (address = "/" ↔ other = "/") := by
  rw [← eq_root_iff hp, ← eq_root_iff hq]
  rcases ofString?_eq_some hp with ⟨hnil, hp'⟩ | ⟨kept, hlist, -, rfl⟩ <;>
    rcases ofString?_eq_some hq with ⟨hnil', hq'⟩ | ⟨kept', hlist', -, rfl⟩
  · rcases hp' with rfl | rfl <;> rcases hq' with rfl | rfl <;> simp [nameless]
  · rw [h, hlist'] at hnil
    cases hnil
  · rw [h, hnil'] at hlist
    cases hlist
  · rw [h, hlist'] at hlist
    rw [(List.cons.inj hlist).2]
    simp

/-! ## How they are written -/

/-- A text that is the root's, or a slash and names with slashes between. -/
def IsCanonical (written : String) : Prop :=
  written = "/" ∨ ∃ names, names ≠ [] ∧ (∀ name ∈ names, IsSegment name)
    ∧ written = "/" ++ "/".intercalate names

theorem Proper.tail_eq (hp : p.Proper) (hne : p ≠ root) :
    ∃ names, names ≠ [] ∧ (∀ name ∈ names, IsSegment name) ∧ p.tail = "/" ++ "/".intercalate names := by
  induction p with
  | root => exact absurd rfl hne
  | child parent name ih =>
    obtain ⟨hparent, hname⟩ := hp
    by_cases hroot : parent = root
    · subst hroot
      refine ⟨[name], List.cons_ne_nil _ _, fun n hn => List.mem_singleton.mp hn ▸ hname, ?_⟩
      rw [String.intercalate_singleton]
      show "" ++ "/" ++ name = _
      rw [String.empty_append]
    · obtain ⟨names, hnames, hsegments, htail⟩ := ih hparent hroot
      refine ⟨names ++ [name], by simp, fun n hn => ?_, ?_⟩
      · rcases List.mem_append.mp hn with hn | hn
        · exact hsegments n hn
        · exact List.mem_singleton.mp hn ▸ hname
      · rw [tail, htail, String.intercalate_append_of_ne_nil hnames (List.cons_ne_nil _ _),
          String.intercalate_singleton]
        simp only [String.append_assoc]

/-- **A proper path is written** as its names, from the root on. -/
theorem Proper.isCanonical (hp : p.Proper) : IsCanonical p.render := by
  by_cases hne : p = root
  · subst hne
    exact Or.inl rfl
  · rw [hp.render_eq_tail hne]
    exact Or.inr (hp.tail_eq hne)

/-- The empty text begins with no slash. -/
theorem not_isCanonical_empty : ¬ IsCanonical "" := by
  rintro (h | ⟨names, -, -, h⟩)
  · exact absurd h (by decide)
  · have hlength := congrArg (fun text : String => text.toList.length) h
    simp at hlength

/-- **No slash is left** at the end. -/
theorem getLast?_render (hp : p.Addressable) (hne : p ≠ root) : p.render.toList.getLast? ≠ some '/' := by
  rcases hp with rfl | hp
  · decide
  · cases p with
    | root => exact absurd rfl hne
    | child parent name =>
      have hname := hp.2
      have htail : (child parent name).render.toList = parent.tail.toList ++ '/' :: name.toList := by
        rw [hp.render_eq_tail hne, tail, String.toList_append, String.toList_append]
        simp
      have hlast : name.toList ≠ [] := fun h => hname.ne_empty (String.toList_inj.mp h)
      rw [htail, List.getLast?_append, List.getLast?_cons_of_ne_nil hlast, List.getLast?_eq_some_getLast hlast]
      intro h
      have hmem : name.toList.getLast hlast ∈ name.toList := List.getLast_mem hlast
      rw [Option.some.inj h] at hmem
      exact hname.2 hmem

/-! ## Normal forms -/

theorem render_eq_empty_iff (hp : p.Addressable) : p.render = "" ↔ p = nameless :=
  ⟨fun h => render_inj hp (Or.inl rfl) h, fun h => h ▸ rfl⟩

theorem render_eq_slash_iff (hp : p.Addressable) : p.render = "/" ↔ p = root :=
  ⟨fun h => render_inj hp (Or.inr trivial) h, fun h => h ▸ rfl⟩

/-- The normal form of an address: its path as it is written. -/
def normal? (address : String) : Option String := (ofString? address).map render

/-- What is known of `written` where it is the normal form of `address`. -/
structure IsNormalForm (address written : String) : Prop where
  /-- Slashes alone lead to nothing at all, unless there is just one. -/
  empty : written = "" ↔ address ≠ "/" ∧ ∀ c ∈ address.toList, c = '/'
  /-- With this exception it is the root's, or a slash and names with slashes between, -/
  canonical : IsCanonical written ↔ written ≠ ""
  /-- and its own normal form. The empty text has none. -/
  fixed : normal? written = if written = "" then none else some written
  /-- It does not end with a slash, unless it is the root's. -/
  bare : written ≠ "/" → written.toList.getLast? ≠ some '/'

variable {written : String}

theorem normal?_eq_some_iff : normal? address = some written ↔ ∃ p, ofString? address = some p ∧ p.render = written :=
  Option.map_eq_some_iff

theorem normal?_render (hp : p.Addressable) :
    normal? p.render = if p.render = "" then none else some p.render := by
  simp only [render_eq_empty_iff hp]
  rcases hp with rfl | hp
  · rw [if_pos rfl]
    decide
  · rw [if_neg hp.ne_nameless, normal?, ofString?_render hp]
    rfl

/-- **The normal form of an address** is canonical and stays as it is, but for the empty one. -/
theorem isNormalForm_of_eq_some (h : normal? address = some written) : IsNormalForm address written := by
  obtain ⟨p, hread, rfl⟩ := normal?_eq_some_iff.mp h
  have hp := ofString?_addressable hread
  have hempty := render_eq_empty_iff hp
  refine ⟨hempty.trans (eq_nameless_iff hread), ?_, normal?_render hp, fun hne => ?_⟩
  · rw [ne_eq, hempty]
    constructor
    · rintro h rfl
      exact not_isCanonical_empty h
    · exact fun hne => (hp.resolve_left hne).isCanonical
  · exact getLast?_render hp fun hroot => hne ((render_eq_slash_iff hp).mpr hroot)

/-- Addresses that differ in slashes at their ends only have one normal form, unless just one of them is
    that of the root. -/
theorem normal?_eq_iff_of_dropEndSlashes_eq {other written' : String} (h : normal? address = some written)
    (h' : normal? other = some written') (hsame : Text.dropEndSlashes address = Text.dropEndSlashes other) :
    written = written' ↔ (address = "/" ↔ other = "/") := by
  obtain ⟨p, hp, rfl⟩ := normal?_eq_some_iff.mp h
  obtain ⟨q, hq, rfl⟩ := normal?_eq_some_iff.mp h'
  rw [← eq_iff_of_dropEndSlashes_eq hp hq hsame]
  exact ⟨render_inj (ofString?_addressable hp) (ofString?_addressable hq), congrArg render⟩

end TodoSite.Path
