/-
  Reading markup.

  A reader goes through markup from the left and tells texts, tags and the quoted values in tags apart.  A
  text ends where a tag opens, a tag where it closes or where a quote opens a value, and a value at the next
  quote of the same kind.  In texts and values the entities are read (`parts`).

  Markup is written in *steps*, a text and the tag behind it each.

  1. **What has been written is read back** (`parts_write`) — each text and each value is one part, whatever
     characters it is made of.  Only what stands in a tag besides its values must be free of what would end
     it (`Step.isBare`).

  2. **A tag is opened** as often as there is a step for it (`occurrences_write`).
-/
import TodoSite.Proofs.Markup.Escape
import TodoSite.Proofs.Text.Replace

namespace TodoSite.Markup

/-! ## Reading -/

/-- What markup falls into. -/
inductive Part where
  /-- A text, its entities read. -/
  | text (content : String)
  /-- What stands in a tag before, between or behind its values. -/
  | tag (raw : String)
  /-- A value in a tag, without its quotes, its entities read. -/
  | value (content : String)
  deriving DecidableEq, Repr

/-- Where a reader is. -/
inductive Place where
  /-- In a text. -/
  | text
  /-- In a tag. -/
  | tag
  /-- In a value that this quote has opened. -/
  | value (quote : Char)
  deriving DecidableEq, Repr

/-- Where the reader goes on behind `c`, if `c` ends the part that it is in. -/
def Place.next? : Place → Char → Option Place
  | .text, c => if c = '<' then some .tag else none
  | .tag, c => if c = '>' then some .text else if c = '"' ∨ c = '\'' then some (.value c) else none
  | .value quote, c => if c = quote then some .tag else none

/-- The part that has been read at a place. -/
def Place.part : Place → List Char → Part
  | .text, cs => .text (unescape (String.ofList cs))
  | .tag, cs => .tag (String.ofList cs)
  | .value _, cs => .value (unescape (String.ofList cs))

/-- The parts of markup for a reader who has read the beginning of a part. -/
def partsFrom : Place → (read : List Char) → List Char → List Part
  | place, read, [] => [place.part read]
  | place, read, c :: cs =>
    match place.next? c with
    | some next => place.part read :: partsFrom next [] cs
    | none => partsFrom place (read ++ [c]) cs

/-- The parts of markup. -/
def parts (markup : String) : List Part :=
  partsFrom .text [] markup.toList

variable {place next : Place} {read cs : List Char} {c : Char}

theorem partsFrom_next (h : place.next? c = some next) :
    partsFrom place read (c :: cs) = place.part read :: partsFrom next [] cs := by
  rw [partsFrom, h]

/-- What does not end a part belongs to it. -/
theorem partsFrom_append {xs : List Char} (h : ∀ c ∈ xs, place.next? c = none) :
    partsFrom place read (xs ++ cs) = partsFrom place (read ++ xs) cs := by
  induction xs generalizing read with
  | nil => rw [List.nil_append, List.append_nil]
  | cons x xs ih =>
    obtain ⟨hx, hxs⟩ := List.forall_mem_cons.mp h
    rw [List.cons_append, partsFrom, hx]
    dsimp only
    rw [ih hxs, List.append_assoc, List.singleton_append]

/-! ## Writing -/

/-- A text and the tag behind it. -/
structure Step where
  /-- The text. -/
  text : String := ""
  /-- The tag up to its first value. -/
  tag : String
  /-- Its values, each with what stands in the tag behind it. -/
  values : List (String × String) := []
  deriving DecidableEq, Repr

namespace Step

/-- Values as they are written. -/
def writeValues (values : List (String × String)) : List Char :=
  values.flatMap fun value => '"' :: ((escape value.1).toList ++ '"' :: value.2.toList)

/-- A step as it is written. -/
def write (step : Step) : List Char :=
  (escape step.text).toList ++ '<' :: (step.tag.toList ++ (writeValues step.values ++ ['>']))

/-- The parts of values. -/
def partsOfValues (values : List (String × String)) : List Part :=
  values.flatMap fun value => [.value value.1, .tag value.2]

/-- The parts of a step. -/
def parts (step : Step) : List Part :=
  .text step.text :: .tag step.tag :: partsOfValues step.values

/-- What stands in the tag besides its values. -/
def raws (step : Step) : List String :=
  step.tag :: step.values.map (·.2)

/-- Whether the tag begins and ends where it is to, for it holds no delimiters of its own. -/
def isBare (step : Step) : Bool :=
  step.raws.all fun raw => raw.toList.all fun c => decide (c ∉ delimiters)

theorem not_mem_delimiters {step : Step} (h : step.isBare = true) :
    ∀ raw ∈ step.raws, ∀ c ∈ raw.toList, c ∉ delimiters := fun raw hraw c hc =>
  of_decide_eq_true (List.all_eq_true.mp (List.all_eq_true.mp h raw hraw) c hc)

end Step

open Step (writeValues partsOfValues)
open Text (occurrences occurrences_append apart_of_not_mem differ_append differ_concat not_prefix_of_differ)

/-! ## Reading what has been written -/

theorem part_escape_text (text : String) : Place.part .text (escape text).toList = .text text := by
  rw [Place.part, String.ofList_toList, unescape_escape]

theorem part_escape_value (quote : Char) (text : String) :
    Place.part (.value quote) (escape text).toList = .value text := by
  rw [Place.part, String.ofList_toList, unescape_escape]

/-- An escaped text does not end before a delimiter. -/
theorem ne_of_mem_escape {d : Char} (hd : d ∈ delimiters) {text : String} (hc : c ∈ (escape text).toList) :
    c ≠ d := fun he => not_mem_escape hd text (he ▸ hc)

theorem next?_tag_eq_none (h : c ∉ delimiters) : Place.next? .tag c = none := by
  have hclose : c ≠ '>' := fun he => h (he ▸ by decide)
  have hdouble : c ≠ '"' := fun he => h (he ▸ by decide)
  have hsingle : c ≠ '\'' := fun he => h (he ▸ by decide)
  rw [Place.next?, if_neg hclose, if_neg (not_or.mpr ⟨hdouble, hsingle⟩)]

/-- Values are read back, and the tag up to its end. -/
theorem partsFrom_writeValues {values : List (String × String)} {raw : String}
    (hvalues : ∀ value ∈ values, ∀ c ∈ value.2.toList, c ∉ delimiters) (rest : List Char) :
    partsFrom .tag raw.toList (writeValues values ++ '>' :: rest)
      = .tag raw :: (partsOfValues values ++ partsFrom .text [] rest) := by
  have hraw (raw : String) : Place.part .tag raw.toList = .tag raw := by
    rw [Place.part, String.ofList_toList]
  induction values generalizing raw with
  | nil =>
    show partsFrom .tag raw.toList ('>' :: rest) = _
    rw [partsFrom_next rfl, hraw]
    rfl
  | cons value values ih =>
    obtain ⟨hvalue, hmore⟩ := List.forall_mem_cons.mp hvalues
    have hquote : ∀ c ∈ (escape value.1).toList, Place.next? (.value '"') c = none := fun c hc =>
      if_neg (ne_of_mem_escape (by decide) hc)
    have hbehind : ∀ c ∈ value.2.toList, Place.next? .tag c = none := fun c hc =>
      next?_tag_eq_none (hvalue c hc)
    have hwrite : writeValues (value :: values) ++ '>' :: rest = '"' :: ((escape value.1).toList
        ++ '"' :: (value.2.toList ++ (writeValues values ++ '>' :: rest))) := by
      simp [writeValues]
    rw [hwrite, partsFrom_next rfl, partsFrom_append hquote, List.nil_append, partsFrom_next rfl,
      partsFrom_append hbehind, List.nil_append, ih hmore, hraw, part_escape_value]
    rfl

theorem partsFrom_write {step : Step} (h : step.isBare = true) (rest : List Char) :
    partsFrom .text [] (step.write ++ rest) = step.parts ++ partsFrom .text [] rest := by
  obtain ⟨htag, hvalues⟩ := List.forall_mem_cons.mp (Step.not_mem_delimiters h)
  have htext : ∀ c ∈ (escape step.text).toList, Place.next? .text c = none := fun c hc =>
    if_neg (ne_of_mem_escape (by decide) hc)
  have hname : ∀ c ∈ step.tag.toList, Place.next? .tag c = none := fun c hc => next?_tag_eq_none (htag c hc)
  have hwrite : step.write ++ rest = (escape step.text).toList
      ++ '<' :: (step.tag.toList ++ (writeValues step.values ++ '>' :: rest)) := by
    simp [Step.write]
  rw [hwrite, partsFrom_append htext, List.nil_append, partsFrom_next rfl, partsFrom_append hname,
    List.nil_append, partsFrom_writeValues (List.forall_mem_map.mp hvalues), part_escape_text]
  rfl

/-- **What has been written is read back.** -/
theorem parts_write {steps : List Step} (h : ∀ step ∈ steps, step.isBare = true) :
    parts (String.ofList (steps.flatMap Step.write)) = steps.flatMap Step.parts ++ [.text ""] := by
  have hread : ∀ rest, partsFrom .text [] (steps.flatMap Step.write ++ rest)
      = steps.flatMap Step.parts ++ partsFrom .text [] rest := by
    intro rest
    induction steps with
    | nil => rfl
    | cons step steps ih =>
      obtain ⟨hstep, hsteps⟩ := List.forall_mem_cons.mp h
      rw [List.flatMap_cons, List.flatMap_cons, List.append_assoc, List.append_assoc, partsFrom_write hstep,
        ih hsteps]
  have hall := hread []
  rw [List.append_nil] at hall
  rw [parts, String.toList_ofList, hall]
  rfl

/-! ## Opening tags -/

variable {name : List Char}

theorem not_mem_writeValues {values : List (String × String)}
    (hvalues : ∀ value ∈ values, ∀ c ∈ value.2.toList, c ∉ delimiters) : '<' ∉ writeValues values := by
  rw [writeValues, List.mem_flatMap]
  rintro ⟨value, hvalue, hmem⟩
  rcases List.mem_cons.mp hmem with h | hmem
  · cases h
  rcases List.mem_append.mp hmem with hmem | hmem
  · exact not_mem_escape (by decide) value.1 hmem
  rcases List.mem_cons.mp hmem with h | hmem
  · cases h
  · exact hvalues value hvalue '<' hmem (by decide)

/-- Where a tag does not begin with `name`, neither does what follows its `<`. -/
theorem isPrefixOf_tag_append (hname : ∀ c ∈ name, c ∉ delimiters) {d : Char} (hd : d ∈ delimiters)
    (tag more : List Char) : name.isPrefixOf (tag ++ d :: more) = name.isPrefixOf tag := by
  rw [Bool.eq_iff_iff, List.isPrefixOf_iff_prefix, List.isPrefixOf_iff_prefix]
  refine ⟨fun h => Decidable.byContradiction fun hnot => ?_, fun h => h.trans (List.prefix_append tag _)⟩
  have hdiffer := differ_append (differ_concat hnot fun hmem => hname d hmem hd) more
  rw [List.append_assoc, List.singleton_append] at hdiffer
  exact not_prefix_of_differ hdiffer h

theorem occurrences_write_append {step : Step} (h : step.isBare = true) (hname : ∀ c ∈ name, c ∉ delimiters)
    (rest : List Char) : occurrences ('<' :: name) (step.write ++ rest)
      = (if name.isPrefixOf step.tag.toList then 1 else 0) + occurrences ('<' :: name) rest := by
  obtain ⟨htag, hvalues⟩ := List.forall_mem_cons.mp (Step.not_mem_delimiters h)
  have hvalues := not_mem_writeValues (List.forall_mem_map.mp hvalues)
  -- behind the `<` of the tag there is no other one
  have hbehind : '<' ∉ step.tag.toList ++ (writeValues step.values ++ ['>']) := by
    simp only [List.mem_append, List.mem_singleton, not_or]
    exact ⟨fun hmem => htag '<' hmem (by decide), hvalues, by decide⟩
  have hstart : name.isPrefixOf (step.tag.toList ++ (writeValues step.values ++ ['>']) ++ rest)
      = name.isPrefixOf step.tag.toList := by
    rw [List.append_assoc]
    cases step.values with
    | nil => exact isPrefixOf_tag_append hname (by decide) _ _
    | cons value values => exact isPrefixOf_tag_append hname (by decide : '"' ∈ delimiters) _ _
  have hopening : ('<' :: name).isPrefixOf ('<' :: (step.tag.toList ++ (writeValues step.values ++ ['>']) ++ rest))
      = name.isPrefixOf step.tag.toList := by
    rw [← hstart]
    rfl
  rw [Step.write, List.append_assoc, List.cons_append,
    occurrences_append (apart_of_not_mem (not_mem_escape (by decide) step.text)), occurrences, hopening,
    occurrences_append (apart_of_not_mem hbehind)]

/-- **A tag is opened** as often as there is a step for it: `<` and the beginning of its name stand nowhere
    else. -/
theorem occurrences_write {steps : List Step} (h : ∀ step ∈ steps, step.isBare = true)
    (hname : ∀ c ∈ name, c ∉ delimiters) : occurrences ('<' :: name) (steps.flatMap Step.write)
      = (steps.map Step.tag).countP fun tag => name.isPrefixOf tag.toList := by
  induction steps with
  | nil => rfl
  | cons step steps ih =>
    obtain ⟨hstep, hsteps⟩ := List.forall_mem_cons.mp h
    rw [List.flatMap_cons, occurrences_write_append hstep hname, ih hsteps, List.map_cons, List.countP_cons,
      Nat.add_comm]

end TodoSite.Markup
