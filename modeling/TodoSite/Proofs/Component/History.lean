/-
  What a component comes to by its calls.

  The calls of a component are told as rounds, each with the write that it has led to and the answer of
  the store.  The rounds give the whole history at once:

      items  =  the first items  ++  those of the accepted writes for new ones
      flag   =  its first value, turned once by each accepted write for its key

  1. **The items after rounds** (`standing`) — a round more does to them what it does to the items
     before it (`Lawful.standing_concat`).

  2. **The history** (`calls_told`) — whatever the store answers, there are rounds that tell all the calls:
     what was written and in which order, what the items are, which calls have changed them, and which
     alerts were raised.

  CRUX.  A key is written as that of a new item only where no item has it, and only the flags of items
  are turned.  So no flag has been turned under the key of an item before the item is there.
-/
import Mathlib.Logic.Function.Iterate
import TodoSite.Proofs.Component

namespace TodoSite

theorem ItemStore.writeAll_append {σ : Type} (store : ItemStore σ) (resource : String) (s : σ)
    (items more : List Item) :
    store.writeAll resource s (items ++ more)
      = ((store.writeAll resource s items).1
            ++ (store.writeAll resource (store.writeAll resource s items).2 more).1,
          (store.writeAll resource (store.writeAll resource s items).2 more).2) := by
  induction items generalizing s with
  | nil => rfl
  | cons item items ih =>
    rw [List.cons_append, writeAll]
    dsimp only
    rw [ih]
    rfl

namespace Component

open TodoList (firsts ofItems)

private theorem filterMap_concat {α β : Type} (f : α → Option β) (l : List α) (a : α) :
    (l ++ [a]).filterMap f = l.filterMap f ++ (f a).toList := by
  rw [List.filterMap_eq_flatMap_toList, List.flatMap_append, List.flatMap_singleton,
    ← List.filterMap_eq_flatMap_toList]

/-! ## The items after rounds -/

/-- What becomes of an item by rounds: its flag is turned again and again. -/
def Round.flipped (rounds : List Round) (item : Item) : Item :=
  { item with done := not^[rounds.countP (Round.turns item.key)] item.done }

/-- The items of a list that begins with `items`, after rounds. -/
def standing (items : List Item) (rounds : List Round) : List Item :=
  (firsts items ++ rounds.filterMap Round.added?).map (Round.flipped rounds)

/-- Whether rounds can follow each other, from `items` on: each has the write that the items before it
    ask for. -/
inductive Lawful (items : List Item) : List Round → Prop where
  /-- No round. -/
  | nil : Lawful items []
  /-- One round more. -/
  | concat {rounds : List Round} {round : Round} (h : Lawful items rounds)
    (hfits : round.Fits (standing items rounds)) : Lawful items (rounds ++ [round])

variable {items : List Item} {rounds : List Round} {round : Round} {key : String}

/-- A round leaves the keys alone, but for that of a new item. -/
theorem Round.keys_after (round : Round) (items : List Item) :
    (round.after items).map Item.key = items.map Item.key ++ round.added?.toList.map Item.key := by
  rw [after, List.map_append, List.map_map]
  congr 1
  refine List.map_congr_left fun item _ => ?_
  show (if round.turns item.key then item.turned else item).key = item.key
  split <;> rfl

/-- What is added has a new key, and its flag is not turned in the round. -/
theorem Round.Fits.of_added (h : round.Fits items) {item : Item} (hadded : round.added? = some item) :
    item.key ∉ items.map Item.key ∧ ∀ key, round.turns key = false := by
  cases h with
  | blank hname => cases hadded
  | absent hkey => cases hadded
  | toggle answer hitem => cases hadded
  | add answer hname hkey =>
    cases answer with
    | error e => cases hadded
    | ok _ => exact ⟨Option.some.inj hadded ▸ hkey, fun _ => rfl⟩

/-- What is turned is there. -/
theorem Round.Fits.of_turns (h : round.Fits items) (hturns : round.turns key = true) :
    key ∈ items.map Item.key := by
  cases h with
  | blank hname => cases hturns
  | absent hkey => cases hturns
  | add answer hname hkey => cases answer <;> cases hturns
  | @toggle item answer hitem =>
    cases answer with
    | error e => cases hturns
    | ok _ =>
      have hkey : key = item.key := of_decide_eq_true hturns
      rw [hkey]
      exact List.mem_map_of_mem hitem

theorem Round.Fits.nodup_after (h : round.Fits items) (hnodup : (items.map Item.key).Nodup) :
    ((round.after items).map Item.key).Nodup := by
  rw [Round.keys_after]
  cases hadded : round.added? with
  | none =>
    rw [Option.toList_none, List.map_nil, List.append_nil]
    exact hnodup
  | some item =>
    rw [Option.toList_some, List.map_singleton, ← List.concat_eq_append]
    exact hnodup.concat (h.of_added hadded).1

/-- The round turns what the rounds before it have left. -/
theorem Round.flipped_concat (rounds : List Round) (round : Round) (item : Item) :
    flipped (rounds ++ [round]) item
      = if round.turns item.key then (flipped rounds item).turned else flipped rounds item := by
  unfold flipped
  rw [List.countP_append, List.countP_singleton]
  split
  · rw [Function.iterate_succ_apply']
    rfl
  · rfl

theorem standing_nil (items : List Item) : standing items [] = firsts items := by
  show (firsts items ++ []).map (fun item => item) = firsts items
  rw [List.map_id', List.append_nil]

namespace Lawful

/-- **One round more** does what it does to the items before it, where only the flags of these have been
    turned. -/
theorem standing_concat_of_turns (hfits : round.Fits (standing items rounds))
    (hturned : ∀ key, ∀ earlier ∈ rounds, earlier.turns key = true → key ∈ (standing items rounds).map Item.key) :
    standing items (rounds ++ [round]) = round.after (standing items rounds) := by
  have hadded : round.added?.toList.map (Round.flipped (rounds ++ [round])) = round.added?.toList := by
    cases hadded : round.added? with
    | none => rfl
    | some item =>
      obtain ⟨hkey, hturns⟩ := hfits.of_added hadded
      have hzero : rounds.countP (Round.turns item.key) = 0 :=
        List.countP_eq_zero.mpr fun earlier hmem hearlier => hkey (hturned _ earlier hmem hearlier)
      rw [Option.toList_some, List.map_singleton, Round.flipped_concat, hturns, if_neg Bool.false_ne_true,
        Round.flipped, hzero]
      rfl
  have hold : (firsts items ++ rounds.filterMap Round.added?).map (Round.flipped (rounds ++ [round]))
      = (standing items rounds).map fun item => if round.turns item.key then item.turned else item := by
    rw [standing, List.map_map]
    exact List.map_congr_left fun item _ => Round.flipped_concat rounds round item
  rw [standing, filterMap_concat, ← List.append_assoc, List.map_append, hold, hadded, Round.after]

/-- Only the flags of items have been turned. -/
theorem key_mem_of_turns (h : Lawful items rounds) (hround : round ∈ rounds) (hturns : round.turns key = true) :
    key ∈ (standing items rounds).map Item.key := by
  induction h generalizing round key with
  | nil => exact absurd hround List.not_mem_nil
  | concat h hfits ih =>
    rw [standing_concat_of_turns hfits fun _ _ => ih, Round.keys_after]
    refine List.mem_append_left _ ?_
    rcases List.mem_append.mp hround with hround | hround
    · exact ih hround hturns
    · exact hfits.of_turns (List.mem_singleton.mp hround ▸ hturns)

/-- A round more does to the items what it does to those before it. -/
theorem standing_concat (h : Lawful items rounds) (hfits : round.Fits (standing items rounds)) :
    standing items (rounds ++ [round]) = round.after (standing items rounds) :=
  standing_concat_of_turns hfits fun _ _ => h.key_mem_of_turns

/-- The keys of the items differ after every round. -/
theorem nodup_standing (h : Lawful items rounds) : ((standing items rounds).map Item.key).Nodup := by
  induction h with
  | nil =>
    rw [standing_nil, ← TodoList.items_ofItems_eq_firsts]
    exact TodoList.nodup_ofItems items
  | concat h hfits ih =>
    rw [h.standing_concat hfits]
    exact hfits.nodup_after ih

end Lawful

/-! ## The calls -/

variable {σ : Type}

/-- The component after calls, one after the other. -/
def after (store : ItemStore σ) (c : Component σ) (calls : List Call) : Component σ :=
  calls.foldl (fun c call => (c.call store call).component) c

/-- What the calls lead to, one after the other. -/
def results (store : ItemStore σ) (c : Component σ) : List Call → List (Settled σ)
  | [] => []
  | call :: calls => c.call store call :: results store (c.call store call).component calls

theorem after_concat (store : ItemStore σ) (c : Component σ) (calls : List Call) (call : Call) :
    c.after store (calls ++ [call]) = ((c.after store calls).call store call).component :=
  List.foldl_concat _ _ _ _

theorem results_concat (store : ItemStore σ) (c : Component σ) (calls : List Call) (call : Call) :
    c.results store (calls ++ [call]) = c.results store calls ++ [(c.after store calls).call store call] := by
  induction calls generalizing c with
  | nil => rfl
  | cons first calls ih =>
    rw [List.cons_append, results, ih]
    rfl

/-- The component at its beginning: a list of `items`, bound to the list at `resource`. -/
def bound (items : List Item) (resource : String) (s : σ) : Component σ :=
  { list := ofItems items, resource, store := s }

/-- The writes of rounds, with their answers. -/
def attempts (rounds : List Round) : List Attempt := rounds.filterMap Round.attempt

/-- Rounds that tell the calls of a component which begins with the first of `items`. -/
structure Tells (store : ItemStore σ) (items : List Item) (c : Component σ) (called : List Call)
    (rounds : List Round) : Prop where
  /-- There is a round for each call, in order. -/
  calls : rounds.map Round.call = called
  /-- Each has the write that the items ask for which stand before it. -/
  lawful : Lawful items rounds
  /-- The items are those that stand after the rounds. -/
  items : (c.after store called).list.items = standing items rounds
  /-- Their keys differ. -/
  nodup : ((c.after store called).list.items.map Item.key).Nodup
  /-- The component stays with its list. -/
  resource : (c.after store called).resource = c.resource
  /-- The store has got the writes of the rounds, in order and for this list, and nothing else. -/
  received : store.writeAll c.resource c.store ((attempts rounds).map (·.write.item))
    = ((attempts rounds).map Attempt.answer, (c.after store called).store)
  /-- A call says whether its write was accepted. -/
  changed : (c.results store called).map Settled.changed = rounds.map Round.accepted
  /-- A call raises one alert if its write was refused, and otherwise none. -/
  alerts : (c.results store called).map Settled.alerts = rounds.map Round.alerts

/-- One call more is told by one round more. -/
theorem Tells.concat {store : ItemStore σ} {c : Component σ} {called : List Call}
    (h : Tells store items c called rounds)
    (hsettles : Settles store (c.after store called) round ((c.after store called).call store round.call)) :
    Tells store items c (called ++ [round.call]) (rounds ++ [round]) := by
  have hfits : round.Fits (standing items rounds) := h.items ▸ hsettles.fits
  have hlawful : Lawful items (rounds ++ [round]) := .concat h.lawful hfits
  have hitems : (c.after store (called ++ [round.call])).list.items = standing items (rounds ++ [round]) := by
    rw [after_concat, hsettles.items, h.items, h.lawful.standing_concat hfits]
  have hattempts : attempts (rounds ++ [round]) = attempts rounds ++ round.attempt.toList :=
    filterMap_concat _ _ _
  have hreceived := hsettles.received
  rw [h.resource] at hreceived
  constructor
  · rw [List.map_append, List.map_singleton, h.calls]
  · exact hlawful
  · exact hitems
  · rw [hitems]
    exact hlawful.nodup_standing
  · rw [after_concat, hsettles.resource, h.resource]
  · rw [hattempts, List.map_append, ItemStore.writeAll_append, h.received, hreceived, after_concat,
      List.map_append]
  · rw [results_concat, List.map_append, List.map_append, h.changed, List.map_singleton, List.map_singleton,
      hsettles.changed]
  · rw [results_concat, List.map_append, List.map_append, h.alerts, List.map_singleton, List.map_singleton,
      hsettles.alerts]

/-- **The history of a component.**  Whatever the store answers, rounds tell the calls: they give the items
    and their flags, everything that the store has got, what each call has said, and the alerts. -/
theorem calls_told (store : ItemStore σ) (items : List Item) (resource : String) (s : σ) (calls : List Call) :
    ∃ rounds, Tells store items (bound items resource s) calls rounds := by
  induction calls using List.reverseRecOn with
  | nil =>
    refine ⟨[], rfl, .nil, ?_, TodoList.nodup_ofItems items, rfl, rfl, rfl, rfl⟩
    rw [standing_nil, ← TodoList.items_ofItems_eq_firsts]
    rfl
  | append_singleton calls call ih =>
    obtain ⟨rounds, h⟩ := ih
    obtain ⟨attempt, hsettles⟩ := settles_call store ((bound items resource s).after store calls) h.nodup call
    exact ⟨rounds ++ [⟨call, attempt⟩], h.concat hsettles⟩

/-- A new item is turned at once, while the other one stays as it is: its write is refused. -/
example :
    let c := (bound [{ name := "Milk", key := "1" }] "/l" { outcomes := [none, some (.status 500)] }).after
      ItemStore.prepared [.add " Tea ", .toggle "1", .add " ", .toggle "item2"]
    c.list.items = [{ name := "Milk", key := "1" }, { name := "Tea", done := true, key := "item2" }]
      ∧ c.store.writes
        = [("/l", { name := "Tea", key := "item2" }), ("/l", { name := "Milk", done := true, key := "1" }),
          ("/l", { name := "Tea", done := true, key := "item2" })] := by
  decide +kernel

end Component

end TodoSite
