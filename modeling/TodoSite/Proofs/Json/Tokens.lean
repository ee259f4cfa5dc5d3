/-
  The text of a JSON value, token by token.

  1. **Tokens** — the text of a value is a row of tokens: strings, and marks between them.  How the
     characters of a string are written is a parameter `q`; what `Json.render` writes is the case
     `q = quoted` (`toList_render`).

  2. **Work inside the strings** — a needle whose first character is in no mark, and which holds no
     quotation mark, occurs in such a text only inside a string (`infix_write_iff`), and so replacing
     it is replacing it in each of them (`replaceFrom_write`).

  CRUX.  The marks of every value lack the character `<` (`tokens_lack`).  So whatever looks like
  markup in the text of a value stands in one of its strings.
-/
import TodoSite.Proofs.Json.Strings

namespace TodoSite.Json

open Text

/-- A part of the text of a value. -/
inductive Token where
  /-- Characters between strings: brackets, commas and colons, words and numbers. -/
  | marks (cs : List Char)
  /-- A string. -/
  | text (s : String)

/-- The text of a token, where `q` writes the characters of a string. -/
def Token.write (q : List Char → List Char) : Token → List Char
  | marks cs => cs
  | text s => '"' :: (q s.toList ++ ['"'])

/-- The text of a row of tokens. -/
def write (q : List Char → List Char) (ts : List Token) : List Char :=
  ts.flatMap (Token.write q)

/-- The characters of a string as `Json.quote` writes them. -/
def quoted (s : List Char) : List Char :=
  s.flatMap quoteChar

/-- Rows of tokens with commas between them. -/
def separated : List (List Token) → List Token
  | [] => []
  | [ts] => ts
  | ts :: tss => ts ++ .marks [','] :: separated tss

mutual

/-- The tokens of a value. -/
def tokens : Json → List Token
  | null => [.marks "null".toList]
  | bool b => [.marks (if b then "true".toList else "false".toList)]
  | int n => [.marks (Int.repr n).toList]
  | text s => [.text s]
  | array elements => .marks ['['] :: (separated (elementTokens elements) ++ [.marks [']']])
  | object members => .marks ['\x7b'] :: (separated (memberTokens members) ++ [.marks ['\x7d']])

/-- The tokens of each element of an array. -/
def elementTokens : List Json → List (List Token)
  | [] => []
  | v :: vs => tokens v :: elementTokens vs

/-- The tokens of each member of an object. -/
def memberTokens : List (String × Json) → List (List Token)
  | [] => []
  | (name, v) :: ms => (.text name :: .marks [':'] :: tokens v) :: memberTokens ms

end

variable {q : List Char → List Char} {ts us : List Token}

theorem write_cons (t : Token) (ts : List Token) : write q (t :: ts) = t.write q ++ write q ts :=
  List.flatMap_cons

theorem write_append : write q (ts ++ us) = write q ts ++ write q us :=
  List.flatMap_append

/-- A string stands between two quotation marks. -/
theorem write_text_append (s : String) (rest : List Char) :
    Token.write q (.text s) ++ rest = '"' :: (q s.toList ++ '"' :: rest) := by
  rw [Token.write, List.cons_append, List.append_assoc]
  rfl

theorem write_text_cons (s : String) (ts : List Token) :
    write q (.text s :: ts) = [] ++ '"' :: (q s.toList ++ '"' :: write q ts) := by
  rw [write_cons, write_text_append]
  rfl

/-! ## Strings -/

theorem text_mem_separated {s : String} {tss : List (List Token)} :
    Token.text s ∈ separated tss ↔ ∃ ts ∈ tss, Token.text s ∈ ts := by
  induction tss with
  | nil => exact ⟨nofun, nofun⟩
  | cons ts tss ih =>
    cases tss with
    | nil => simp [separated]
    | cons us tss =>
      have hstep : Token.text s ∈ separated (ts :: us :: tss)
          ↔ Token.text s ∈ ts ∨ Token.text s ∈ separated (us :: tss) := by
        simp [separated]
      rw [hstep, ih]
      simp

theorem text_mem_text {s t : String} : Token.text s ∈ tokens (.text t) ↔ s = t := by
  simp [tokens]

/-- **The strings of an array** are those of its elements. -/
theorem text_mem_array {s : String} {vs : List Json} :
    Token.text s ∈ tokens (.array vs) ↔ ∃ v ∈ vs, Token.text s ∈ tokens v := by
  have helements : elementTokens vs = vs.map tokens := by
    induction vs with
    | nil => rfl
    | cons v vs ih => rw [elementTokens, ih, List.map_cons]
  have hinside : Token.text s ∈ tokens (.array vs) ↔ Token.text s ∈ separated (vs.map tokens) := by
    simp [tokens, helements]
  rw [hinside, text_mem_separated]
  constructor
  · rintro ⟨ts, hts, hs⟩
    obtain ⟨v, hv, rfl⟩ := List.mem_map.mp hts
    exact ⟨v, hv, hs⟩
  · rintro ⟨v, hv, hs⟩
    exact ⟨_, List.mem_map_of_mem hv, hs⟩

/-- **The strings of an object** are the names of its members and those of their values. -/
theorem text_mem_object {s : String} {ms : List (String × Json)} :
    Token.text s ∈ tokens (.object ms) ↔ ∃ m ∈ ms, s = m.1 ∨ Token.text s ∈ tokens m.2 := by
  have hmembers : memberTokens ms = ms.map fun m => .text m.1 :: .marks [':'] :: tokens m.2 := by
    induction ms with
    | nil => rfl
    | cons m ms ih => rw [memberTokens, ih, List.map_cons]
  have hinside : Token.text s ∈ tokens (.object ms) ↔ Token.text s ∈ separated (memberTokens ms) := by
    simp [tokens]
  have hmember : ∀ m : String × Json,
      Token.text s ∈ Token.text m.1 :: .marks [':'] :: tokens m.2
        ↔ s = m.1 ∨ Token.text s ∈ tokens m.2 := by
    simp
  rw [hinside, text_mem_separated, hmembers]
  constructor
  · rintro ⟨ts, hts, hs⟩
    obtain ⟨m, hm, rfl⟩ := List.mem_map.mp hts
    exact ⟨m, hm, (hmember m).mp hs⟩
  · rintro ⟨m, hm, hs⟩
    exact ⟨_, List.mem_map_of_mem hm, (hmember m).mpr hs⟩

/-! ## What is written -/

theorem toList_quote (s : String) : (quote s).toList = Token.write quoted (.text s) := by
  rw [quote, String.toList_ofList]
  rfl

theorem toList_commaSeparated {parts : List String} {tss : List (List Token)}
    (h : parts.map String.toList = tss.map (write quoted)) :
    (commaSeparated parts).toList = write quoted (separated tss) := by
  induction tss generalizing parts with
  | nil =>
    obtain rfl := List.map_eq_nil_iff.mp h
    rfl
  | cons ts tss ih =>
    obtain ⟨part, rest, rfl, hpart, hrest⟩ := List.map_eq_cons_iff.mp h
    cases tss with
    | nil =>
      obtain rfl := List.map_eq_nil_iff.mp hrest
      exact hpart
    | cons us tss =>
      obtain ⟨next, rest, rfl, -, -⟩ := List.map_eq_cons_iff.mp hrest
      rw [commaSeparated, separated, String.toList_append, String.toList_append, hpart, ih hrest,
        write_append, write_cons, List.append_assoc]
      · rfl
      · exact List.cons_ne_nil _ _
      · exact List.cons_ne_nil _ _

mutual

/-- **The text of a value** is what its tokens write. -/
theorem toList_render : ∀ v : Json, (render v).toList = write quoted (tokens v)
  | null => rfl
  | bool true => rfl
  | bool false => rfl
  | int n => (List.append_nil _).symm
  | text s => (toList_quote s).trans (List.append_nil _).symm
  | array elements => by
    rw [render, tokens, String.toList_append, String.toList_append,
      toList_commaSeparated (toList_renderElements elements), write_cons, write_append,
      List.append_assoc]
    rfl
  | object members => by
    rw [render, tokens, String.toList_append, String.toList_append,
      toList_commaSeparated (toList_renderMembers members), write_cons, write_append,
      List.append_assoc]
    rfl

theorem toList_renderElements : ∀ vs : List Json,
    (renderElements vs).map String.toList = (elementTokens vs).map (write quoted)
  | [] => rfl
  | v :: vs => by
    rw [renderElements, elementTokens, List.map_cons, List.map_cons, toList_render v,
      toList_renderElements vs]

theorem toList_renderMembers : ∀ ms : List (String × Json),
    (renderMembers ms).map String.toList = (memberTokens ms).map (write quoted)
  | [] => rfl
  | (name, v) :: ms => by
    rw [renderMembers, memberTokens, List.map_cons, List.map_cons, String.toList_append,
      String.toList_append, toList_render v, toList_renderMembers ms, write_cons, write_cons,
      toList_quote, List.append_assoc]
    rfl

end

/-! ## Marks -/

/-- Whether no mark holds `c`. -/
def Token.Lacks (c : Char) : Token → Prop
  | marks cs => c ∉ cs
  | text _ => True

theorem separated_lack {c : Char} (hc : c ≠ ',') {tss : List (List Token)}
    (h : ∀ ts ∈ tss, ∀ t ∈ ts, t.Lacks c) : ∀ t ∈ separated tss, t.Lacks c := by
  induction tss with
  | nil =>
    intro t ht
    cases ht
  | cons ts tss ih =>
    have hrest := ih fun us hus => h us (List.mem_cons_of_mem _ hus)
    cases tss with
    | nil => exact h ts List.mem_cons_self
    | cons us tss =>
      intro t ht
      rw [separated] at ht
      · rcases List.mem_append.mp ht with ht | ht
        · exact h ts List.mem_cons_self t ht
        · rcases List.mem_cons.mp ht with rfl | ht
          · exact fun hmem => hc (List.mem_singleton.mp hmem)
          · exact hrest t ht
      · exact List.cons_ne_nil _ _

/-- Brackets around a row of tokens. -/
theorem bracketed_lack {c opening closing : Char} (ho : c ≠ opening) (hc : c ≠ closing)
    (h : ∀ t ∈ ts, t.Lacks c) :
    ∀ t ∈ Token.marks [opening] :: (ts ++ [.marks [closing]]), t.Lacks c := by
  intro t ht
  rcases List.mem_cons.mp ht with rfl | ht
  · exact fun hmem => ho (List.mem_singleton.mp hmem)
  · rcases List.mem_append.mp ht with ht | ht
    · exact h t ht
    · obtain rfl := List.mem_singleton.mp ht
      exact fun hmem => hc (List.mem_singleton.mp hmem)

theorem not_mem_repr (n : Int) : '<' ∉ (Int.repr n).toList := by
  have hdigits : ∀ m : Nat, '<' ∉ (Nat.repr m).toList := by
    intro m hmem
    rw [Nat.repr, String.toList_ofList] at hmem
    exact absurd (Nat.isDigit_of_mem_toDigits (by decide) (by decide) hmem) (by decide)
  cases n with
  | ofNat m => exact hdigits m
  | negSucc m =>
    show '<' ∉ ("-" ++ Nat.repr (m + 1)).toList
    rw [String.toList_append, List.mem_append]
    rintro (h | h)
    · exact absurd h (by decide)
    · exact hdigits _ h

mutual

/-- **Outside its strings** the text of a value has no `<`. -/
theorem tokens_lack : ∀ v : Json, ∀ t ∈ tokens v, t.Lacks '<'
  | null, _, ht => List.mem_singleton.mp ht ▸ (by decide : '<' ∉ "null".toList)
  | bool true, _, ht => List.mem_singleton.mp ht ▸ (by decide : '<' ∉ "true".toList)
  | bool false, _, ht => List.mem_singleton.mp ht ▸ (by decide : '<' ∉ "false".toList)
  | int n, _, ht => List.mem_singleton.mp ht ▸ not_mem_repr n
  | text _, _, ht => List.mem_singleton.mp ht ▸ trivial
  | array elements, t, ht =>
    bracketed_lack (by decide) (by decide)
      (separated_lack (by decide) (elementTokens_lack elements)) t ht
  | object members, t, ht =>
    bracketed_lack (by decide) (by decide)
      (separated_lack (by decide) (memberTokens_lack members)) t ht

theorem elementTokens_lack : ∀ vs : List Json, ∀ ts ∈ elementTokens vs, ∀ t ∈ ts, t.Lacks '<'
  | [], _, hts => absurd hts List.not_mem_nil
  | v :: vs, ts, hts => by
    rcases List.mem_cons.mp hts with rfl | hts
    · exact tokens_lack v
    · exact elementTokens_lack vs ts hts

theorem memberTokens_lack : ∀ ms : List (String × Json), ∀ ts ∈ memberTokens ms,
    ∀ t ∈ ts, t.Lacks '<'
  | [], _, hts => absurd hts List.not_mem_nil
  | (name, v) :: ms, ts, hts => by
    rcases List.mem_cons.mp hts with rfl | hts
    · intro t ht
      rcases List.mem_cons.mp ht with rfl | ht
      · trivial
      · rcases List.mem_cons.mp ht with rfl | ht
        · exact (by decide : '<' ∉ [':'])
        · exact tokens_lack v t ht
    · exact memberTokens_lack ms ts hts

end

/-! ## Needles -/

section Needles

variable {d : Char} {ds : List Char}

/-- **A needle that no mark can begin** occurs in the text only inside a string. -/
theorem infix_write_iff (hlack : ∀ t ∈ ts, t.Lacks d) (hquote : '"' ∉ d :: ds) :
    d :: ds <:+: write q ts ↔ ∃ s, Token.text s ∈ ts ∧ d :: ds <:+: q s.toList := by
  induction ts with
  | nil => exact ⟨fun h => absurd (List.infix_nil.mp h) (List.cons_ne_nil _ _), nofun⟩
  | cons t ts ih =>
    have hrest := ih fun u hu => hlack u (List.mem_cons_of_mem _ hu)
    cases t with
    | marks cs =>
      have hcs : d ∉ cs := hlack _ List.mem_cons_self
      rw [write_cons, Token.write, infix_append_iff_of_not_mem hcs]
      refine hrest.trans (exists_congr fun s => and_congr_left fun _ => ?_)
      rw [List.mem_cons]
      exact ⟨Or.inr, fun h => h.resolve_left nofun⟩
    | text s =>
      rw [write_text_cons, infix_append_cons_iff hquote, infix_append_cons_iff hquote,
        List.infix_nil]
      constructor
      · rintro (h | h | h)
        · exact absurd h (List.cons_ne_nil _ _)
        · exact ⟨s, List.mem_cons_self, h⟩
        · obtain ⟨u, hu, hinfix⟩ := hrest.mp h
          exact ⟨u, List.mem_cons_of_mem _ hu, hinfix⟩
      · rintro ⟨u, hu, hinfix⟩
        rcases List.mem_cons.mp hu with he | hu
        · cases he
          exact Or.inr (Or.inl hinfix)
        · exact Or.inr (Or.inr (hrest.mpr ⟨u, hu, hinfix⟩))

/-- A text is apart from such a needle when none of its strings holds the needle. -/
theorem apart_write (hlack : ∀ t ∈ ts, t.Lacks d) (hquote : '"' ∉ d :: ds)
    (h : ∀ s, Token.text s ∈ ts → ¬ d :: ds <:+: q s.toList) :
    apart (d :: ds) (write q ts) = true := by
  induction ts with
  | nil => rfl
  | cons t ts ih =>
    have hrest := ih (fun u hu => hlack u (List.mem_cons_of_mem _ hu))
      fun s hs => h s (List.mem_cons_of_mem _ hs)
    rw [write_cons]
    refine apart_append ?_ hrest
    cases t with
    | marks cs => exact apart_of_not_mem (hlack _ List.mem_cons_self)
    | text s =>
      have hopen : d ∉ ['"'] := fun hmem =>
        hquote (List.mem_singleton.mp hmem ▸ List.mem_cons_self)
      have hcontent := apart_concat (h s List.mem_cons_self) hquote
      exact apart_append (apart_of_not_mem hopen) hcontent

/-- **Replacing such a needle** is replacing it in each string, whatever comes after the text. -/
theorem replaceFrom_write (hlack : ∀ t ∈ ts, t.Lacks d) (hquote : '"' ∉ d :: ds)
    (insert rest : List Char) :
    replaceFrom (d :: ds) insert 0 (write q ts ++ rest)
      = write (fun s => replaceFrom (d :: ds) insert 0 (q s)) ts
        ++ replaceFrom (d :: ds) insert 0 rest := by
  induction ts with
  | nil => rfl
  | cons t ts ih =>
    have hrest := ih fun u hu => hlack u (List.mem_cons_of_mem _ hu)
    cases t with
    | marks cs =>
      have hcs : d ∉ cs := hlack _ List.mem_cons_self
      rw [write_cons, write_cons, Token.write, List.append_assoc,
        replaceFrom_append (apart_of_not_mem hcs), hrest, Token.write, List.append_assoc]
    | text s =>
      have hne : d :: ds ≠ [] := List.cons_ne_nil _ _
      rw [write_cons, write_cons, List.append_assoc, write_text_append, List.append_assoc,
        write_text_append, ← hrest, replaceFrom_cons_of_not_mem hne hquote,
        replaceFrom_append_cons hne hquote (Nat.zero_le _)]

end Needles

end TodoSite.Json
