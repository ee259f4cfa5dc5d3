/-
  Form bodies are read back.

  1. **Bytes** — one byte is written as a plain character, as `+`, or as `%` and two digits; each of
     the three is read back as that byte, whatever follows it.

  2. **Parts** — a part is the bytes of a text.  None of the characters written for it is `&` or `=`,
     so the marks between parts are found where they were put.

  3. **Pairs** — no pair is written as nothing, since it has its `=`; so no pair is passed over.
-/
import TodoSite.Form
import TodoSite.Proofs.Text.Pieces
import TodoSite.Proofs.Text.Utf8

namespace TodoSite.Form

open Text (Bytes)

/-! ## Characters as bytes -/

/-- The bytes of a list of characters. -/
def bytesOf (cs : List Char) : Bytes := cs.flatMap Text.encodeChar

theorem encode_ofList (cs : List Char) : Text.encode (String.ofList cs) = bytesOf cs := by
  rw [Text.encode, String.toList_ofList, bytesOf]

theorem bytesOf_append (cs ds : List Char) : bytesOf (cs ++ ds) = bytesOf cs ++ bytesOf ds :=
  List.flatMap_append

theorem bytesOf_cons_ascii {n : Nat} (hn : n < 0x80) (cs : List Char) :
    bytesOf (Char.ofNat n :: cs) = n.toUInt8 :: bytesOf cs := by
  have hc : (Char.ofNat n).toNat = n := by
    unfold Char.ofNat
    rw [dif_pos (Or.inl (by omega))]
    rfl
  have henc : Text.encodeChar (Char.ofNat n) = [n.toUInt8] := by
    unfold Text.encodeChar
    rw [hc]
    exact if_pos hn
  rw [bytesOf, List.flatMap_cons, henc]
  rfl

/-! ## One byte -/

/-- The code of the digit for `n`. -/
def digitCode (n : Nat) : Nat := if n < 10 then 0x30 + n else 0x37 + n

theorem digitCode_lt {n : Nat} (hn : n < 16) : digitCode n < 0x80 := by
  unfold digitCode
  split <;> omega

theorem hexValue?_digitCode : ∀ n < 16, hexValue? (digitCode n).toUInt8 = some n := by decide

theorem hexByte?_digits (b : UInt8) :
    hexByte? (digitCode (b.toNat / 16)).toUInt8 (digitCode (b.toNat % 16)).toUInt8 = some b := by
  have hb : b.toNat < 256 := b.toNat_lt
  unfold hexByte?
  rw [hexValue?_digitCode _ (by omega), hexValue?_digitCode _ (by omega)]
  have hsum : b.toNat / 16 * 16 + b.toNat % 16 = b.toNat := by omega
  show some (b.toNat / 16 * 16 + b.toNat % 16).toUInt8 = some b
  rw [hsum]
  exact congrArg some (UInt8.ofNat_toNat (x := b))

/-- The bytes in which one byte of a part travels. -/
def wire (b : UInt8) : Bytes :=
  if isPlain b then [b]
  else if b = 0x20 then [0x2B]
  else [0x25, (digitCode (b.toNat / 16)).toUInt8, (digitCode (b.toNat % 16)).toUInt8]

theorem isPlain_lt : ∀ n < 256, isPlain n.toUInt8 = true → n < 0x80 := by decide +kernel

theorem bytesOf_encodeByte (b : UInt8) : bytesOf (encodeByte b) = wire b := by
  have hb : b.toNat < 256 := b.toNat_lt
  unfold encodeByte wire
  by_cases hp : isPlain b = true
  · -- a plain byte is its own character
    have hlt : b.toNat < 0x80 := by
      refine isPlain_lt b.toNat hb ?_
      rwa [show b.toNat.toUInt8 = b from UInt8.ofNat_toNat]
    rw [if_pos hp, if_pos hp, bytesOf_cons_ascii hlt,
      show b.toNat.toUInt8 = b from UInt8.ofNat_toNat]
    rfl
  · rw [if_neg hp, if_neg hp]
    by_cases hs : b = 0x20
    · rw [if_pos hs, if_pos hs]
      rfl
    · rw [if_neg hs, if_neg hs]
      show bytesOf (Char.ofNat 0x25 :: Char.ofNat (digitCode (b.toNat / 16))
        :: [Char.ofNat (digitCode (b.toNat % 16))]) = _
      rw [bytesOf_cons_ascii (by omega), bytesOf_cons_ascii (digitCode_lt (by omega)),
        bytesOf_cons_ascii (digitCode_lt (by omega))]
      rfl

/-- Neither the mark between pairs nor the one between parts is written for a byte. -/
theorem wire_clean : ∀ n < 256, (0x26 : UInt8) ∉ wire n.toUInt8 ∧ (0x3D : UInt8) ∉ wire n.toUInt8 := by
  decide +kernel

/-! ## Reading one byte -/

/-- A plus sign of a body as the space that it stands for. -/
def unplus (b : UInt8) : UInt8 := if b = 0x2B then 0x20 else b

theorem percentDecode_cons_ne {b : UInt8} (hb : b ≠ 0x25) (bytes : Bytes) :
    percentDecode (b :: bytes) = b :: percentDecode bytes := by
  match bytes with
  | [] => rfl
  | [_] => rfl
  | _ :: _ :: _ => rw [percentDecode, if_neg hb]

theorem unplus_plain : ∀ n < 256, isPlain n.toUInt8 = true →
    unplus n.toUInt8 = n.toUInt8 ∧ n.toUInt8 ≠ 0x25 := by
  decide +kernel

theorem unplus_digitCode : ∀ n < 16, unplus (digitCode n).toUInt8 = (digitCode n).toUInt8 := by
  decide

/-- **One byte is read back**, whatever comes after it. -/
theorem percentDecode_wire (b : UInt8) (bytes : Bytes) :
    percentDecode ((wire b ++ bytes).map unplus) = b :: percentDecode (bytes.map unplus) := by
  have hb : b.toNat < 256 := b.toNat_lt
  unfold wire
  by_cases hp : isPlain b = true
  · have hplain := unplus_plain b.toNat hb
    rw [show b.toNat.toUInt8 = b from UInt8.ofNat_toNat] at hplain
    obtain ⟨hkept, hne⟩ := hplain hp
    rw [if_pos hp, List.cons_append, List.map_cons, hkept, percentDecode_cons_ne hne]
    rfl
  · rw [if_neg hp]
    by_cases hs : b = 0x20
    · subst hs
      rw [if_pos rfl, List.cons_append, List.map_cons]
      exact percentDecode_cons_ne (by decide) _
    · rw [if_neg hs]
      show percentDecode (unplus 0x25 :: unplus (digitCode (b.toNat / 16)).toUInt8
        :: unplus (digitCode (b.toNat % 16)).toUInt8 :: bytes.map unplus) = _
      rw [unplus_digitCode _ (by omega), unplus_digitCode _ (by omega),
        show unplus 0x25 = 0x25 from rfl, percentDecode, if_pos rfl, hexByte?_digits]

/-! ## Parts -/

theorem bytesOf_encodePart (part : String) :
    bytesOf (encodePart part) = (Text.encode part).flatMap wire := by
  rw [encodePart]
  induction Text.encode part with
  | nil => rfl
  | cons b bytes ih =>
    rw [List.flatMap_cons, bytesOf_append, bytesOf_encodeByte, ih, List.flatMap_cons]

theorem percentDecode_flatMap_wire (bytes : Bytes) :
    percentDecode ((bytes.flatMap wire).map unplus) = bytes := by
  induction bytes with
  | nil => rfl
  | cons b bytes ih => rw [List.flatMap_cons, percentDecode_wire, ih]

/-- **A part is read back.** -/
theorem decodePart_encodePart (part : String) : decodePart (bytesOf (encodePart part)) = part := by
  show Text.decodeLossy (percentDecode ((bytesOf (encodePart part)).map unplus)) = part
  rw [bytesOf_encodePart, percentDecode_flatMap_wire, Text.decodeLossy_encode]

theorem clean_encodePart (part : String) :
    (0x26 : UInt8) ∉ bytesOf (encodePart part) ∧ (0x3D : UInt8) ∉ bytesOf (encodePart part) := by
  rw [bytesOf_encodePart]
  have hclean : ∀ b : UInt8, (0x26 : UInt8) ∉ wire b ∧ (0x3D : UInt8) ∉ wire b := by
    intro b
    have h := wire_clean b.toNat b.toNat_lt
    rwa [show b.toNat.toUInt8 = b from UInt8.ofNat_toNat] at h
  constructor
  · intro hm
    obtain ⟨b, -, hb⟩ := List.mem_flatMap.mp hm
    exact (hclean b).1 hb
  · intro hm
    obtain ⟨b, -, hb⟩ := List.mem_flatMap.mp hm
    exact (hclean b).2 hb

/-! ## Pairs -/

theorem bytesOf_encodePair (pair : String × String) :
    bytesOf (encodePair pair) = bytesOf (encodePart pair.1) ++ 0x3D :: bytesOf (encodePart pair.2) := by
  rw [encodePair, bytesOf_append]
  exact congrArg _ (bytesOf_cons_ascii (n := 0x3D) (by omega) _)

/-- A pair is read back. -/
theorem decodePair_encodePair (pair : String × String) : decodePair (bytesOf (encodePair pair)) = pair := by
  rw [bytesOf_encodePair, decodePair, Text.cutAt_append _ (clean_encodePart pair.1).2]
  show (decodePart _, decodePart _) = pair
  rw [decodePart_encodePart, decodePart_encodePart]

theorem bytesOf_encodePair_ne_nil (pair : String × String) : bytesOf (encodePair pair) ≠ [] := by
  rw [bytesOf_encodePair]
  exact List.append_ne_nil_of_right_ne_nil _ (List.cons_ne_nil _ _)

theorem pieces_encodePair (pair : String × String) :
    Text.pieces 0x26 (bytesOf (encodePair pair)) = [bytesOf (encodePair pair)] := by
  refine Text.pieces_eq_singleton ?_
  -- no `&` in either part, and the `=` between them is none
  rw [bytesOf_encodePair]
  intro hm
  rcases List.mem_append.mp hm with hm | hm
  · exact (clean_encodePart pair.1).1 hm
  · rcases List.mem_cons.mp hm with he | hm
    · exact absurd he (by decide)
    · exact (clean_encodePart pair.2).1 hm

theorem encodePairs_cons_cons (pair next : String × String) (pairs : List (String × String)) :
    encodePairs (pair :: next :: pairs) = encodePair pair ++ '&' :: encodePairs (next :: pairs) := rfl

/-- The pieces of a body, empty ones left out, are its pairs. -/
theorem pieces_encodePairs (pairs : List (String × String)) :
    (Text.pieces 0x26 (bytesOf (encodePairs pairs))).filter (· ≠ [])
      = pairs.map fun pair => bytesOf (encodePair pair) := by
  have hkeep : ∀ pair : String × String,
      [bytesOf (encodePair pair)].filter (· ≠ []) = [bytesOf (encodePair pair)] := fun pair =>
    List.filter_cons_of_pos (decide_eq_true (bytesOf_encodePair_ne_nil pair))
  induction pairs with
  | nil => rfl
  | cons pair pairs ih =>
    cases pairs with
    | nil => rw [encodePairs, pieces_encodePair, hkeep]; rfl
    | cons next pairs =>
      -- the `&` between the pairs is where the body is cut
      have hamp : bytesOf ('&' :: encodePairs (next :: pairs))
          = 0x26 :: bytesOf (encodePairs (next :: pairs)) :=
        bytesOf_cons_ascii (n := 0x26) (by omega) _
      rw [encodePairs_cons_cons, bytesOf_append, hamp, Text.pieces_append,
        pieces_encodePair, List.filter_append, hkeep, ih, List.map_cons]
      rfl

/-- **A form body is read back**: the pairs that it was made of, in their order and no others. -/
theorem decode_encode (pairs : List (String × String)) :
    decode (Text.encode (encode pairs)) = pairs := by
  rw [encode, encode_ofList, decode, pieces_encodePairs, List.map_map]
  calc pairs.map (decodePair ∘ fun pair => bytesOf (encodePair pair))
      = pairs.map id := List.map_congr_left fun pair _ => decodePair_encodePair pair
    _ = pairs := List.map_id pairs

end TodoSite.Form
