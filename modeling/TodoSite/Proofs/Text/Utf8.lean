/-
  Writing a text as UTF-8 and reading it back.

  The reader is a machine that never fails: it writes U+FFFD where it cannot go on.  So "what was
  written is read back" says that on the bytes of a text the machine never comes to such a place.

  CRUX.  After the first byte of a character the machine accepts only a range of bytes, narrower
  than 80–BF after E0, ED, F0 and F4.  A character is written in the least number of bytes that
  hold it and is no surrogate: these two facts are what puts the second byte into its range.
-/
import TodoSite.Text.Utf8

namespace TodoSite.Text

/-! ## Bytes -/

theorem toNat_toUInt8 {n : Nat} (h : n < 256) : n.toUInt8.toNat = n := by
  show n % 256 = n
  omega

/-- The code point of a character: below the surrogates, or above them and at most 10FFFF. -/
theorem codePoint_range (c : Char) :
    c.toNat < 0xD800 ∨ (0xDFFF < c.toNat ∧ c.toNat < 0x110000) := c.valid

/-! ## Single bytes of a character -/

variable {value low high b : Nat}

/-- The last byte of a character completes it. -/
theorem decodeFrom_last (bytes : Bytes) (hb : b < 256) (hlow : low ≤ b) (hhigh : b ≤ high) :
    decodeFrom (some ⟨1, value, low, high⟩) (b.toUInt8 :: bytes)
      = Char.ofNat (value * 64 + (b - 0x80)) :: decodeFrom none bytes := by
  rw [decodeFrom, toNat_toUInt8 hb]
  simp only [Pending.step, if_pos (And.intro hlow hhigh), if_pos (Nat.le_refl 1)]
  rfl

/-- A byte in the range that is not the last one only adds its six bits. -/
theorem decodeFrom_more (due : Nat) (bytes : Bytes) (hb : b < 256) (hlow : low ≤ b)
    (hhigh : b ≤ high) :
    decodeFrom (some ⟨due + 2, value, low, high⟩) (b.toUInt8 :: bytes)
      = decodeFrom (some ⟨due + 1, value * 64 + (b - 0x80), 0x80, 0xBF⟩) bytes := by
  have hdue : ¬ due + 2 ≤ 1 := by omega
  rw [decodeFrom, toNat_toUInt8 hb]
  simp only [Pending.step, if_pos (And.intro hlow hhigh), if_neg hdue]
  rfl

/-- A first byte that begins a character writes nothing yet. -/
theorem decodeFrom_first {p : Pending} (bytes : Bytes) (hb : b < 256)
    (h : Pending.begin b = ([], some p)) :
    decodeFrom none (b.toUInt8 :: bytes) = decodeFrom (some p) bytes := by
  rw [decodeFrom, toNat_toUInt8 hb]
  simp only [Pending.step, h]
  rfl

/-! ## First bytes -/

/-- What the first byte of a character of three bytes leaves to come, `k` being its own four bits. -/
theorem begin_three {k : Nat} (hk : k < 16) :
    ∃ low high, Pending.begin (0xE0 + k) = ([], some ⟨2, k, low, high⟩)
      ∧ (k = 0 → low = 0xA0 ∧ high = 0xBF) ∧ (k = 13 → low = 0x80 ∧ high = 0x9F)
      ∧ (k ≠ 0 → k ≠ 13 → low = 0x80 ∧ high = 0xBF) := by
  unfold Pending.begin
  rw [if_neg (by omega), if_neg (by omega), if_neg (by omega)]
  by_cases h0 : k = 0
  · subst h0
    exact ⟨_, _, rfl, by omega, by omega, by omega⟩
  · rw [if_neg (by omega)]
    by_cases h13 : k = 13
    · subst h13
      exact ⟨_, _, rfl, by omega, by omega, by omega⟩
    · rw [if_neg (by omega), if_pos (by omega), Nat.add_sub_cancel_left]
      exact ⟨_, _, rfl, by omega, by omega, by omega⟩

/-- What the first byte of a character of four bytes leaves to come, `k` being its own three bits. -/
theorem begin_four {k : Nat} (hk : k < 5) :
    ∃ low high, Pending.begin (0xF0 + k) = ([], some ⟨3, k, low, high⟩)
      ∧ (k = 0 → low = 0x90 ∧ high = 0xBF) ∧ (k = 4 → low = 0x80 ∧ high = 0x8F)
      ∧ (k ≠ 0 → k ≠ 4 → low = 0x80 ∧ high = 0xBF) := by
  unfold Pending.begin
  rw [if_neg (by omega), if_neg (by omega), if_neg (by omega), if_neg (by omega),
    if_neg (by omega), if_neg (by omega)]
  by_cases h0 : k = 0
  · subst h0
    exact ⟨_, _, rfl, by omega, by omega, by omega⟩
  · rw [if_neg (by omega)]
    by_cases h4 : k = 4
    · subst h4
      exact ⟨_, _, rfl, by omega, by omega, by omega⟩
    · rw [if_pos (by omega), Nat.add_sub_cancel_left]
      exact ⟨_, _, rfl, by omega, by omega, by omega⟩

/-! ## Characters and texts -/

/-- **One character is read back**, whatever comes after it. -/
theorem decodeFrom_encodeChar (c : Char) (bytes : Bytes) :
    decodeFrom none (encodeChar c ++ bytes) = c :: decodeFrom none bytes := by
  have hrange := codePoint_range c
  have hc : Char.ofNat c.toNat = c := Char.ofNat_toNat c
  unfold encodeChar
  generalize c.toNat = n at hrange hc
  by_cases h1 : n < 0x80
  · -- one byte
    simp only [if_pos h1, List.cons_append, List.nil_append]
    rw [decodeFrom, toNat_toUInt8 (by omega)]
    simp only [Pending.step, Pending.begin, if_pos h1, hc]
    rfl
  by_cases h2 : n < 0x800
  · -- two bytes
    simp only [if_neg h1, if_pos h2, List.cons_append, List.nil_append]
    have hbegin : Pending.begin (0xC0 + n / 64) = ([], some ⟨1, n / 64, 0x80, 0xBF⟩) := by
      unfold Pending.begin
      rw [if_neg (by omega), if_neg (by omega), if_pos (by omega), Nat.add_sub_cancel_left]
    rw [decodeFrom_first _ (by omega) hbegin,
      decodeFrom_last _ (by omega) (by omega) (by omega)]
    have hn : n / 64 * 64 + (0x80 + n % 64 - 0x80) = n := by omega
    rw [hn, hc]
  by_cases h3 : n < 0x10000
  · -- three bytes
    simp only [if_neg h1, if_neg h2, if_pos h3, List.cons_append, List.nil_append]
    obtain ⟨low, high, hbegin, hE0, hED, helse⟩ := begin_three (show n / 4096 < 16 by omega)
    have hsecond : low ≤ 0x80 + n / 64 % 64 ∧ 0x80 + n / 64 % 64 ≤ high := by omega
    rw [decodeFrom_first _ (by omega) hbegin,
      decodeFrom_more 0 _ (by omega) hsecond.1 hsecond.2,
      decodeFrom_last _ (by omega) (by omega) (by omega)]
    have hn : (n / 4096 * 64 + (0x80 + n / 64 % 64 - 0x80)) * 64 + (0x80 + n % 64 - 0x80) = n := by
      omega
    rw [hn, hc]
  · -- four bytes
    simp only [if_neg h1, if_neg h2, if_neg h3, List.cons_append, List.nil_append]
    obtain ⟨low, high, hbegin, hF0, hF4, helse⟩ := begin_four (show n / 262144 < 5 by omega)
    have hsecond : low ≤ 0x80 + n / 4096 % 64 ∧ 0x80 + n / 4096 % 64 ≤ high := by omega
    rw [decodeFrom_first _ (by omega) hbegin,
      decodeFrom_more 1 _ (by omega) hsecond.1 hsecond.2,
      decodeFrom_more 0 _ (by omega) (by omega) (by omega),
      decodeFrom_last _ (by omega) (by omega) (by omega)]
    have hn : ((n / 262144 * 64 + (0x80 + n / 4096 % 64 - 0x80)) * 64 + (0x80 + n / 64 % 64 - 0x80))
        * 64 + (0x80 + n % 64 - 0x80) = n := by
      omega
    rw [hn, hc]

/-- Many characters are read back one after another. -/
theorem decodeFrom_flatMap_encodeChar (cs : List Char) :
    decodeFrom none (cs.flatMap encodeChar) = cs := by
  induction cs with
  | nil => rfl
  | cons c cs ih => rw [List.flatMap_cons, decodeFrom_encodeChar, ih]

/-- **Every text is read back from its bytes.** -/
theorem decodeLossy_encode (text : String) : decodeLossy (encode text) = text := by
  rw [decodeLossy, encode, decodeFrom_flatMap_encodeChar, String.ofList_toList]

/-- So no two texts have the same bytes. -/
theorem encode_inj {s t : String} (h : encode s = encode t) : s = t := by
  rw [← decodeLossy_encode s, h, decodeLossy_encode]

end TodoSite.Text
