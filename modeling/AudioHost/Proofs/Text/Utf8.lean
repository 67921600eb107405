import AudioHost.Text.Utf8

/-!
A text comes back from its bytes.
-/

namespace AudioHost.Utf8

/-! ## Bytes in turn -/

theorem toNat_byte {n : Nat} (h : n < 256) : (UInt8.ofNat n).toNat = n := by
  rw [UInt8.toNat_ofNat']
  omega

theorem opening_one {n : Nat} (h : n < 0x80) : opening (.ofNat n) = .char (Char.ofNat n) := by
  simp only [opening, toNat_byte (show n < 256 by omega), if_pos h]

theorem opening_two {n : Nat} (hlow : 0xC2 ≤ n) (hhigh : n < 0xE0) :
    opening (.ofNat n) = .lead ⟨1, 0x80, 0xBF, n - 0xC0, 1⟩ := by
  simp only [opening, toNat_byte (show n < 256 by omega)]
  rw [if_neg (by omega), if_neg (by omega), if_pos hhigh]

theorem opening_three {n : Nat} (hlow : 0xE0 ≤ n) (hhigh : n < 0xF0) :
    opening (.ofNat n) = .lead ⟨2, if n = 0xE0 then 0xA0 else 0x80,
      if n = 0xED then 0x9F else 0xBF, n - 0xE0, 1⟩ := by
  simp only [opening, toNat_byte (show n < 256 by omega)]
  rw [if_neg (by omega), if_neg (by omega), if_neg (by omega), if_pos hhigh]

theorem opening_four {n : Nat} (hlow : 0xF0 ≤ n) (hhigh : n < 0xF5) :
    opening (.ofNat n) = .lead ⟨3, if n = 0xF0 then 0x90 else 0x80,
      if n = 0xF4 then 0x8F else 0xBF, n - 0xF0, 1⟩ := by
  simp only [opening, toNat_byte (show n < 256 by omega)]
  rw [if_neg (by omega), if_neg (by omega), if_neg (by omega), if_neg (by omega), if_pos hhigh]

theorem piecesFrom_lead {b : UInt8} {p : Pending} (h : opening b = .lead p) (bs : List UInt8) :
    piecesFrom none (b :: bs) = piecesFrom (some p) bs := by
  rw [piecesFrom, h]

section Tail

variable {low high bits : Nat} (value taken : Nat) (bs : List UInt8)

/-- The last tail byte, by the six bits that it adds. -/
theorem piecesFrom_last (hlow : low ≤ bits + 0x80) (hhigh : bits + 0x80 ≤ high) (h : bits < 64) :
    piecesFrom (some ⟨1, low, high, value, taken⟩) (.ofNat (bits + 0x80) :: bs) =
      .char (Char.ofNat (value * 64 + bits)) :: piecesFrom none bs := by
  simp only [piecesFrom, Pending.extend, toNat_byte (show bits + 0x80 < 256 by omega)]
  rw [if_pos ⟨hlow, hhigh⟩, Nat.add_sub_cancel, if_pos trivial]

/-- A tail byte before the last one, by the six bits that it adds. -/
theorem piecesFrom_tail (owed : Nat) (hlow : low ≤ bits + 0x80) (hhigh : bits + 0x80 ≤ high)
    (h : bits < 64) :
    piecesFrom (some ⟨owed + 2, low, high, value, taken⟩) (.ofNat (bits + 0x80) :: bs) =
      piecesFrom (some ⟨owed + 1, 0x80, 0xBF, value * 64 + bits, taken + 1⟩) bs := by
  simp only [piecesFrom, Pending.extend, toNat_byte (show bits + 0x80 < 256 by omega)]
  rw [if_pos ⟨hlow, hhigh⟩, Nat.add_sub_cancel, if_neg (by omega)]
  rfl

end Tail

/-! ## Characters -/

/-- The number of a character is below the surrogates, or above them and below the end. -/
theorem toNat_valid (c : Char) : c.toNat < 0xD800 ∨ 0xDFFF < c.toNat ∧ c.toNat < 0x110000 := c.valid

/-- The bytes of a character are read as that character. -/
theorem piecesFrom_encodeChar (c : Char) (bs : List UInt8) :
    piecesFrom none (encodeChar c ++ bs) = .char c :: piecesFrom none bs := by
  have hvalid := toNat_valid c
  have hback := Char.ofNat_toNat c
  simp only [encodeChar, String.utf8EncodeChar, show c.val.toNat = c.toNat from rfl]
  generalize c.toNat = n at *
  -- By the number of bytes.
  split
  · rw [List.singleton_append, piecesFrom, opening_one (by omega), hback]
  split
  · rw [List.cons_append, piecesFrom_lead (opening_two (by omega) (by omega)),
      List.singleton_append, piecesFrom_last _ _ _ (by omega) (by omega) (by omega),
      show (n / 64 % 32 + 192 - 192) * 64 + n % 64 = n by omega, hback]
  split
  · rw [List.cons_append, piecesFrom_lead (opening_three (by omega) (by omega)),
      List.cons_append,
      piecesFrom_tail _ _ _ 0 (by split <;> omega) (by split <;> omega) (by omega),
      List.singleton_append, piecesFrom_last _ _ _ (by omega) (by omega) (by omega),
      show ((n / 4096 % 16 + 224 - 224) * 64 + n / 64 % 64) * 64 + n % 64 = n by omega, hback]
  · rw [List.cons_append, piecesFrom_lead (opening_four (by omega) (by omega)),
      List.cons_append,
      piecesFrom_tail _ _ _ 1 (by split <;> omega) (by split <;> omega) (by omega),
      List.cons_append, piecesFrom_tail _ _ _ 0 (by omega) (by omega) (by omega),
      List.singleton_append, piecesFrom_last _ _ _ (by omega) (by omega) (by omega),
      show (((n / 262144 % 8 + 240 - 240) * 64 + n / 4096 % 64) * 64 + n / 64 % 64) * 64 + n % 64 =
        n by omega, hback]

/-- A byte below 128 stands for itself only. -/
theorem toNat_of_mem_encodeChar {b : UInt8} {c : Char} (h : b ∈ encodeChar c)
    (hb : b.toNat < 0x80) : c.toNat = b.toNat := by
  have hvalid := toNat_valid c
  simp only [encodeChar, String.utf8EncodeChar, show c.val.toNat = c.toNat from rfl] at h
  generalize c.toNat = n at *
  -- Every byte of a longer character has its highest bit set.
  split at h
  · rw [List.mem_singleton.mp h, toNat_byte (by omega)]
  split at h
  · simp only [List.mem_cons, List.not_mem_nil, or_false] at h
    rcases h with rfl | rfl <;> (rw [toNat_byte (by omega)] at hb; omega)
  split at h
  · simp only [List.mem_cons, List.not_mem_nil, or_false] at h
    rcases h with rfl | rfl | rfl <;> (rw [toNat_byte (by omega)] at hb; omega)
  · simp only [List.mem_cons, List.not_mem_nil, or_false] at h
    rcases h with rfl | rfl | rfl | rfl <;> (rw [toNat_byte (by omega)] at hb; omega)

/-! ## Texts -/

theorem pieces_encode (s : String) : pieces (encode s) = s.toList.map .char := by
  rw [pieces, encode]
  induction s.toList with
  | nil => rfl
  | cons c cs ih => rw [List.flatMap_cons, piecesFrom_encodeChar, ih, List.map_cons]

theorem mem_of_mem_encode {b : UInt8} {s : String} (h : b ∈ encode s) (hb : b.toNat < 0x80) :
    Char.ofNat b.toNat ∈ s.toList := by
  obtain ⟨c, hc, hbyte⟩ := List.mem_flatMap.mp h
  rwa [← toNat_of_mem_encodeChar hbyte hb, Char.ofNat_toNat]

theorem sound_chars (index : Nat) (cs : List Char) : sound index (cs.map .char) = .ok cs := by
  induction cs generalizing index with
  | nil => rfl
  | cons c cs ih =>
    rw [List.map_cons, sound, ih]
    rfl

/-- A text comes back from its bytes. -/
theorem decode_encode (s : String) : decode (encode s) = .ok s := by
  rw [decode, pieces_encode, sound_chars]
  simp [Except.map]

end AudioHost.Utf8
