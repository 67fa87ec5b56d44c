import SqlToolkit.Text.Utf8

/-!
# UTF-8 is read back

A character has one byte to four, by its code. Its bytes are read as this character, and nothing of
them is left over.
-/

namespace SqlToolkit.Text.Utf8

def bytes (c : Char) : List Nat := (String.utf8EncodeChar c).map UInt8.toNat

def readBytes (pending : Option Pending) : List Nat → List Char × Option Pending
  | [] => ([], pending)
  | byte :: rest =>
    let (chars, next) := step pending byte
    (chars ++ (readBytes next rest).1, (readBytes next rest).2)

variable {c : Char}

theorem bytes_ne_nil (c : Char) : bytes c ≠ [] := by
  simp [bytes]

theorem lt_of_mem_bytes {byte : Nat} (h : byte ∈ bytes c) : byte < 256 := by
  obtain ⟨small, -, rfl⟩ := List.mem_map.mp h
  exact small.toNat_lt

/-! ## The bytes by the code -/

theorem toNat_ofNat {n : Nat} (h : n < 256) : (UInt8.ofNat n).toNat = n :=
  UInt8.toNat_ofNat_of_lt' h

theorem bytes_one (h : c.toNat < 0x80) : bytes c = [c.toNat] := by
  have hle : c.toNat ≤ 127 := by omega
  simp only [bytes, String.utf8EncodeChar, Char.toNat_val, hle, if_true, List.map_cons, List.map_nil]
  rw [toNat_ofNat (by omega)]

theorem bytes_two (hlow : 0x80 ≤ c.toNat) (h : c.toNat < 0x800) :
    bytes c = [0xc0 + c.toNat / 64, 0x80 + c.toNat % 64] := by
  have hone : ¬ c.toNat ≤ 127 := by omega
  have htwo : c.toNat ≤ 2047 := by omega
  simp only [bytes, String.utf8EncodeChar, Char.toNat_val, hone, htwo, if_true, if_false,
    List.map_cons, List.map_nil]
  rw [toNat_ofNat (by omega), toNat_ofNat (by omega)]
  congr 1 <;> grind

theorem bytes_three (hlow : 0x800 ≤ c.toNat) (h : c.toNat < 0x10000) :
    bytes c = [0xe0 + c.toNat / 4096, 0x80 + c.toNat / 64 % 64, 0x80 + c.toNat % 64] := by
  have hone : ¬ c.toNat ≤ 127 := by omega
  have htwo : ¬ c.toNat ≤ 2047 := by omega
  have hthree : c.toNat ≤ 65535 := by omega
  simp only [bytes, String.utf8EncodeChar, Char.toNat_val, hone, htwo, hthree, if_true, if_false,
    List.map_cons, List.map_nil]
  rw [toNat_ofNat (by omega), toNat_ofNat (by omega), toNat_ofNat (by omega)]
  congr 1 <;> grind

theorem bytes_four (hlow : 0x10000 ≤ c.toNat) (h : c.toNat < 0x110000) :
    bytes c = [0xf0 + c.toNat / 262144, 0x80 + c.toNat / 4096 % 64, 0x80 + c.toNat / 64 % 64,
      0x80 + c.toNat % 64] := by
  have hone : ¬ c.toNat ≤ 127 := by omega
  have htwo : ¬ c.toNat ≤ 2047 := by omega
  have hthree : ¬ c.toNat ≤ 65535 := by omega
  simp only [bytes, String.utf8EncodeChar, Char.toNat_val, hone, htwo, hthree, if_false,
    List.map_cons, List.map_nil]
  rw [toNat_ofNat (by omega), toNat_ofNat (by omega), toNat_ofNat (by omega), toNat_ofNat (by omega)]
  congr 1 <;> grind

/-! ## Reading the bytes -/

/-- A byte that fits goes on with the character. -/
theorem step_next {code missing low high bits : Nat} (hlow : low ≤ 0x80 + bits)
    (hhigh : 0x80 + bits ≤ high) :
    step (some ⟨code, missing + 2, low, high⟩) (0x80 + bits) =
      ([], some ⟨code * 64 + bits, missing + 1, 0x80, 0xbf⟩) := by
  simp [step, hlow, hhigh]

/-- The last byte completes the character. -/
theorem step_last (c : Char) :
    step (some ⟨c.toNat / 64, 1, 0x80, 0xbf⟩) (0x80 + c.toNat % 64) = ([c], none) := by
  have hhigh : 0x80 + c.toNat % 64 ≤ 0xbf := by omega
  have hcode : c.toNat / 64 * 64 + c.toNat % 64 = c.toNat := by omega
  simp [step, hhigh, hcode, Char.ofNat_toNat]

theorem step_two {bits : Nat} (hlow : 2 ≤ bits) (h : bits < 0x20) :
    step none (0xc0 + bits) = ([], some ⟨bits, 1, 0x80, 0xbf⟩) := by
  unfold step start
  rw [if_neg (by omega), if_neg (by omega), if_pos (by omega), Nat.add_sub_cancel_left]

theorem step_three {bits : Nat} (h : bits < 0x10) :
    step none (0xe0 + bits) = ([], some ⟨bits, 2, if bits = 0 then 0xa0 else 0x80,
      if bits = 13 then 0x9f else 0xbf⟩) := by
  unfold step start
  rw [if_neg (by omega), if_neg (by omega), if_neg (by omega), if_pos (by omega),
    Nat.add_sub_cancel_left]
  simp only [Nat.add_eq_left, (by omega : 0xe0 + bits = 0xed ↔ bits = 13)]

theorem step_four {bits : Nat} (h : bits < 5) :
    step none (0xf0 + bits) = ([], some ⟨bits, 3, if bits = 0 then 0x90 else 0x80,
      if bits = 4 then 0x8f else 0xbf⟩) := by
  unfold step start
  rw [if_neg (by omega), if_neg (by omega), if_neg (by omega), if_neg (by omega), if_pos (by omega),
    Nat.add_sub_cancel_left]
  simp only [Nat.add_eq_left, (by omega : 0xf0 + bits = 0xf4 ↔ bits = 4)]

/-- The bytes of a character are read as the character. -/
theorem readBytes_bytes (c : Char) : readBytes none (bytes c) = ([c], none) := by
  have hvalid : c.toNat < 0xd800 ∨ 0xdfff < c.toNat ∧ c.toNat < 0x110000 := c.valid
  by_cases hone : c.toNat < 0x80
  · rw [bytes_one hone]
    simp [readBytes, step, start, hone, Char.ofNat_toNat]
  by_cases htwo : c.toNat < 0x800
  · rw [bytes_two (by omega) htwo]
    simp only [readBytes, step_two (by omega : 2 ≤ c.toNat / 64) (by omega), step_last]
    rfl
  by_cases hthree : c.toNat < 0x10000
  · -- the bounds of the second byte leave out what is shorter and what is no character
    have hsecond : step (some ⟨c.toNat / 4096, 2, if c.toNat / 4096 = 0 then 0xa0 else 0x80,
        if c.toNat / 4096 = 13 then 0x9f else 0xbf⟩) (0x80 + c.toNat / 64 % 64) =
        ([], some ⟨c.toNat / 64, 1, 0x80, 0xbf⟩) := by
      rw [step_next (by split <;> omega) (by split <;> omega),
        (by omega : c.toNat / 4096 * 64 + c.toNat / 64 % 64 = c.toNat / 64)]
    rw [bytes_three (by omega) hthree]
    simp only [readBytes, step_three (by omega : c.toNat / 4096 < 0x10), hsecond, step_last]
    rfl
  · have hsecond : step (some ⟨c.toNat / 262144, 3, if c.toNat / 262144 = 0 then 0x90 else 0x80,
        if c.toNat / 262144 = 4 then 0x8f else 0xbf⟩) (0x80 + c.toNat / 4096 % 64) =
        ([], some ⟨c.toNat / 4096, 2, 0x80, 0xbf⟩) := by
      rw [step_next (by split <;> omega) (by split <;> omega),
        (by omega : c.toNat / 262144 * 64 + c.toNat / 4096 % 64 = c.toNat / 4096)]
    have hthird : step (some ⟨c.toNat / 4096, 2, 0x80, 0xbf⟩) (0x80 + c.toNat / 64 % 64) =
        ([], some ⟨c.toNat / 64, 1, 0x80, 0xbf⟩) := by
      rw [step_next (by omega) (by omega),
        (by omega : c.toNat / 4096 * 64 + c.toNat / 64 % 64 = c.toNat / 64)]
    rw [bytes_four (by omega) (by omega)]
    simp only [readBytes, step_four (by omega : c.toNat / 262144 < 5), hsecond, hthird, step_last]
    rfl

end SqlToolkit.Text.Utf8
