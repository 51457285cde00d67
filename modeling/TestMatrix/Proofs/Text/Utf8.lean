import TestMatrix.Text.Utf8

/-!
# Texts in UTF-8

The bytes of a text are read as that text (`ofUtf8?_bytes`). A character of two bytes or more begins
with its highest bits, and every byte that follows adds six bits to what has been read so far. The
ranges that `leadByte?` sets for the first of these bytes leave out longer forms, surrogates and all
above the last character, so that they let the bytes of every character through.
-/

namespace TestMatrix.Text

/-- The bytes of a text. -/
def bytes (s : String) : List UInt8 := s.toByteArray.data.toList

/-- The bytes of a text are those of its characters. -/
theorem bytes_eq_flatMap (s : String) : bytes s = s.toList.flatMap String.utf8EncodeChar := by
  rw [bytes, ← String.utf8Encode_toList, List.utf8Encode, List.toList_data_toByteArray]

/-! ## Leading bytes -/

/-- These are the first bytes of two. -/
theorem leadByte?_two : ∀ n < 30, leadByte? (n + 0xC2) = some (n + 2, 1, 0x80, 0xBF) := by
  decide

/-- These are the first bytes of three; two of them narrow down what may follow. -/
theorem leadByte?_three : ∀ n < 16, leadByte? (n + 0xE0) =
    some (n, 2, if n = 0 then 0xA0 else 0x80, if n = 0xD then 0x9F else 0xBF) := by
  decide

/-- These are the first bytes of four, with the same proviso. -/
theorem leadByte?_four : ∀ n < 5, leadByte? (n + 0xF0) =
    some (n, 3, if n = 0 then 0x90 else 0x80, if n = 4 then 0x8F else 0xBF) := by
  decide

/-! ## Steps -/

variable {b : UInt8} {code missing low high : Nat}

/-- A byte below 128 is a character by itself. -/
theorem utf8From_ascii (hb : b.toNat < 0x80) (rest : List UInt8) :
    utf8From none (b :: rest) = some (Char.ofNat b.toNat) :: utf8From none rest := by
  rw [utf8From, utf8Step, beginPiece, if_pos hb]
  rfl

/-- Any other first byte says how many bytes are still missing. -/
theorem utf8From_lead (h : leadByte? b.toNat = some (code, missing, low, high))
    (hb : 0x80 ≤ b.toNat) (rest : List UInt8) :
    utf8From none (b :: rest) = utf8From (some ⟨code, missing, low, high⟩) rest := by
  rw [utf8From, utf8Step, beginPiece, if_neg (Nat.not_lt.mpr hb), h]
  rfl

/-- A byte in the range that is awaited adds six bits. -/
theorem utf8From_next (hlow : low ≤ b.toNat) (hhigh : b.toNat ≤ high) (rest : List UInt8) :
    utf8From (some ⟨code, missing + 2, low, high⟩) (b :: rest) =
      utf8From (some ⟨64 * code + (b.toNat - 0x80), missing + 1, 0x80, 0xBF⟩) rest := by
  rw [utf8From, utf8Step, if_pos ⟨hlow, hhigh⟩]
  simp

/-- The last byte that is missing completes the character. -/
theorem utf8From_last (hlow : low ≤ b.toNat) (hhigh : b.toNat ≤ high) (rest : List UInt8) :
    utf8From (some ⟨code, 1, low, high⟩) (b :: rest) =
      some (Char.ofNat (64 * code + (b.toNat - 0x80))) :: utf8From none rest := by
  rw [utf8From, utf8Step, if_pos ⟨hlow, hhigh⟩]
  simp

/-! ## Characters by their length -/

variable {b₁ b₂ b₃ b₄ : UInt8} {n : Nat}

/-- Two bytes are read as the character that they encode. -/
theorem utf8From_two (hmin : 0x80 ≤ n) (hmax : n < 0x800) (h₁ : b₁.toNat = n / 64 + 0xC0)
    (h₂ : b₂.toNat = n % 64 + 0x80) (rest : List UInt8) :
    utf8From none (b₁ :: b₂ :: rest) = some (Char.ofNat n) :: utf8From none rest := by
  have hlead := leadByte?_two (n / 64 - 2) (by omega)
  have hbyte : n / 64 - 2 + 0xC2 = b₁.toNat := by omega
  have hcode : 64 * (n / 64 - 2 + 2) + (b₂.toNat - 0x80) = n := by omega
  rw [hbyte] at hlead
  rw [utf8From_lead hlead (by omega), utf8From_last (by omega) (by omega), hcode]

/-- Three bytes are read as the character that they encode, which is no surrogate. -/
theorem utf8From_three (hmin : 0x800 ≤ n) (hmax : n < 0x10000)
    (hvalid : n < 0xD800 ∨ 0xDFFF < n) (h₁ : b₁.toNat = n / 4096 + 0xE0)
    (h₂ : b₂.toNat = n / 64 % 64 + 0x80) (h₃ : b₃.toNat = n % 64 + 0x80) (rest : List UInt8) :
    utf8From none (b₁ :: b₂ :: b₃ :: rest) = some (Char.ofNat n) :: utf8From none rest := by
  have hlead := leadByte?_three (n / 4096) (by omega)
  have hcode : 64 * (64 * (n / 4096) + (b₂.toNat - 0x80)) + (b₃.toNat - 0x80) = n := by omega
  -- The first range leaves out what has a shorter form, and the last the surrogates.
  have hlow : (if n / 4096 = 0 then 0xA0 else 0x80) ≤ b₂.toNat := by
    split <;> omega
  have hhigh : b₂.toNat ≤ if n / 4096 = 0xD then 0x9F else 0xBF := by
    split <;> omega
  rw [← h₁] at hlead
  rw [utf8From_lead hlead (by omega), utf8From_next hlow hhigh, utf8From_last (by omega) (by omega),
    hcode]

/-- Four bytes are read as the character that they encode, which is in the range. -/
theorem utf8From_four (hmin : 0x10000 ≤ n) (hmax : n < 0x110000) (h₁ : b₁.toNat = n / 262144 + 0xF0)
    (h₂ : b₂.toNat = n / 4096 % 64 + 0x80) (h₃ : b₃.toNat = n / 64 % 64 + 0x80)
    (h₄ : b₄.toNat = n % 64 + 0x80) (rest : List UInt8) :
    utf8From none (b₁ :: b₂ :: b₃ :: b₄ :: rest) = some (Char.ofNat n) :: utf8From none rest := by
  have hlead := leadByte?_four (n / 262144) (by omega)
  have hcode : 64 * (64 * (64 * (n / 262144) + (b₂.toNat - 0x80)) + (b₃.toNat - 0x80)) +
      (b₄.toNat - 0x80) = n := by omega
  -- The first range leaves out what has a shorter form, and the last what is above all characters.
  have hlow : (if n / 262144 = 0 then 0x90 else 0x80) ≤ b₂.toNat := by
    split <;> omega
  have hhigh : b₂.toNat ≤ if n / 262144 = 4 then 0x8F else 0xBF := by
    split <;> omega
  rw [← h₁] at hlead
  rw [utf8From_lead hlead (by omega), utf8From_next hlow hhigh, utf8From_next (by omega) (by omega),
    utf8From_last (by omega) (by omega), hcode]

/-! ## Texts -/

/-- A byte that follows another carries six bits. -/
theorem toNat_following (n : Nat) : (UInt8.ofNat (n % 0x40 + 0x80)).toNat = n % 64 + 0x80 := by
  rw [UInt8.toNat_ofNat']
  omega

/-- The bytes of a character are read as the character. -/
theorem utf8From_encodeChar (c : Char) (rest : List UInt8) :
    utf8From none (String.utf8EncodeChar c ++ rest) = some c :: utf8From none rest := by
  have hvalid : c.val.toNat < 0xD800 ∨ 0xDFFF < c.val.toNat ∧ c.val.toNat < 0x110000 := c.valid
  have hsame : Char.ofNat c.val.toNat = c := Char.ofNat_toNat c
  unfold String.utf8EncodeChar
  generalize c.val.toNat = n at hvalid hsame
  rw [← hsame]
  dsimp only
  -- One case for each number of bytes. The first byte tells the number, and the others six bits
  -- each.
  split
  · next hone =>
    have hbyte : (UInt8.ofNat n).toNat = n := by
      rw [UInt8.toNat_ofNat']
      omega
    rw [List.singleton_append, utf8From_ascii (by omega), hbyte]
  · next hone =>
    split
    · next htwo =>
      have hlead : (UInt8.ofNat (n / 64 % 0x20 + 0xC0)).toNat = n / 64 + 0xC0 := by
        rw [UInt8.toNat_ofNat']
        omega
      exact utf8From_two (by omega) (by omega) hlead (toNat_following n) rest
    · next htwo =>
      split
      · next hthree =>
        have hlead : (UInt8.ofNat (n / 4096 % 0x10 + 0xE0)).toNat = n / 4096 + 0xE0 := by
          rw [UInt8.toNat_ofNat']
          omega
        exact utf8From_three (by omega) (by omega) (by omega) hlead (toNat_following _)
          (toNat_following n) rest
      · next hthree =>
        have hlead : (UInt8.ofNat (n / 262144 % 0x08 + 0xF0)).toNat = n / 262144 + 0xF0 := by
          rw [UInt8.toNat_ofNat']
          omega
        exact utf8From_four (by omega) (by omega) hlead (toNat_following _) (toNat_following _)
          (toNat_following n) rest

/-- The bytes of some characters are read as these characters, without any fault. -/
theorem utf8From_flatMap (cs : List Char) :
    utf8From none (cs.flatMap String.utf8EncodeChar) = cs.map some := by
  induction cs with
  | nil => rfl
  | cons c cs ih => rw [List.flatMap_cons, utf8From_encodeChar, ih, List.map_cons]

/-- The bytes of a text are read as the text. -/
theorem ofUtf8?_bytes (s : String) : ofUtf8? (bytes s) = some s := by
  have hread : (s.toList.map some).mapM id = some s.toList := by
    induction s.toList with
    | nil => rfl
    | cons c cs ih =>
      rw [List.map_cons, List.mapM_cons, ih]
      rfl
  rw [ofUtf8?, utf8Pieces, bytes_eq_flatMap, utf8From_flatMap, hread, Option.map_some,
    String.ofList_toList]

end TestMatrix.Text
