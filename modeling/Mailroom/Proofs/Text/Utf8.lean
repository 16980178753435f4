import Mailroom.Text.Utf8
import Mathlib.Tactic.Common

/-!
# Decoding what was encoded

Every text is read back from its UTF-8 form. The decoder goes byte by byte, so there is one equation
for each kind of byte: one that is a character by itself, one that starts a sequence, one that
continues it and one that ends it. A character is then a chain of these, and the work is in the
numbers: the bits that the bytes carry are those of the code point, and the second byte lies in the
range that its first byte leaves to it. The range is narrower than that of other bytes where a code
point could be written shorter, where it is half of a pair and where it is too great. A character
is none of these.
-/

set_option autoImplicit false

namespace Mailroom.Text

/-! ## One byte -/

theorem decodeFrom_single {b : UInt8} (hb : b.toNat < 0x80) (offset : Nat) (bs : List UInt8) :
    decodeFrom offset none (b :: bs) =
      (Char.ofNat b.toNat :: ·) <$> decodeFrom (offset + 1) none bs := by
  have hlt : b < 0x80 := UInt8.lt_iff_toNat_lt.mpr hb
  rw [decodeFrom, if_pos hlt]

theorem decodeFrom_first {b low high : UInt8} {missing : Nat}
    (hb : followers? b = some (low, high, missing)) (offset : Nat) (bs : List UInt8) :
    decodeFrom offset none (b :: bs) =
      decodeFrom (offset + 1)
        (some ⟨b.toNat - (if missing = 1 then 0xC0 else if missing = 2 then 0xE0 else 0xF0),
          low, high, missing, 1, b⟩) bs := by
  have hge : ¬ b < 0x80 := by
    intro hlt
    have hc2 : b < 0xC2 := UInt8.lt_trans hlt (by decide)
    rw [followers?, if_pos hc2] at hb
    cases hb
  rw [decodeFrom, if_neg hge, hb]

theorem decodeFrom_next {code missing taken : Nat} {low high first b : UInt8}
    (hlow : low.toNat ≤ b.toNat) (hhigh : b.toNat ≤ high.toNat) (offset : Nat) (bs : List UInt8) :
    decodeFrom offset (some ⟨code, low, high, missing + 2, taken, first⟩) (b :: bs) =
      decodeFrom (offset + 1)
        (some ⟨extendCode code b, 0x80, 0xBF, missing + 1, taken + 1, first⟩) bs := by
  have hb : low ≤ b ∧ b ≤ high := ⟨hlow, hhigh⟩
  rw [decodeFrom, if_pos (by simpa using hb), if_neg (by simp)]
  rfl

theorem decodeFrom_last {code taken : Nat} {low high first b : UInt8}
    (hlow : low.toNat ≤ b.toNat) (hhigh : b.toNat ≤ high.toNat) (offset : Nat) (bs : List UInt8) :
    decodeFrom offset (some ⟨code, low, high, 1, taken, first⟩) (b :: bs) =
      (Char.ofNat (extendCode code b) :: ·) <$> decodeFrom (offset + 1) none bs := by
  have hb : low ≤ b ∧ b ≤ high := ⟨hlow, hhigh⟩
  rw [decodeFrom, if_pos (by simpa using hb), if_pos (Nat.le_refl 1)]

/-! ## The first byte of several -/

theorem followers?_of_two {b : UInt8} (hge : 0xC2 ≤ b.toNat) (hlt : b.toNat < 0xE0) :
    followers? b = some (0x80, 0xBF, 1) := by
  simp only [followers?, UInt8.lt_iff_toNat_lt, UInt8.reduceToNat]
  rw [if_neg (by omega), if_pos hlt]

theorem exists_followers?_of_three {b : UInt8} (hge : 0xE0 ≤ b.toNat) (hlt : b.toNat < 0xF0) :
    ∃ low high, followers? b = some (low, high, 2) ∧
      low.toNat = (if b.toNat = 0xE0 then 0xA0 else 0x80) ∧
      high.toNat = if b.toNat = 0xED then 0x9F else 0xBF := by
  simp only [followers?, UInt8.lt_iff_toNat_lt, ← UInt8.toNat_inj, UInt8.reduceToNat]
  rw [if_neg (by omega), if_neg (by omega)]
  by_cases he0 : b.toNat = 0xE0
  · exact ⟨0xA0, 0xBF, by simp [he0]⟩
  · by_cases hed : b.toNat = 0xED
    · exact ⟨0x80, 0x9F, by simp [hed]⟩
    · exact ⟨0x80, 0xBF, by simp [he0, hed, hlt]⟩

theorem exists_followers?_of_four {b : UInt8} (hge : 0xF0 ≤ b.toNat) (hle : b.toNat ≤ 0xF4) :
    ∃ low high, followers? b = some (low, high, 3) ∧
      low.toNat = (if b.toNat = 0xF0 then 0x90 else 0x80) ∧
      high.toNat = if b.toNat = 0xF4 then 0x8F else 0xBF := by
  simp only [followers?, UInt8.lt_iff_toNat_lt, ← UInt8.toNat_inj, UInt8.reduceToNat]
  rw [if_neg (by omega), if_neg (by omega), if_neg (by omega), if_neg (by omega),
    if_neg (by omega)]
  by_cases hf0 : b.toNat = 0xF0
  · exact ⟨0x90, 0xBF, by simp [hf0]⟩
  · by_cases hf4 : b.toNat = 0xF4
    · exact ⟨0x80, 0x8F, by simp [hf4]⟩
    · have hlt : b.toNat < 0xF4 := by omega
      exact ⟨0x80, 0xBF, by simp [hf0, hf4, hlt]⟩

/-! ## One character -/

variable {b₁ b₂ b₃ b₄ : UInt8} (offset : Nat) (bs : List UInt8)

theorem decodeFrom_two (h₁ : 0xC2 ≤ b₁.toNat ∧ b₁.toNat < 0xE0)
    (h₂ : 0x80 ≤ b₂.toNat ∧ b₂.toNat ≤ 0xBF) :
    decodeFrom offset none (b₁ :: b₂ :: bs) =
      (Char.ofNat ((b₁.toNat - 0xC0) * 64 + (b₂.toNat - 0x80)) :: ·) <$>
        decodeFrom (offset + 2) none bs := by
  rw [decodeFrom_first (followers?_of_two h₁.1 h₁.2), decodeFrom_last]
  · rfl
  · exact h₂.1
  · exact h₂.2

theorem decodeFrom_three (h₁ : 0xE0 ≤ b₁.toNat ∧ b₁.toNat < 0xF0)
    (h₂ : (if b₁.toNat = 0xE0 then 0xA0 else 0x80) ≤ b₂.toNat ∧
      b₂.toNat ≤ if b₁.toNat = 0xED then 0x9F else 0xBF)
    (h₃ : 0x80 ≤ b₃.toNat ∧ b₃.toNat ≤ 0xBF) :
    decodeFrom offset none (b₁ :: b₂ :: b₃ :: bs) =
      (Char.ofNat (((b₁.toNat - 0xE0) * 64 + (b₂.toNat - 0x80)) * 64 + (b₃.toNat - 0x80)) :: ·) <$>
        decodeFrom (offset + 3) none bs := by
  obtain ⟨low, high, hb₁, hlow, hhigh⟩ := exists_followers?_of_three h₁.1 h₁.2
  rw [decodeFrom_first hb₁, decodeFrom_next (hlow ▸ h₂.1) (hhigh ▸ h₂.2), decodeFrom_last]
  · rfl
  · exact h₃.1
  · exact h₃.2

theorem decodeFrom_four (h₁ : 0xF0 ≤ b₁.toNat ∧ b₁.toNat ≤ 0xF4)
    (h₂ : (if b₁.toNat = 0xF0 then 0x90 else 0x80) ≤ b₂.toNat ∧
      b₂.toNat ≤ if b₁.toNat = 0xF4 then 0x8F else 0xBF)
    (h₃ : 0x80 ≤ b₃.toNat ∧ b₃.toNat ≤ 0xBF) (h₄ : 0x80 ≤ b₄.toNat ∧ b₄.toNat ≤ 0xBF) :
    decodeFrom offset none (b₁ :: b₂ :: b₃ :: b₄ :: bs) =
      (Char.ofNat ((((b₁.toNat - 0xF0) * 64 + (b₂.toNat - 0x80)) * 64 + (b₃.toNat - 0x80)) * 64 +
          (b₄.toNat - 0x80)) :: ·) <$>
        decodeFrom (offset + 4) none bs := by
  obtain ⟨low, high, hb₁, hlow, hhigh⟩ := exists_followers?_of_four h₁.1 h₁.2
  rw [decodeFrom_first hb₁, decodeFrom_next (hlow ▸ h₂.1) (hhigh ▸ h₂.2), decodeFrom_next,
    decodeFrom_last]
  · rfl
  · exact h₄.1
  · exact h₄.2
  · exact h₃.1
  · exact h₃.2

/-! The same for the bytes that a code point is written in. -/

theorem toNat_tail (n : Nat) : (UInt8.ofNat (n % 64 + 128)).toNat = n % 64 + 128 := by
  rw [UInt8.toNat_ofNat']
  omega

variable {v : Nat}

theorem decodeFrom_written_two (hgt : 0x7F < v) (hle : v ≤ 0x7FF) :
    decodeFrom offset none (UInt8.ofNat (v / 64 % 32 + 192) :: UInt8.ofNat (v % 64 + 128) :: bs) =
      (Char.ofNat v :: ·) <$> decodeFrom (offset + 2) none bs := by
  have hb₁ : (UInt8.ofNat (v / 64 % 32 + 192)).toNat = v / 64 + 192 := by
    rw [UInt8.toNat_ofNat']
    omega
  have hb₂ := toNat_tail v
  have hcode : (v / 64 + 192 - 0xC0) * 64 + (v % 64 + 128 - 0x80) = v := by omega
  rw [decodeFrom_two offset bs (by omega) (by omega), hb₁, hb₂, hcode]

theorem decodeFrom_written_three (hgt : 0x7FF < v) (hle : v ≤ 0xFFFF)
    (hpair : v < 0xD800 ∨ 0xDFFF < v) :
    decodeFrom offset none (UInt8.ofNat (v / 4096 % 16 + 224) ::
        UInt8.ofNat (v / 64 % 64 + 128) :: UInt8.ofNat (v % 64 + 128) :: bs) =
      (Char.ofNat v :: ·) <$> decodeFrom (offset + 3) none bs := by
  have hb₁ : (UInt8.ofNat (v / 4096 % 16 + 224)).toNat = v / 4096 + 224 := by
    rw [UInt8.toNat_ofNat']
    omega
  have hb₂ := toNat_tail (v / 64)
  have hb₃ := toNat_tail v
  have hcode : ((v / 4096 + 224 - 0xE0) * 64 + (v / 64 % 64 + 128 - 0x80)) * 64 +
      (v % 64 + 128 - 0x80) = v := by omega
  rw [decodeFrom_three offset bs (by omega) ?_ (by omega), hb₁, hb₂, hb₃, hcode]
  -- the second byte of a short code point is high, and that of one before the pairs is low
  rw [hb₁, hb₂]
  split_ifs <;> omega

theorem decodeFrom_written_four (hgt : 0xFFFF < v) (hlt : v < 0x110000) :
    decodeFrom offset none (UInt8.ofNat (v / 262144 % 8 + 240) ::
        UInt8.ofNat (v / 4096 % 64 + 128) :: UInt8.ofNat (v / 64 % 64 + 128) ::
        UInt8.ofNat (v % 64 + 128) :: bs) =
      (Char.ofNat v :: ·) <$> decodeFrom (offset + 4) none bs := by
  have hb₁ : (UInt8.ofNat (v / 262144 % 8 + 240)).toNat = v / 262144 + 240 := by
    rw [UInt8.toNat_ofNat']
    omega
  have hb₂ := toNat_tail (v / 4096)
  have hb₃ := toNat_tail (v / 64)
  have hb₄ := toNat_tail v
  have hcode : (((v / 262144 + 240 - 0xF0) * 64 + (v / 4096 % 64 + 128 - 0x80)) * 64 +
      (v / 64 % 64 + 128 - 0x80)) * 64 + (v % 64 + 128 - 0x80) = v := by omega
  rw [decodeFrom_four offset bs (by omega) ?_ (by omega) (by omega), hb₁, hb₂, hb₃, hb₄, hcode]
  rw [hb₁, hb₂]
  split_ifs <;> omega

theorem decodeFrom_utf8EncodeChar (c : Char) :
    decodeFrom offset none (String.utf8EncodeChar c ++ bs) =
      (c :: ·) <$> decodeFrom (offset + (String.utf8EncodeChar c).length) none bs := by
  have hvalid : c.toNat < 0xD800 ∨ 0xDFFF < c.toNat ∧ c.toNat < 0x110000 := c.valid
  have hc : c = Char.ofNat c.toNat := (Char.ofNat_toNat c).symm
  have hval : c.val.toNat = c.toNat := rfl
  simp only [String.utf8EncodeChar, hval]
  generalize c.toNat = v at hvalid hc
  rw [hc]
  -- one case for each number of bytes
  split_ifs with h₁ h₂ h₃
  · have hb : (UInt8.ofNat v).toNat = v := by
      rw [UInt8.toNat_ofNat']
      omega
    rw [List.singleton_append, decodeFrom_single (by omega), hb]
    rfl
  · exact decodeFrom_written_two offset bs (by omega) h₂
  · exact decodeFrom_written_three offset bs (by omega) h₃ (by omega)
  · exact decodeFrom_written_four offset bs (by omega) (by omega)

/-! ## Texts -/

theorem decodeFrom_utf8 (cs : List Char) (offset : Nat) :
    decodeFrom offset none (cs.flatMap String.utf8EncodeChar) = .ok cs := by
  induction cs generalizing offset with
  | nil => rfl
  | cons c cs ih =>
    rw [List.flatMap_cons, decodeFrom_utf8EncodeChar, ih]
    rfl

theorem toList_toUTF8 (s : String) :
    s.toUTF8.data.toList = s.toList.flatMap String.utf8EncodeChar := by
  conv_lhs => rw [← String.ofList_toList (s := s)]
  exact List.toList_data_toByteArray

/-- Decoding undoes encoding. -/
theorem decodeUtf8_toUTF8 (s : String) : decodeUtf8 s.toUTF8.data.toList = .ok s.toList := by
  rw [toList_toUTF8]
  exact decodeFrom_utf8 s.toList 0

end Mailroom.Text
