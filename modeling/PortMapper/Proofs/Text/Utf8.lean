import Mathlib.Data.UInt
import PortMapper.Text.Utf8

/-!
# Reading back what is written in UTF-8

Every text is read back from its bytes (`Utf8.decode?_encode`). A character takes one byte to
four; those after the first carry six bits each (`Utf8.next_continuation`), and the first
tells how many there are.
-/

namespace PortMapper

namespace Utf8

variable {n k : Nat} {b : UInt8} {p : Begun} {bytes : Bytes}

/-! ## Bytes -/

theorem toNat_ofNat (h : n < 256) : (UInt8.ofNat n).toNat = n := by
  rw [UInt8.toNat_ofNat', Nat.mod_eq_of_lt h]

/-- The first byte of a character, by its number. -/
theorem lead_ofNat (h : n < 256) : lead (UInt8.ofNat n) =
    if n < 0x80 then .character (Char.ofNat n)
    else if n < 0xc2 then .illFormed
    else if n < 0xe0 then .begins { missing := 1, bits := n % 32 }
    else if n = 0xe0 then .begins { missing := 2, least := 0xa0, bits := 0 }
    else if n = 0xed then .begins { missing := 2, greatest := 0x9f, bits := 13 }
    else if n < 0xf0 then .begins { missing := 2, bits := n % 16 }
    else if n = 0xf0 then .begins { missing := 3, least := 0x90, bits := 0 }
    else if n < 0xf4 then .begins { missing := 3, bits := n % 8 }
    else if n = 0xf4 then .begins { missing := 3, greatest := 0x8f, bits := 4 }
    else .illFormed := by
  simp only [lead, UInt8.lt_iff_toNat_lt, ← UInt8.toNat_inj, toNat_ofNat h, UInt8.reduceToNat]

theorem characters_of_begins (h : lead b = .begins p) (bytes : Bytes) :
    characters none (b :: bytes) = characters (some p) bytes := by
  rw [characters, next, start, h]
  rfl

/-- A byte that continues a character adds six bits to it. -/
theorem next_continuation (hk : k < 64) (hleast : p.least.toNat ≤ k + 128)
    (hgreatest : k + 128 ≤ p.greatest.toNat) : next (some p) (UInt8.ofNat (k + 128)) =
      if p.missing = 1 then ([some (Char.ofNat (64 * p.bits + k))], none)
      else ([], some { missing := p.missing - 1, bits := 64 * p.bits + k }) := by
  have hbyte : (UInt8.ofNat (k + 128)).toNat = k + 128 := toNat_ofNat (by omega)
  have hbits : (k + 128) % 64 = k := by omega
  have hwithin : p.least ≤ UInt8.ofNat (k + 128) ∧ UInt8.ofNat (k + 128) ≤ p.greatest := by
    rw [UInt8.le_iff_toNat_le, UInt8.le_iff_toNat_le, hbyte]
    exact ⟨hleast, hgreatest⟩
  rw [next, if_pos hwithin, hbyte, hbits]

theorem characters_last (hmissing : p.missing = 1) (hk : k < 64)
    (hleast : p.least.toNat ≤ k + 128) (hgreatest : k + 128 ≤ p.greatest.toNat) (bytes : Bytes) :
    characters (some p) (UInt8.ofNat (k + 128) :: bytes) =
      some (Char.ofNat (64 * p.bits + k)) :: characters none bytes := by
  rw [characters, next_continuation hk hleast hgreatest, if_pos hmissing]
  rfl

theorem characters_more (hmissing : p.missing = n + 2) (hk : k < 64)
    (hleast : p.least.toNat ≤ k + 128) (hgreatest : k + 128 ≤ p.greatest.toNat) (bytes : Bytes) :
    characters (some p) (UInt8.ofNat (k + 128) :: bytes) =
      characters (some { missing := n + 1, bits := 64 * p.bits + k }) bytes := by
  rw [characters, next_continuation hk hleast hgreatest, hmissing, if_neg (by omega)]
  rfl

/-! ## Characters -/

theorem characters_two (hleast : 0x80 ≤ n) (hlt : n < 0x800) (bytes : Bytes) :
    characters none (UInt8.ofNat (n / 64 % 32 + 192) :: UInt8.ofNat (n % 64 + 128) :: bytes) =
      some (Char.ofNat n) :: characters none bytes := by
  have hlead : lead (UInt8.ofNat (n / 64 % 32 + 192)) =
      .begins { missing := 1, bits := n / 64 } := by
    rw [lead_ofNat (by omega), if_neg (by omega), if_neg (by omega), if_pos (by omega)]
    congr 2
    omega
  rw [characters_of_begins hlead, characters_last rfl (by omega) (by simp) (by simp; omega),
    Nat.div_add_mod]

theorem characters_three (hleast : 0x800 ≤ n) (hlt : n < 0x10000)
    (hvalid : n < 0xd800 ∨ 0xdfff < n) (bytes : Bytes) :
    characters none (UInt8.ofNat (n / 4096 % 16 + 224) :: UInt8.ofNat (n / 64 % 64 + 128) ::
      UInt8.ofNat (n % 64 + 128) :: bytes) = some (Char.ofNat n) :: characters none bytes := by
  obtain ⟨p, hlead, hmissing, hbits, hp⟩ : ∃ p, lead (UInt8.ofNat (n / 4096 % 16 + 224)) =
      .begins p ∧ p.missing = 2 ∧ p.bits = n / 4096 ∧
        p.least.toNat ≤ n / 64 % 64 + 128 ∧ n / 64 % 64 + 128 ≤ p.greatest.toNat := by
    rw [lead_ofNat (by omega), if_neg (by omega), if_neg (by omega), if_neg (by omega)]
    -- The bounds on the second byte leave out what is shorter and the surrogates.
    split_ifs
    · exact ⟨_, rfl, rfl, by dsimp only; omega, by simp; omega, by simp; omega⟩
    · exact ⟨_, rfl, rfl, by dsimp only; omega, by simp, by simp; omega⟩
    · exact ⟨_, rfl, rfl, by dsimp only; omega, by simp, by simp; omega⟩
    all_goals omega
  have hn : 64 * (64 * (n / 4096) + n / 64 % 64) + n % 64 = n := by omega
  rw [characters_of_begins hlead, characters_more hmissing (by omega) hp.1 hp.2,
    characters_last rfl (by omega) (by simp) (by simp; omega), hbits, hn]

theorem characters_four (hleast : 0x10000 ≤ n) (hlt : n < 0x110000) (bytes : Bytes) :
    characters none (UInt8.ofNat (n / 262144 % 8 + 240) :: UInt8.ofNat (n / 4096 % 64 + 128) ::
      UInt8.ofNat (n / 64 % 64 + 128) :: UInt8.ofNat (n % 64 + 128) :: bytes) =
        some (Char.ofNat n) :: characters none bytes := by
  obtain ⟨p, hlead, hmissing, hbits, hp⟩ : ∃ p, lead (UInt8.ofNat (n / 262144 % 8 + 240)) =
      .begins p ∧ p.missing = 3 ∧ p.bits = n / 262144 ∧
        p.least.toNat ≤ n / 4096 % 64 + 128 ∧ n / 4096 % 64 + 128 ≤ p.greatest.toNat := by
    rw [lead_ofNat (by omega), if_neg (by omega), if_neg (by omega), if_neg (by omega),
      if_neg (by omega), if_neg (by omega), if_neg (by omega)]
    -- The bounds on the second byte leave out what is shorter and what is past the last one.
    split_ifs
    · exact ⟨_, rfl, rfl, by dsimp only; omega, by simp; omega, by simp; omega⟩
    · exact ⟨_, rfl, rfl, by dsimp only; omega, by simp, by simp; omega⟩
    · exact ⟨_, rfl, rfl, by dsimp only; omega, by simp, by simp; omega⟩
    · omega
  have hn : 64 * (64 * (64 * (n / 262144) + n / 4096 % 64) + n / 64 % 64) + n % 64 = n := by omega
  rw [characters_of_begins hlead, characters_more hmissing (by omega) hp.1 hp.2,
    characters_more rfl (by omega) (by simp) (by simp; omega),
    characters_last rfl (by omega) (by simp) (by simp; omega), hbits, hn]

/-- A character is read back from its bytes, whatever follows them. -/
theorem characters_utf8EncodeChar (c : Char) (bytes : Bytes) :
    characters none (String.utf8EncodeChar c ++ bytes) = some c :: characters none bytes := by
  have hvalid : c.toNat < 0xd800 ∨ 0xdfff < c.toNat ∧ c.toNat < 0x110000 := c.valid
  have hc : Char.ofNat c.toNat = c := Char.ofNat_toNat c
  rw [String.utf8EncodeChar, show c.val.toNat = c.toNat from rfl]
  generalize c.toNat = n at hvalid hc
  subst hc
  split_ifs
  · have hlead : lead (UInt8.ofNat n) = .character (Char.ofNat n) := by
      rw [lead_ofNat (by omega), if_pos (by omega)]
    rw [List.singleton_append, characters, next, start, hlead]
    rfl
  · exact characters_two (by omega) (by omega) bytes
  · exact characters_three (by omega) (by omega) (by omega) bytes
  · exact characters_four (by omega) (by omega) bytes

theorem characters_encode (cs : List Char) : characters none (encode cs) = cs.map some := by
  induction cs with
  | nil => rfl
  | cons c cs ih =>
    rw [encode, List.flatMap_cons, characters_utf8EncodeChar, ← encode, ih, List.map_cons]

/-- Every text is read back from its bytes. -/
theorem decode?_encode (cs : List Char) : decode? (encode cs) = some cs := by
  rw [decode?, characters_encode]
  induction cs with
  | nil => rfl
  | cons c cs ih =>
    rw [List.map_cons, List.mapM_cons, ih]
    rfl

end Utf8

end PortMapper
