/-!
# Bytes

Everything on the network is a list of bytes, and every number in it is
big-endian: `word` writes a 32-bit number in four bytes and `ofWord` reads
it back (`ofWord_word`, `word_ofWord`).
-/

namespace PortMapper

/-- A sequence of bytes: a name, a payload, a frame or a reply. -/
abbrev Bytes := List UInt8

/-- The four bytes of a number, the most significant first. -/
def word (n : UInt32) : Bytes :=
  [(n >>> 24).toUInt8, (n >>> 16).toUInt8, (n >>> 8).toUInt8, n.toUInt8]

/-- The number written in four bytes, the most significant first. -/
def ofWord (a b c d : UInt8) : UInt32 :=
  a.toUInt32 <<< 24 ||| b.toUInt32 <<< 16 ||| c.toUInt32 <<< 8 ||| d.toUInt32

@[simp] theorem length_word (n : UInt32) : (word n).length = 4 := rfl

/-- The bytes of a number are its digits to base 256. -/
theorem toNat_ofWord (a b c d : UInt8) :
    (ofWord a b c d).toNat = 256 * (256 * (256 * a.toNat + b.toNat) + c.toNat) + d.toNat := by
  have ha := a.toNat_lt
  have hb := b.toNat_lt
  have hc := c.toNat_lt
  have hd := d.toNat_lt
  have or_eq_add (i x y : Nat) (h : y < 1 <<< i) : x <<< i ||| y = x <<< i + y :=
    (Nat.shiftLeft_add_eq_or_of_lt (by simpa [Nat.shiftLeft_eq] using h) x).symm
  have h₁ := or_eq_add 24 a.toNat (b.toNat * 65536) (by simp; omega)
  have h₂ := or_eq_add 16 (256 * a.toNat + b.toNat) (c.toNat * 256) (by simp; omega)
  have h₃ := or_eq_add 8 (256 * (256 * a.toNat + b.toNat) + c.toNat) d.toNat (by simp; omega)
  simp only [ofWord, UInt32.toNat_or, UInt32.toNat_shiftLeft, UInt8.toNat_toUInt32,
    UInt32.reduceToNat, Nat.reduceMod, Nat.shiftLeft_eq, Nat.reducePow] at *
  rw [Nat.mod_eq_of_lt (by omega), Nat.mod_eq_of_lt (by omega), Nat.mod_eq_of_lt (by omega), h₁,
    show a.toNat * 16777216 + b.toNat * 65536 = (256 * a.toNat + b.toNat) * 65536 by omega, h₂,
    show ∀ x, x * 65536 + c.toNat * 256 = (256 * x + c.toNat) * 256 by omega, h₃]
  omega

/-- Reading the bytes that a number is written in gives the number. -/
theorem ofWord_word (n : UInt32) :
    ofWord (n >>> 24).toUInt8 (n >>> 16).toUInt8 (n >>> 8).toUInt8 n.toUInt8 = n := by
  apply UInt32.toNat_inj.1
  have := n.toNat_lt
  simp only [toNat_ofWord, UInt32.toNat_toUInt8, UInt32.toNat_shiftRight, UInt32.reduceToNat,
    Nat.reduceMod, Nat.shiftRight_eq_div_pow]
  omega

/-- Writing the number read from four bytes gives the bytes. -/
@[simp] theorem word_ofWord (a b c d : UInt8) : word (ofWord a b c d) = [a, b, c, d] := by
  simp only [word, List.cons.injEq, and_true, ← UInt8.toBitVec_inj, ofWord]
  refine ⟨?_, ?_, ?_, ?_⟩ <;> ext i hi <;> simp <;> grind

end PortMapper
