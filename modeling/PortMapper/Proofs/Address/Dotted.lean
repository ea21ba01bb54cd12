import PortMapper.Address.Dotted
import PortMapper.Proofs.Decimal

/-!
# Reading dotted addresses

An address has one text, and only that text is read as the address
(`Address.parse?_eq_some_iff`).
-/

namespace PortMapper

namespace Address

variable {a : Address} {b : UInt8} {c : Char} {cs : List Char}

/-! ## Parts -/

theorem octet?_text (b : UInt8) : octet? (Decimal.text b.toNat) = some b := by
  have hall : ∀ n < 256, octet? (Decimal.text n) = some n.toUInt8 := by decide +kernel
  rw [hall _ b.toNat_lt, Nat.toUInt8, UInt8.ofNat_toNat]

theorem text_of_octet? (h : octet? cs = some b) : cs = Decimal.text b.toNat := by
  unfold octet? at h
  split at h
  · cases h
  · rename_i hshape
    split at h
    · cases h
    · rename_i hzero
      simp only [not_or, Bool.not_eq_true', Bool.not_eq_false, List.all_eq_true] at hshape
      obtain ⟨hne, -, hdigits⟩ := hshape
      change (if Nat.ofDigitChars 10 cs 0 < 256 then _ else _) = _ at h
      split at h
      · rename_i hlt
        cases h
        rw [Nat.toUInt8, UInt8.toNat_ofNat_of_lt' hlt]
        exact (Decimal.text_ofDigitChars hne hdigits fun hlong hhead => hzero ⟨hlong, hhead⟩).symm
      · cases h

/-! ## Addresses -/

theorem dotted_ofOctets (a b c d : UInt8) : (ofOctets a b c d).dotted = ['.'].intercalate
    [Decimal.text a.toNat, Decimal.text b.toNat, Decimal.text c.toNat, Decimal.text d.toNat] := by
  rw [dotted, octets_ofOctets]
  rfl

theorem exists_eq_ofOctets (a : Address) : ∃ p q r s, a = ofOctets p q r s :=
  ⟨_, _, _, _, congrArg mk (ofWord_word a.bits).symm⟩

/-- The characters of an address are digits and dots. -/
theorem isDigit_or_eq_of_mem_dotted (h : c ∈ a.dotted) : c.isDigit = true ∨ c = '.' := by
  obtain ⟨p, q, r, s, rfl⟩ := a.exists_eq_ofOctets
  rw [dotted_ofOctets] at h
  simp only [List.intercalate_cons_cons, List.intercalate_singleton, List.mem_append,
    List.mem_singleton, or_assoc] at h
  by_cases hdot : c = '.'
  · exact .inr hdot
  · simp only [hdot, false_or] at h
    rcases h with h | h | h | h <;> exact .inl (Decimal.isDigit_of_mem_text h)

theorem parse?_dotted (a : Address) : parse? a.dotted = some a := by
  obtain ⟨p, q, r, s, rfl⟩ := a.exists_eq_ofOctets
  have hdot (b : UInt8) : '.' ∉ Decimal.text b.toNat := fun h =>
    absurd (Decimal.isDigit_of_mem_text h) (by decide)
  rw [parse?, dotted_ofOctets, List.splitOn_intercalate '.' (by simp [hdot]) (List.cons_ne_nil _ _)]
  simp only [octet?_text]
  rfl

/-- The text of an address is read as the address, and no other is. -/
theorem parse?_eq_some_iff : parse? cs = some a ↔ cs = a.dotted := by
  refine ⟨fun h => ?_, fun h => h ▸ parse?_dotted a⟩
  unfold parse? at h
  split at h
  · rename_i p q r s hparts
    simp only [Option.bind_eq_bind, Option.bind_eq_some_iff, Option.pure_def,
      Option.some.injEq] at h
    obtain ⟨p', hp, q', hq, r', hr, s', hs, rfl⟩ := h
    rw [dotted_ofOctets, ← text_of_octet? hp, ← text_of_octet? hq, ← text_of_octet? hr,
      ← text_of_octet? hs, ← hparts, List.intercalate_splitOn]
  · cases h

end Address

end PortMapper
