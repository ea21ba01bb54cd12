import Mathlib.Data.List.Basic
import PortMapper.Decimal

/-!
# Reading decimal numbers

`Decimal.Denotes` says which texts stand for a number. A reader accepts exactly those whose number
is within its limit (`Decimal.read_eq_ok_iff`). Leading zeros and the plus sign apart, a number
has one text only (`Decimal.text_ofDigitChars`).
-/

namespace PortMapper

namespace Decimal

/-- Whether a text stands for a number: it has digits, of which there must be one, and a plus sign
before them if wanted. -/
def Denotes (cs : List Char) (n : Nat) : Prop :=
  ∃ ds, (cs = ds ∨ cs = '+' :: ds) ∧ ds ≠ [] ∧ (∀ c ∈ ds, c.isDigit = true) ∧
    Nat.ofDigitChars 10 ds 0 = n

variable {limit n m : Nat} {c : Char} {cs : List Char}

/-! ## Digits -/

theorem digitChar_toNat_sub (h : c.isDigit = true) : (c.toNat - '0'.toNat).digitChar = c := by
  obtain ⟨hleast, hgreatest⟩ := Char.isDigit_iff_toNat.mp h
  have hzero : '0'.toNat = 48 := rfl
  have hnine : '9'.toNat = 57 := rfl
  rw [← Char.toNat_inj, Nat.toNat_digitChar_of_lt_ten (by omega)]
  omega

theorem toNat_sub_lt_ten (h : c.isDigit = true) : c.toNat - '0'.toNat < 10 := by
  obtain ⟨-, hgreatest⟩ := Char.isDigit_iff_toNat.mp h
  have hzero : '0'.toNat = 48 := rfl
  have hnine : '9'.toNat = 57 := rfl
  omega

theorem le_ofDigitChars (n : Nat) (cs : List Char) : n ≤ Nat.ofDigitChars 10 cs n := by
  rw [Nat.ofDigitChars_eq_ofDigitChars_zero]
  exact Nat.le_add_right_of_le (Nat.le_mul_of_pos_left n (Nat.pow_pos (by decide)))

theorem isDigit_of_mem_text (h : c ∈ text n) : c.isDigit = true :=
  Nat.isDigit_of_mem_toDigits (by decide) (by decide) h

theorem text_digit (h : c.isDigit = true) : text (c.toNat - '0'.toNat) = [c] := by
  rw [text, Nat.toDigits_of_lt_base (toNat_sub_lt_ten h), digitChar_toNat_sub h]

/-- Digits after the text of a number other than 0 make the text of a larger one. -/
theorem text_append (hn : 0 < n) (h : ∀ c ∈ cs, c.isDigit = true) :
    text n ++ cs = text (Nat.ofDigitChars 10 cs n) := by
  induction cs generalizing n with
  | nil => rw [List.append_nil, Nat.ofDigitChars_nil]
  | cons c cs ih =>
    obtain ⟨hc, hcs⟩ := List.forall_mem_cons.mp h
    have hnext : text n ++ [c] = text (10 * n + (c.toNat - '0'.toNat)) := by
      rw [← text_digit hc]
      exact Nat.toDigits_append_toDigits (by decide) hn (toNat_sub_lt_ten hc)
    calc text n ++ c :: cs
      _ = (text n ++ [c]) ++ cs := by rw [List.append_assoc, List.singleton_append]
      _ = text (10 * n + (c.toNat - '0'.toNat)) ++ cs := by rw [hnext]
      _ = text (Nat.ofDigitChars 10 (c :: cs) n) := by
        rw [ih (by omega) hcs, Nat.ofDigitChars_cons]

/-- Digits without a leading zero are the text of their number. -/
theorem text_ofDigitChars (hne : cs ≠ []) (hdigits : ∀ c ∈ cs, c.isDigit = true)
    (hzero : 1 < cs.length → cs.head? ≠ some '0') : text (Nat.ofDigitChars 10 cs 0) = cs := by
  cases cs with
  | nil => exact absurd rfl hne
  | cons c cs =>
    obtain ⟨hc, hcs⟩ := List.forall_mem_cons.mp hdigits
    rw [Nat.ofDigitChars_cons, Nat.mul_zero, Nat.zero_add]
    rcases Nat.eq_zero_or_pos (c.toNat - '0'.toNat) with hvalue | hvalue
    · have hchar : c = '0' := by rw [← digitChar_toNat_sub hc, hvalue]; rfl
      have hnil : cs = [] := by
        by_contra hcs
        have hlong : 1 < (c :: cs).length := Nat.succ_lt_succ (List.length_pos_iff.mpr hcs)
        exact hzero hlong (congrArg some hchar)
      rw [hnil, Nat.ofDigitChars_nil, text_digit hc]
    · rw [← text_append hvalue hcs, text_digit hc, List.singleton_append]

/-! ## Reading -/

/-- What has been read so far is within the limit. -/
theorem readDigits_eq_ok_iff (h : n ≤ limit) : readDigits limit n cs = .ok m ↔
    (∀ c ∈ cs, c.isDigit = true) ∧ Nat.ofDigitChars 10 cs n = m ∧ m ≤ limit := by
  induction cs generalizing n with
  | nil =>
    rw [readDigits, Except.ok.injEq, Nat.ofDigitChars_nil]
    exact ⟨fun heq => ⟨by simp, heq, heq ▸ h⟩, fun hm => hm.2.1⟩
  | cons c cs ih =>
    rw [readDigits, List.forall_mem_cons, Nat.ofDigitChars_cons]
    by_cases hc : c.isDigit = true
    · rw [if_neg (by rw [hc]; decide), and_iff_right hc]
      by_cases hlimit : limit < 10 * n + (c.toNat - '0'.toNat)
      · have hle := le_ofDigitChars (10 * n + (c.toNat - '0'.toNat)) cs
        simp only [if_pos hlimit, reduceCtorEq, false_iff]
        omega
      · simp only [if_neg hlimit]
        exact ih (Nat.not_lt.mp hlimit)
    · rw [if_pos (by simpa using hc)]
      exact iff_of_false (fun heq => by cases heq) fun hm => hc hm.1.1

/-- A reader accepts exactly the texts of numbers up to its limit. -/
theorem read_eq_ok_iff : read limit cs = .ok n ↔ Denotes cs n ∧ n ≤ limit := by
  -- A text has one reading, with the plus sign or without, since the sign is no digit.
  have hdigits (ds : List Char) (hne : ds ≠ []) : readDigits limit 0 ds = .ok n ↔
      (ds ≠ [] ∧ (∀ c ∈ ds, c.isDigit = true) ∧ Nat.ofDigitChars 10 ds 0 = n) ∧ n ≤ limit := by
    rw [readDigits_eq_ok_iff (Nat.zero_le _), and_iff_right hne, and_assoc]
  unfold read
  split
  · refine iff_of_false (fun heq => by cases heq) ?_
    rintro ⟨⟨ds, hds, hne, -⟩, -⟩
    rcases hds with rfl | hds
    · exact hne rfl
    · cases hds
  · refine iff_of_false (fun heq => by cases heq) ?_
    rintro ⟨⟨ds, hds, hne, hdigit, -⟩, -⟩
    rcases hds with rfl | hds
    · exact absurd (hdigit '+' (by simp)) (by decide)
    · exact hne (List.cons.inj hds).2.symm
  · rename_i ds hne
    rw [hdigits ds (fun h => hne (by rw [h]))]
    refine and_congr_left fun _ => ⟨fun h => ⟨ds, .inr rfl, h⟩, ?_⟩
    rintro ⟨ds', hds, h⟩
    rcases hds with rfl | hds
    · exact absurd (h.2.1 '+' (by simp)) (by decide)
    · rwa [(List.cons.inj hds).2]
  · rename_i hne hplus hsign
    rw [hdigits cs hne]
    refine and_congr_left fun _ => ⟨fun h => ⟨cs, .inl rfl, h⟩, ?_⟩
    rintro ⟨ds, hds, h⟩
    rcases hds with rfl | hds
    · exact h
    · exact absurd hds (hsign ds)

end Decimal

end PortMapper
