import Mathlib.Data.List.TakeWhile
import PortMapper.Proofs.Decimal
import PortMapper.Text.Blank

/-!
# Texts without the white space around them

White space around a text is not part of it (`trim_pad`), and a text without any stays as it is
(`trim_eq_self`).
-/

namespace PortMapper

variable {c : Char} {before cs after : List Char}

theorem isWhiteSpace_of_isDigit (h : c.isDigit = true) : isWhiteSpace c = false := by
  have hall : ∀ n < 10, isWhiteSpace n.digitChar = false := by decide
  rw [← Decimal.digitChar_toNat_sub h]
  exact hall _ (Decimal.toNat_sub_lt_ten h)

theorem dropWhile_eq_nil (h : ∀ c ∈ cs, isWhiteSpace c = true) :
    cs.dropWhile isWhiteSpace = [] := by
  rw [← List.append_nil cs, List.dropWhile_append_of_pos h, List.dropWhile_nil]

theorem dropWhile_eq_self (h : ∀ c ∈ cs, isWhiteSpace c = false) :
    cs.dropWhile isWhiteSpace = cs := by
  cases cs with
  | nil => rfl
  | cons c cs =>
    rw [List.dropWhile_cons_of_neg]
    rw [(List.forall_mem_cons.mp h).1]
    decide

/-- White space before and after a text is not part of it. -/
theorem trim_pad (hbefore : ∀ c ∈ before, isWhiteSpace c = true)
    (hafter : ∀ c ∈ after, isWhiteSpace c = true) : trim (before ++ cs ++ after) = trim cs := by
  have hreverse : ∀ c ∈ after.reverse, isWhiteSpace c = true :=
    fun c hc => hafter c (List.mem_reverse.mp hc)
  rw [trim, List.append_assoc, List.dropWhile_append_of_pos hbefore, List.dropWhile_append]
  split
  · rename_i hnil
    rw [trim, List.isEmpty_iff.mp hnil, dropWhile_eq_nil hafter]
  · rw [trim, List.reverse_append, List.dropWhile_append_of_pos hreverse]

theorem trim_eq_self (h : ∀ c ∈ cs, isWhiteSpace c = false) : trim cs = cs := by
  rw [trim, dropWhile_eq_self h, dropWhile_eq_self fun c hc => h c (List.mem_reverse.mp hc),
    List.reverse_reverse]

/-- A text is what is left of it without the white space around it, and that white space. -/
theorem exists_pad_trim (cs : List Char) : ∃ before after,
    (∀ c ∈ before ++ after, isWhiteSpace c = true) ∧ before ++ trim cs ++ after = cs := by
  refine ⟨cs.takeWhile isWhiteSpace,
    ((cs.dropWhile isWhiteSpace).reverse.takeWhile isWhiteSpace).reverse,
    List.forall_mem_append.mpr ⟨fun c hc => List.mem_takeWhile_imp hc, fun c hc => ?_⟩, ?_⟩
  · exact List.mem_takeWhile_imp (List.mem_reverse.mp hc)
  · rw [trim, List.append_assoc, ← List.reverse_append, List.takeWhile_append_dropWhile,
      List.reverse_reverse, List.takeWhile_append_dropWhile]

end PortMapper
