import PortMapper.Directory

/-!
# Ordered directories

A directory is ordered if its names ascend and each of its entries could be
registered (`Directory.Ordered`). Only then does bisection find what it looks
for: `Ordered.locate` says what the place of a name tells about the entries,
as a split of their list at that place. An operation changes the entries at
such a split, by inserting, replacing or removing one entry there; the lemmas
at the end say that each of these leaves the directory ordered.
-/

namespace PortMapper

/-- Names are compared byte by byte. -/
theorem compare_bytes_eq_lt {a b : Bytes} : compare a b = .lt ↔ a < b := by
  induction a generalizing b with
  | nil => cases b <;> simp
  | cons x a ih =>
    cases b with
    | nil => simp
    | cons y b =>
      rw [List.compare_eq_compareLex] at ih ⊢
      rw [List.compareLex_cons_cons, Ordering.then_eq_lt, ih, Std.compare_eq_lt,
        Std.compare_eq_iff_eq, List.cons_lt_cons_iff]

theorem compare_bytes_eq_gt {a b : Bytes} : compare a b = .gt ↔ b < a := by
  rw [Std.OrientedCmp.gt_iff_lt, compare_bytes_eq_lt]

namespace Directory

/-- The names ascend, and every entry could be registered. -/
structure Ordered (d : Directory) : Prop where
  ascending : d.entries.toList.Pairwise fun a b => a.name < b.name
  acceptable : ∀ e ∈ d.entries.toList, Directory.acceptable e.name e.port = true

theorem ordered_empty : Ordered {} := ⟨.nil, by simp⟩

/-- What may be registered, in numbers. -/
theorem acceptable_iff {name : Bytes} {port : UInt32} :
    acceptable name port = true ↔
      (1 ≤ name.length ∧ name.length ≤ 255) ∧ 1 ≤ port.toNat ∧ port.toNat ≤ 65535 := by
  have hzero : port = 0 ↔ port.toNat = 0 := UInt32.toNat_inj.symm
  have hempty : ¬name = [] ↔ 0 < name.length := List.length_pos_iff.symm
  have hmax : port ≤ maxPort ↔ port.toNat ≤ 65535 := UInt32.le_iff_toNat_le
  have hlen : name.length ≤ maxNameLength ↔ name.length ≤ 255 := Iff.rfl
  simp only [acceptable, Bool.and_eq_true, Bool.not_eq_true', List.isEmpty_eq_false_iff,
    decide_eq_true_eq, bne_iff_ne, ne_eq, hzero, hempty, hmax, hlen]
  omega

/-- What is registered was acceptable. -/
theorem Ordered.bounds {d : Directory} (h : d.Ordered) {e : Registration} (he : e ∈ d.entries) :
    (1 ≤ e.name.length ∧ e.name.length ≤ 255) ∧ 1 ≤ e.port.toNat ∧ e.port.toNat ≤ 65535 :=
  acceptable_iff.mp (h.acceptable e (Array.mem_toList_iff.mpr he))

/-! ## Bisection -/

/-- The names before `lo` come before `name`, and those from `hi` on after it. -/
structure Window (d : Directory) (name : Bytes) (lo hi : Nat) : Prop where
  le : lo ≤ hi
  le_size : hi ≤ d.entries.size
  below : ∀ {i e}, d.entries[i]? = some e → i < lo → e.name < name
  above : ∀ {i e}, d.entries[i]? = some e → hi ≤ i → name < e.name

theorem window_all (d : Directory) (name : Bytes) : d.Window name 0 d.entries.size where
  le := Nat.zero_le _
  le_size := Nat.le_refl _
  below _ h := absurd h (Nat.not_lt_zero _)
  above he h := by
    rw [Array.getElem?_eq_none h] at he
    cases he

/-- The names of an ordered directory ascend with their positions. -/
theorem Ordered.name_lt {d : Directory} (h : d.Ordered) {i j : Nat} {a b : Registration}
    (ha : d.entries[i]? = some a) (hb : d.entries[j]? = some b) (hij : i < j) :
    a.name < b.name := by
  rw [← Array.getElem?_toList, List.getElem?_eq_some_iff] at ha hb
  obtain ⟨hi, rfl⟩ := ha
  obtain ⟨hj, rfl⟩ := hb
  exact List.pairwise_iff_getElem.mp h.ascending i j hi hj hij

theorem Window.right {d : Directory} (h : d.Ordered) {name : Bytes} {lo hi mid : Nat}
    {e : Registration} (w : d.Window name lo hi) (he : d.entries[mid]? = some e) (hmid : mid < hi)
    (hlt : e.name < name) : d.Window name (mid + 1) hi where
  le := hmid
  le_size := w.le_size
  below ha hi := by
    rcases Nat.lt_or_eq_of_le (Nat.le_of_lt_succ hi) with hi | rfl
    · exact List.lt_trans (h.name_lt ha he hi) hlt
    · rwa [Option.some.inj (ha.symm.trans he)]
  above := w.above

theorem Window.left {d : Directory} (h : d.Ordered) {name : Bytes} {lo hi mid : Nat}
    {e : Registration} (w : d.Window name lo hi) (he : d.entries[mid]? = some e) (hmid : lo ≤ mid)
    (hlt : name < e.name) : d.Window name lo mid where
  le := hmid
  le_size := Nat.le_of_lt (Array.getElem?_eq_some_iff.mp he).1
  below := w.below
  above ha hi := by
    rcases Nat.lt_or_eq_of_le hi with hi | rfl
    · exact List.lt_trans hlt (h.name_lt he ha hi)
    · rwa [Option.some.inj (ha.symm.trans he)]

/-- Bisection ends at an entry of the name, or at the one point that
separates the names before it from those after it. -/
theorem Ordered.locateIn {d : Directory} (h : d.Ordered) {name : Bytes} {lo hi : Nat}
    (w : d.Window name lo hi) :
    (∃ i e, d.locateIn name lo hi = .present i e ∧ d.entries[i]? = some e ∧ e.name = name) ∨
      ∃ i, d.locateIn name lo hi = .absent i ∧ d.Window name i i := by
  fun_induction d.locateIn name lo hi with
  | case1 lo hi hlt mid hnone =>
    have hsize := Array.getElem?_eq_none_iff.mp hnone
    have := w.le_size
    omega
  | case2 lo hi hlt mid e he hc ih => exact ih (w.right h he (by omega) (compare_bytes_eq_lt.mp hc))
  | case3 lo hi hlt mid e he hc => exact .inl ⟨mid, e, rfl, he, Std.compare_eq_iff_eq.mp hc⟩
  | case4 lo hi hlt mid e he hc ih => exact ih (w.left h he (by omega) (compare_bytes_eq_gt.mp hc))
  | case5 lo hi hge =>
    obtain rfl : lo = hi := by have := w.le; omega
    exact .inr ⟨lo, rfl, w⟩

/-- A name is found at a split of the entries around its entry, or else at the
split between the names before it and those after it. -/
theorem Ordered.locate {d : Directory} (h : d.Ordered) (name : Bytes) :
    (∃ l e r, d.locate name = .present l.length e ∧ d.entries.toList = l ++ e :: r ∧
        e.name = name) ∨
      ∃ l r, d.locate name = .absent l.length ∧ d.entries.toList = l ++ r ∧
        (∀ e ∈ l, e.name < name) ∧ ∀ e ∈ r, name < e.name := by
  rcases h.locateIn (d.window_all name) with ⟨i, e, hl, he, hn⟩ | ⟨i, hl, w⟩
  · rw [← Array.getElem?_toList, List.getElem?_eq_some_iff] at he
    obtain ⟨hi, rfl⟩ := he
    refine .inl ⟨d.entries.toList.take i, _, d.entries.toList.drop (i + 1), ?_, ?_, hn⟩
    · rw [List.length_take_of_le (Nat.le_of_lt hi)]
      exact hl
    · rw [← List.drop_eq_getElem_cons hi, List.take_append_drop]
  · refine .inr ⟨d.entries.toList.take i, d.entries.toList.drop i, ?_,
      (List.take_append_drop i _).symm, fun e he => ?_, fun e he => ?_⟩
    · rw [List.length_take_of_le w.le_size]
      exact hl
    · obtain ⟨j, hj, rfl⟩ := List.mem_take_iff_getElem.mp he
      have hlt : j < i ∧ j < d.entries.size := Nat.lt_min.mp hj
      exact w.below (Array.getElem?_eq_some_iff.mpr ⟨hlt.2, rfl⟩) hlt.1
    · obtain ⟨j, hj, rfl⟩ := List.mem_drop_iff_getElem.mp he
      have hlt : i + j < d.entries.size := by simpa [Nat.add_comm] using hj
      exact w.above (Array.getElem?_eq_some_iff.mpr ⟨hlt, rfl⟩) (Nat.le_add_right _ _)

/-! ## Changing one entry -/

section

variable {d : Directory} {l r : List Registration} {e new : Registration}

theorem insertIdx_length_append (l r : List Registration) (new : Registration) :
    (l ++ r).insertIdx l.length new = l ++ new :: r := by
  induction l with
  | nil => simp
  | cons a l ih => simp [ih]

theorem toList_insert (split : d.entries.toList = l ++ r) :
    (d.entries.insertIdxIfInBounds l.length new).toList = l ++ new :: r := by
  have hle : l.length ≤ d.entries.size := by
    rw [← Array.length_toList, split, List.length_append]
    exact Nat.le_add_right _ _
  rw [Array.insertIdxIfInBounds, dif_pos hle, Array.toList_insertIdx, split,
    insertIdx_length_append]

theorem toList_replace (split : d.entries.toList = l ++ e :: r) :
    (d.entries.setIfInBounds l.length new).toList = l ++ new :: r := by
  rw [Array.toList_setIfInBounds, split, List.set_append_right _ _ (Nat.le_refl _), Nat.sub_self,
    List.set_cons_zero]

theorem toList_remove (split : d.entries.toList = l ++ e :: r) :
    (d.entries.eraseIdxIfInBounds l.length).toList = l ++ r := by
  rw [Array.toList_eraseIdxIfInBounds, split, List.eraseIdx_append_of_length_le (Nat.le_refl _),
    Nat.sub_self, List.eraseIdx_cons_zero]

theorem Ordered.insert (h : d.Ordered) (new : Registration) (split : d.entries.toList = l ++ r)
    (below : ∀ e ∈ l, e.name < new.name) (above : ∀ e ∈ r, new.name < e.name)
    (hnew : Directory.acceptable new.name new.port = true) :
    Ordered ⟨d.entries.insertIdxIfInBounds l.length new⟩ := by
  obtain ⟨hasc, hacc⟩ := h
  rw [split, List.pairwise_append] at hasc
  rw [split] at hacc
  constructor <;> rw [toList_insert split]
  · refine List.pairwise_append.mpr ⟨hasc.1, List.pairwise_cons.mpr ⟨above, hasc.2.1⟩, ?_⟩
    intro a ha b hb
    rcases List.mem_cons.mp hb with rfl | hb
    · exact below a ha
    · exact hasc.2.2 a ha b hb
  · intro a ha
    rcases List.mem_append.mp ha with ha | ha
    · exact hacc a (List.mem_append_left _ ha)
    rcases List.mem_cons.mp ha with rfl | ha
    · exact hnew
    · exact hacc a (List.mem_append_right _ ha)

theorem Ordered.of_sublist {d' : Directory} (h : d.Ordered)
    (hs : d'.entries.toList.Sublist d.entries.toList) : d'.Ordered where
  ascending := h.ascending.sublist hs
  acceptable e he := h.acceptable e (hs.subset he)

theorem Ordered.remove (h : d.Ordered) (split : d.entries.toList = l ++ e :: r) :
    Ordered ⟨d.entries.eraseIdxIfInBounds l.length⟩ := by
  refine h.of_sublist ?_
  rw [toList_remove split, split]
  exact (List.sublist_cons_self e r).append_left l

/-- The names around an entry of an ordered directory. -/
theorem Ordered.around (h : d.Ordered) (split : d.entries.toList = l ++ e :: r) :
    (∀ a ∈ l, a.name < e.name) ∧ ∀ a ∈ r, e.name < a.name := by
  have hasc := h.ascending
  rw [split, List.pairwise_append, List.pairwise_cons] at hasc
  exact ⟨fun a ha => hasc.2.2 a ha e List.mem_cons_self, hasc.2.1.1⟩

theorem Ordered.replace (h : d.Ordered) (new : Registration)
    (split : d.entries.toList = l ++ e :: r) (hname : e.name = new.name)
    (hnew : Directory.acceptable new.name new.port = true) :
    Ordered ⟨d.entries.setIfInBounds l.length new⟩ := by
  -- Replacing an entry is removing it and inserting the new one in its place.
  obtain ⟨below, above⟩ := h.around split
  rw [hname] at below above
  have hins := (h.remove split).insert new (toList_remove split) below above hnew
  have heq : (⟨d.entries.setIfInBounds l.length new⟩ : Directory) =
      ⟨(d.entries.eraseIdxIfInBounds l.length).insertIdxIfInBounds l.length new⟩ := by
    rw [mk.injEq, ← Array.toList_inj, toList_replace split,
      toList_insert (d := ⟨d.entries.eraseIdxIfInBounds l.length⟩) (toList_remove split)]
  rwa [heq]

end

end Directory

end PortMapper
