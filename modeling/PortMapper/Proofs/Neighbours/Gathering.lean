import Mathlib.Data.List.Pairwise
import PortMapper.Neighbours

/-!
# What an announcement gathers

A host that is heard from and announces its addresses gets one record, which
gathers all records that answer to one of them (`Neighbours.Gathers`). Neither
the order of the addresses nor their repetitions matter: the record has the
addresses heard and announced and those of all the records gathered, and the
others stay as they are (`Neighbours.announce_of_admits`).

This is so because no two records answer to the same address
(`Neighbour.Apart`), so that the one found first is the only one.
-/

namespace PortMapper

namespace Neighbour

/-- Whether two records have no address in common. -/
def Apart (n n' : Neighbour) : Prop := ∀ a, n.answersTo a = true → n'.answersTo a = false

/-- Whether one of some addresses is one of the neighbour's. -/
def meets (n : Neighbour) (as : List Address) : Bool := as.any n.answersTo

variable {n n' : Neighbour} {a x : Address} {as as' : List Address}

theorem answersTo_iff : n.answersTo x = true ↔ x = n.address ∨ x ∈ n.aliases := by
  rw [answersTo, Bool.or_eq_true, beq_iff_eq, List.contains_iff_mem, eq_comm]

theorem answersTo_address (n : Neighbour) : n.answersTo n.address = true :=
  answersTo_iff.mpr (.inl rfl)

theorem Apart.not_answersTo (h : n.Apart n') (ha : n.answersTo a = true) :
    ¬n'.answersTo a = true := by
  rw [h a ha]
  exact Bool.false_ne_true

instance : Std.Symm Apart where
  symm _ _ h _ ha := Bool.eq_false_iff.mpr fun ha' => h.not_answersTo ha' ha

theorem meets_iff : n.meets as = true ↔ ∃ a ∈ as, n.answersTo a = true := List.any_eq_true

theorem not_meets_iff : (!n.meets as) = true ↔ ∀ a ∈ as, n.answersTo a = false := by
  simp only [meets, Bool.not_eq_true', List.any_eq_false, Bool.not_eq_true]

theorem meets_congr (h : ∀ x, x ∈ as ↔ x ∈ as') (n : Neighbour) : n.meets as = n.meets as' := by
  rw [Bool.eq_iff_iff, meets_iff, meets_iff]
  simp only [h]

theorem meets_singleton (n : Neighbour) (a : Address) : n.meets [a] = n.answersTo a := by
  rw [meets, List.any_cons, List.any_nil, Bool.or_false]

theorem meets_concat (n : Neighbour) (as : List Address) (a : Address) :
    n.meets (as ++ [a]) = (n.meets as || n.answersTo a) := by
  rw [meets, List.any_append, List.any_cons, List.any_nil, Bool.or_false, meets]

/-! ## Adding addresses -/

@[simp] theorem address_addAlias (n : Neighbour) (a : Address) :
    (n.addAlias a).address = n.address := by
  rw [addAlias]
  split <;> rfl

@[simp] theorem lastHeard_addAlias (n : Neighbour) (a : Address) :
    (n.addAlias a).lastHeard = n.lastHeard := by
  rw [addAlias]
  split <;> rfl

theorem answersTo_addAlias :
    (n.addAlias a).answersTo x = true ↔ n.answersTo x = true ∨ x = a := by
  rw [addAlias]
  split
  · rename_i h
    rw [List.contains_iff_mem] at h
    refine ⟨.inl, fun hx => hx.elim id ?_⟩
    rintro rfl
    exact answersTo_iff.mpr (.inr h)
  · simp only [answersTo_iff, List.mem_append, List.mem_singleton, or_assoc]

theorem answersTo_foldl_addAlias (bs : List Address) (n : Neighbour) :
    (bs.foldl (fun n b => if b = a then n else n.addAlias b) n).answersTo x = true ↔
      n.answersTo x = true ∨ x ∈ bs ∧ x ≠ a := by
  induction bs generalizing n with
  | nil => simp
  | cons b bs ih =>
    rw [List.foldl_cons, ih, List.mem_cons]
    split
    · grind
    · rw [answersTo_addAlias]
      grind

theorem foldl_addAlias_frame (bs : List Address) (n : Neighbour) :
    (bs.foldl (fun n b => if b = a then n else n.addAlias b) n).address = n.address ∧
      (bs.foldl (fun n b => if b = a then n else n.addAlias b) n).lastHeard = n.lastHeard := by
  induction bs generalizing n with
  | nil => exact ⟨rfl, rfl⟩
  | cons b bs ih =>
    rw [List.foldl_cons, (ih _).1, (ih _).2]
    split
    · exact ⟨rfl, rfl⟩
    · exact ⟨address_addAlias n b, lastHeard_addAlias n b⟩

@[simp] theorem address_absorb (n : Neighbour) (a : Address) (merged : Neighbour) :
    (n.absorb a merged).address = n.address := (foldl_addAlias_frame _ n).1

@[simp] theorem lastHeard_absorb (n : Neighbour) (a : Address) (merged : Neighbour) :
    (n.absorb a merged).lastHeard = n.lastHeard := (foldl_addAlias_frame _ n).2

/-- A host gets all the addresses of a record that it absorbs. The one that it
is heard at is left out, but the host has it already. -/
theorem answersTo_absorb {merged : Neighbour} (ha : n.answersTo a = true) :
    (n.absorb a merged).answersTo x = true ↔
      n.answersTo x = true ∨ merged.answersTo x = true := by
  rw [absorb, answersTo_foldl_addAlias, List.mem_cons, ← answersTo_iff]
  constructor
  · rintro (hx | ⟨hx, -⟩)
    · exact .inl hx
    · exact .inr hx
  · rintro (hx | hx)
    · exact .inl hx
    · by_cases hxa : x = a
      · exact .inl (hxa ▸ ha)
      · exact .inr ⟨hx, hxa⟩

end Neighbour

namespace Neighbours

/-! ## Finding a record -/

section Find

variable {records : List Neighbour} {n n' : Neighbour} {a : Address}

/-- Where records have no address in common, removing the first that answers
to an address removes all that do. -/
theorem eraseP_answersTo (h : records.Pairwise Neighbour.Apart) (a : Address) :
    records.eraseP (fun n => n.answersTo a) = records.filter fun n => !n.answersTo a := by
  induction records with
  | nil => rfl
  | cons n records ih =>
    obtain ⟨hn, hrest⟩ := List.pairwise_cons.mp h
    rw [List.eraseP_cons, List.filter_cons]
    cases ha : n.answersTo a with
    | true =>
      have hothers : ∀ n' ∈ records, (!n'.answersTo a) = true := by
        intro n' hn'
        rw [hn n' hn' a ha]
        rfl
      exact (List.filter_eq_self.mpr hothers).symm
    | false =>
      rw [ih hrest]
      rfl

/-- Where records have no address in common, the one found is the only one that
answers to an address. -/
theorem exists_answersTo_iff (h : records.Pairwise Neighbour.Apart)
    (hfind : records.find? (fun n => n.answersTo a) = some n) (P : Neighbour → Prop) :
    (∃ n ∈ records, n.answersTo a = true ∧ P n) ↔ P n := by
  have hn : n ∈ records := List.mem_of_find?_eq_some hfind
  have ha : n.answersTo a = true := by simpa using List.find?_some hfind
  constructor
  · rintro ⟨n', hn', ha', hP⟩
    have heq : n' = n := Decidable.byContradiction fun hne =>
      (h.forall hn' hn hne).not_answersTo ha' ha
    exact heq ▸ hP
  · intro hP
    exact ⟨n, hn, ha, hP⟩

theorem not_exists_answersTo (hfind : records.find? (fun n => n.answersTo a) = none)
    (P : Neighbour → Prop) : ¬∃ n ∈ records, n.answersTo a = true ∧ P n := by
  rintro ⟨n, hn, ha, -⟩
  exact List.find?_eq_none.mp hfind n hn ha

end Find

/-! ## Gathering records -/

/-- Whether a record stands in front of the others of a table for all those
that answer to some addresses: it answers to these addresses and to all of the
records that it stands for. -/
structure Gathers (records : List Neighbour) (as : List Address)
    (t : Neighbour × List Neighbour) : Prop where
  answersTo_iff (x : Address) : t.1.answersTo x = true ↔
    x ∈ as ∨ ∃ n ∈ records, n.meets as = true ∧ n.answersTo x = true
  others : t.2 = records.filter fun n => !n.meets as

variable {host : Host} {records : List Neighbour} {as as' announced : List Address}
  {a b : Address} {now : Nat} {t : Neighbour × List Neighbour}

theorem Gathers.congr (h : Gathers records as t) (has : ∀ x, x ∈ as ↔ x ∈ as') :
    Gathers records as' t where
  answersTo_iff x := by
    rw [h.answersTo_iff, has]
    simp only [Neighbour.meets_congr has]
  others := by
    rw [h.others]
    simp only [Neighbour.meets_congr has]

theorem Gathers.answersTo (h : Gathers records as t) (ha : a ∈ as) : t.1.answersTo a = true :=
  (h.answersTo_iff a).mpr (.inl ha)

/-- The record of the host heard at an address gathers those that answer to it. -/
theorem gathers_select (h : records.Pairwise Neighbour.Apart) (a : Address) (now : Nat) :
    Gathers records [a] (select ⟨records⟩ a now) := by
  have hothers := eraseP_answersTo h a
  rw [select]
  split
  · rename_i n hfind
    have ha : n.answersTo a = true := by simpa using List.find?_some hfind
    refine ⟨fun x => ?_, ?_⟩
    · simp only [Neighbour.meets_singleton, List.mem_singleton, exists_answersTo_iff h hfind]
      exact ⟨.inr, fun hx => hx.elim (fun hxa => hxa ▸ ha) id⟩
    · simp only [Neighbour.meets_singleton, hothers]
  · rename_i hfind
    refine ⟨fun x => ?_, ?_⟩
    · have hnone := not_exists_answersTo hfind fun n => n.answersTo x = true
      simp only [Neighbour.meets_singleton, List.mem_singleton, hnone, or_false]
      simp only [Neighbour.answersTo_iff, List.not_mem_nil, or_false]
    · simp only [Neighbour.meets_singleton, ← hothers]
      exact (List.eraseP_of_forall_not (List.find?_eq_none.mp hfind)).symm

/-- The records that answer to one address more are those gathered so far, and
those of the others that answer to it. -/
theorem Gathers.exists_meets_concat (h : Gathers records as t) (b : Address)
    (P : Neighbour → Prop) : (∃ n ∈ records, n.meets (as ++ [b]) = true ∧ P n) ↔
      (∃ n ∈ records, n.meets as = true ∧ P n) ∨ ∃ n ∈ t.2, n.answersTo b = true ∧ P n := by
  simp only [h.others, List.mem_filter, Neighbour.meets_concat, Bool.or_eq_true, Bool.not_eq_true']
  constructor
  · rintro ⟨n, hn, has | hb, hP⟩
    · exact .inl ⟨n, hn, has, hP⟩
    · cases has : n.meets as with
      | true => exact .inl ⟨n, hn, has, hP⟩
      | false => exact .inr ⟨n, ⟨hn, has⟩, hb, hP⟩
  · rintro (⟨n, hn, has, hP⟩ | ⟨n, ⟨hn, -⟩, hb, hP⟩)
    · exact ⟨n, hn, .inl has, hP⟩
    · exact ⟨n, hn, .inr hb, hP⟩

/-- Folding in an announced address gathers the records that answer to it. -/
theorem Gathers.fold (hg : Gathers records as t) (h : records.Pairwise Neighbour.Apart)
    (ha : a ∈ as) (hb : ¬(b = a ∨ host.owns b = true)) :
    Gathers records (as ++ [b]) (Neighbours.fold host a t b) := by
  have hrest : t.2.Pairwise Neighbour.Apart := by
    rw [hg.others]
    exact h.filter _
  have hothers : t.2.filter (fun n => !n.answersTo b) =
      records.filter fun n => !n.meets (as ++ [b]) := by
    rw [hg.others, List.filter_filter]
    simp only [Neighbour.meets_concat, Bool.not_or, Bool.and_comm]
  have hfirst := hg.answersTo ha
  have hiff := hg.answersTo_iff
  have hmeets := hg.exists_meets_concat b
  obtain ⟨first, rest⟩ := t
  simp only [Neighbours.fold, if_neg hb]
  split
  · rename_i merged hfind
    refine ⟨fun x => ?_, ?_⟩
    · rw [hmeets, exists_answersTo_iff hrest hfind, Neighbour.answersTo_addAlias,
        Neighbour.answersTo_absorb hfirst, hiff, List.mem_append, List.mem_singleton]
      grind
    · rw [← hothers]
      exact eraseP_answersTo hrest b
  · rename_i hfind
    refine ⟨fun x => ?_, ?_⟩
    · rw [hmeets, Neighbour.answersTo_addAlias, hiff, List.mem_append, List.mem_singleton]
      have hnone := not_exists_answersTo hfind fun n => n.answersTo x = true
      grind
    · rw [← hothers, ← eraseP_answersTo hrest b]
      exact (List.eraseP_of_forall_not (List.find?_eq_none.mp hfind)).symm

/-- The addresses that an announcement gathers the records of: the one that the
host is heard at, and those announced that are not ours. -/
def gathered (host : Host) (a : Address) (announced : List Address) : List Address :=
  a :: announced.filter fun b => !host.owns b

/-- Folding in some addresses one after another. -/
theorem Gathers.foldl (hg : Gathers records as t) (h : records.Pairwise Neighbour.Apart)
    (ha : a ∈ as) (host : Host) (announced : List Address) :
    Gathers records (as ++ announced.filter fun b => !host.owns b)
      (announced.foldl (Neighbours.fold host a) t) := by
  induction announced generalizing as t with
  | nil => simpa using hg
  | cons b announced ih =>
    rw [List.foldl_cons]
    by_cases hb : b = a ∨ host.owns b = true
    · rw [show Neighbours.fold host a t b = t by rw [Neighbours.fold, if_pos hb]]
      refine (ih hg ha).congr fun x => ?_
      rcases hb with rfl | hown
      · cases hown : host.owns b <;> simp only [List.filter_cons, hown] <;> grind
      · simp [hown]
    · have hown : host.owns b = false := Bool.eq_false_iff.mpr fun hown => hb (.inr hown)
      have hrec := ih (hg.fold h ha hb) (List.mem_append_left _ ha)
      rwa [List.append_assoc, List.singleton_append, ← List.filter_cons_of_pos
        (p := fun b => !host.owns b) (by rw [hown]; rfl)] at hrec

/-- Folding in addresses keeps the address that a host was first heard from and
the time at which it was heard last. -/
theorem foldl_fold_frame (host : Host) (a : Address) (announced : List Address)
    (t : Neighbour × List Neighbour) :
    (announced.foldl (Neighbours.fold host a) t).1.address = t.1.address ∧
      (announced.foldl (Neighbours.fold host a) t).1.lastHeard = t.1.lastHeard := by
  induction announced generalizing t with
  | nil => exact ⟨rfl, rfl⟩
  | cons b announced ih =>
    rw [List.foldl_cons, (ih _).1, (ih _).2, Neighbours.fold]
    split
    · exact ⟨rfl, rfl⟩
    · split <;> simp

/-- What an announcement of a neighbour does to the table. -/
theorem announce_of_admits {t : Neighbours} (h : t.records.Pairwise Neighbour.Apart)
    (ha : host.admits a = true) (announced : List Address) (now : Nat) :
    ∃ first, t.announce host a announced now =
        (true, ⟨first :: t.records.filter fun n => !n.meets (gathered host a announced)⟩) ∧
      first.address = (t.select a now).1.address ∧ first.lastHeard = now ∧
      ∀ x, first.answersTo x = true ↔ x ∈ gathered host a announced ∨
        ∃ n ∈ t.records, n.meets (gathered host a announced) = true ∧ n.answersTo x = true := by
  obtain ⟨hiff, hothers⟩ := gathers_select h a now
  have hgathers : Gathers t.records [a]
      ({ (t.select a now).1 with lastHeard := now }, (t.select a now).2) := ⟨hiff, hothers⟩
  have hfold := hgathers.foldl h List.mem_cons_self host announced
  obtain ⟨haddress, hheard⟩ := foldl_fold_frame host a announced
    ({ (t.select a now).1 with lastHeard := now }, (t.select a now).2)
  refine ⟨_, ?_, haddress, hheard, hfold.answersTo_iff⟩
  rw [announce, if_pos ha]
  exact congrArg (fun others => (true, Neighbours.mk (_ :: others))) hfold.others

theorem announce_of_not_admits {t : Neighbours} (ha : host.admits a = false)
    (announced : List Address) (now : Nat) : t.announce host a announced now = (false, t) := by
  rw [announce, if_neg (Bool.eq_false_iff.mp ha)]

end Neighbours

end PortMapper
