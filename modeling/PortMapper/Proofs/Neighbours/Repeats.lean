import Mathlib.Data.List.Induction
import PortMapper.Proofs.Neighbours.Merging

/-!
# Addresses that a record repeats

No record has an alias twice (`Neighbours.nodup_aliases_changeAll`). But aliases are
only compared with one another and with the address that the host is heard at, and not
with the one that it was first heard from. So a host that is heard at another of its
addresses and announces the first gets this one as an alias (`Neighbours.Echoes`).

Nothing else makes a record repeat an address: no record ever does exactly if no
announcement does so (`Neighbours.addresses_repeated_iff`).
-/

namespace PortMapper

/-! ## Adding aliases -/

namespace Neighbour

variable {n merged : Neighbour} {a x : Address}

theorem mem_aliases_addAlias : x ∈ (n.addAlias a).aliases ↔ x ∈ n.aliases ∨ x = a := by
  rw [addAlias]
  split
  · rename_i h
    rw [List.contains_iff_mem] at h
    exact ⟨.inl, fun hx => hx.elim id fun heq => heq ▸ h⟩
  · rw [List.mem_append, List.mem_singleton]

theorem nodup_aliases_addAlias (h : n.aliases.Nodup) : (n.addAlias a).aliases.Nodup := by
  rw [addAlias]
  split
  · exact h
  · rename_i hnew
    rw [List.contains_iff_mem] at hnew
    refine List.nodup_append.mpr ⟨h, by simp, fun x hx y hy heq => hnew ?_⟩
    rwa [← List.mem_singleton.mp hy, ← heq]

theorem mem_aliases_absorb : x ∈ (n.absorb a merged).aliases ↔
    x ∈ n.aliases ∨ x ≠ a ∧ merged.answersTo x = true := by
  rw [answersTo_iff, ← List.mem_cons, absorb]
  generalize merged.address :: merged.aliases = bs
  induction bs generalizing n with
  | nil => simp
  | cons b bs ih =>
    rw [List.foldl_cons, ih, List.mem_cons]
    split
    · grind
    · rw [mem_aliases_addAlias]
      grind

theorem nodup_aliases_absorb (h : n.aliases.Nodup) : (n.absorb a merged).aliases.Nodup := by
  rw [absorb]
  generalize merged.address :: merged.aliases = bs
  induction bs generalizing n with
  | nil => exact h
  | cons b bs ih =>
    rw [List.foldl_cons]
    split
    · exact ih h
    · exact ih (nodup_aliases_addAlias h)

end Neighbour

namespace Neighbours

variable {t : Neighbours} {host : Host} {a b p : Address} {announced : List Address} {now : Nat}
  {f : Neighbour × List Neighbour}

/-! ## Folding addresses in -/

theorem others_fold_sublist : (fold host a f b).2.Sublist f.2 := by
  rw [fold]
  split
  · exact .refl _
  · split
    · exact List.eraseP_sublist
    · exact .refl _

theorem others_foldl_sublist : (announced.foldl (fold host a) f).2.Sublist f.2 := by
  induction announced generalizing f with
  | nil => exact .refl _
  | cons b announced ih => exact ih.trans others_fold_sublist

theorem nodup_aliases_fold (h : f.1.aliases.Nodup) : (fold host a f b).1.aliases.Nodup := by
  rw [fold]
  split
  · exact h
  · split
    · exact Neighbour.nodup_aliases_addAlias (Neighbour.nodup_aliases_absorb h)
    · exact Neighbour.nodup_aliases_addAlias h

theorem nodup_aliases_foldl (h : f.1.aliases.Nodup) :
    (announced.foldl (fold host a) f).1.aliases.Nodup := by
  induction announced generalizing f with
  | nil => exact h
  | cons b announced ih => exact ih (nodup_aliases_fold h)

/-- An address that none of the other records answers to becomes an alias only if it is
the one announced, and not the one heard at. -/
theorem mem_aliases_fold (hp : host.owns p = false) (h : ∀ n ∈ f.2, n.answersTo p = false) :
    p ∈ (fold host a f b).1.aliases ↔ p ∈ f.1.aliases ∨ p = b ∧ p ≠ a := by
  rw [fold]
  split
  · rename_i hskip
    refine ⟨.inl, fun hmem => hmem.elim id ?_⟩
    rintro ⟨rfl, hne⟩
    rcases hskip with heq | hown
    · exact absurd heq hne
    · rw [hp] at hown
      cases hown
  · rename_i hskip
    split
    · rename_i merged hfind
      have hmerged := h merged (List.mem_of_find?_eq_some hfind)
      rw [Neighbour.mem_aliases_addAlias, Neighbour.mem_aliases_absorb, hmerged]
      grind
    · rw [Neighbour.mem_aliases_addAlias]
      grind

theorem mem_aliases_foldl (hp : host.owns p = false) (h : ∀ n ∈ f.2, n.answersTo p = false) :
    p ∈ (announced.foldl (fold host a) f).1.aliases ↔
      p ∈ f.1.aliases ∨ p ∈ announced ∧ p ≠ a := by
  induction announced generalizing f with
  | nil => simp
  | cons b announced ih =>
    have hothers : ∀ n ∈ (fold host a f b).2, n.answersTo p = false :=
      fun n hn => h n (others_fold_sublist.subset hn)
    rw [List.foldl_cons, ih hothers, mem_aliases_fold hp h, List.mem_cons]
    grind

/-! ## Announcements -/

/-- Whether a host that is heard at another of its addresses announces the one that it
was first heard from. -/
def Echoes (t : Neighbours) (host : Host) (a : Address) (announced : List Address) : Prop :=
  host.admits a = true ∧
    ∃ n ∈ t.records, n.answersTo a = true ∧ n.address ≠ a ∧ n.address ∈ announced

/-- Whether no record has an address twice. -/
def Concise (t : Neighbours) : Prop := ∀ n ∈ t.records, (n.address :: n.aliases).Nodup

/-- The records after an announcement of a neighbour: that of the host, with the addresses
folded in one after another, and the others. -/
theorem records_announce (ha : host.admits a = true) (announced : List Address) (now : Nat) :
    (t.announce host a announced now).2.records =
      let f := announced.foldl (fold host a)
        ({ (t.select a now).1 with lastHeard := now }, (t.select a now).2)
      f.1 :: f.2 := by
  rw [announce, if_pos ha]

theorem others_select_sublist : (t.select a now).2.Sublist t.records := by
  rw [select]
  split
  · exact List.eraseP_sublist
  · exact .refl _

/-- The other records after an announcement were there before. -/
theorem mem_of_mem_others {n first : Neighbour}
    (hn : n ∈ (announced.foldl (fold host a) (first, (t.select a now).2)).2) : n ∈ t.records := by
  have hselect := others_foldl_sublist.subset hn
  exact others_select_sublist.subset hselect

/-- What holds of all records, and of a new one, holds of the record of a host. -/
theorem select_induction {P : Neighbour → Prop} (h : ∀ n ∈ t.records, P n)
    (hnew : P ⟨a, [], now⟩) : P (t.select a now).1 := by
  rcases t.select_cases a now with ⟨n, hn, -, heq⟩ | ⟨-, heq⟩
  · rw [heq]
    exact h n hn
  · rw [heq]
    exact hnew

theorem nodup_aliases_announce (h : ∀ n ∈ t.records, n.aliases.Nodup) (a : Address)
    (announced : List Address) (now : Nat) :
    ∀ n ∈ (t.announce host a announced now).2.records, n.aliases.Nodup := by
  cases ha : host.admits a with
  | false => rwa [announce_of_not_admits ha]
  | true =>
    rw [records_announce ha]
    have hselect : (t.select a now).1.aliases.Nodup :=
      select_induction (P := fun n => n.aliases.Nodup) h .nil
    refine List.forall_mem_cons.mpr ⟨nodup_aliases_foldl hselect, fun n hn => ?_⟩
    exact h n (mem_of_mem_others hn)

/-- The host heard from answers to the address that it was first heard from, which is not
ours, and no other record does. -/
theorem Sound.select_address (hs : t.Sound host) (ha : host.admits a = true) (now : Nat) :
    host.owns (t.select a now).1.address = false ∧
      ∀ n ∈ (t.select a now).2, n.answersTo (t.select a now).1.address = false := by
  -- Hearing from the host alone leaves the table sound, with this record and the others.
  have hsound : (t.announce host a [] now).2.Sound host := hs.announce a [] now
  obtain ⟨hapart, hforeign, -⟩ := hsound
  rw [records_announce ha] at hapart hforeign
  have haddress := Neighbour.answersTo_address { (t.select a now).1 with lastHeard := now }
  obtain ⟨hothers, -⟩ := List.pairwise_cons.mp hapart
  exact ⟨hforeign _ List.mem_cons_self _ haddress, fun n hn => hothers n hn _ haddress⟩

theorem Sound.echoes_iff (hs : t.Sound host) (ha : host.admits a = true)
    (announced : List Address) (now : Nat) : t.Echoes host a announced ↔
      (t.select a now).1.address ∈ announced ∧ (t.select a now).1.address ≠ a := by
  constructor
  · rintro ⟨-, n, hn, hanswers, hne, hmem⟩
    rw [hs.address_select_of_answersTo hn hanswers]
    exact ⟨hmem, hne⟩
  · rintro ⟨hmem, hne⟩
    rcases t.select_cases a now with ⟨n, hn, hanswers, heq⟩ | ⟨-, heq⟩
    · rw [heq] at hmem hne
      exact ⟨ha, n, hn, hanswers, hne, hmem⟩
    · rw [heq] at hne
      exact absurd rfl hne

/-- An announcement makes a record repeat an address, where none does so, exactly if it
echoes the first address of the host. -/
theorem Sound.concise_announce_iff (hs : t.Sound host) (h : t.Concise) (a : Address)
    (announced : List Address) (now : Nat) :
    (t.announce host a announced now).2.Concise ↔ ¬t.Echoes host a announced := by
  cases ha : host.admits a with
  | false =>
    rw [announce_of_not_admits ha]
    exact iff_of_true h fun hechoes => by
      rw [hechoes.1] at ha
      cases ha
  | true =>
    obtain ⟨howns, hothers⟩ := hs.select_address ha now
    have hselect : ((t.select a now).1.address :: (t.select a now).1.aliases).Nodup :=
      select_induction (P := fun n => (n.address :: n.aliases).Nodup) h (by simp)
    obtain ⟨hfirst, hnodup⟩ := List.nodup_cons.mp hselect
    have haddress := (foldl_fold_frame host a announced
      ({ (t.select a now).1 with lastHeard := now }, (t.select a now).2)).1
    have hmem : (t.select a now).1.address ∈ (announced.foldl (fold host a)
        ({ (t.select a now).1 with lastHeard := now }, (t.select a now).2)).1.aliases ↔ _ :=
      mem_aliases_foldl howns hothers
    rw [hs.echoes_iff ha announced now, Concise, records_announce ha, List.forall_mem_cons,
      haddress, List.nodup_cons, hmem, or_iff_right hfirst]
    refine ⟨fun hconcise => hconcise.1.1, fun hnew => ⟨⟨hnew, nodup_aliases_foldl hnodup⟩, ?_⟩⟩
    exact fun n hn => h n (mem_of_mem_others hn)

/-! ## Runs -/

/-- Whether a change makes a host echo the address that it was first heard from. -/
def Change.Echoes (t : Neighbours) (host : Host) : Change → Prop
  | .announce a announced => t.Echoes host a announced
  | .contact _ => False
  | .dropSilent _ => False

theorem nodup_aliases_change (h : ∀ n ∈ t.records, n.aliases.Nodup) (now : Nat) (c : Change) :
    ∀ n ∈ (t.change host now c).records, n.aliases.Nodup := by
  cases c with
  | contact a => exact nodup_aliases_announce h a [] now
  | announce a announced => exact nodup_aliases_announce h a announced now
  | dropSilent sweep => exact fun n hn => h n ((t.dropSilent_sublist sweep now).subset hn)

theorem nodup_aliases_changeAll (h : ∀ n ∈ t.records, n.aliases.Nodup)
    (changes : List (Nat × Change)) :
    ∀ n ∈ (t.changeAll host changes).records, n.aliases.Nodup := by
  induction changes generalizing t with
  | nil => exact h
  | cons c changes ih => exact ih (nodup_aliases_change h c.1 c.2)

theorem Sound.concise_change_iff (hs : t.Sound host) (h : t.Concise) (now : Nat) (c : Change) :
    (t.change host now c).Concise ↔ ¬c.Echoes t host := by
  cases c with
  | contact a =>
    -- To be heard from is to announce nothing.
    refine (hs.concise_announce_iff h a [] now).trans (iff_of_true ?_ id)
    rintro ⟨-, n, -, -, -, hmem⟩
    cases hmem
  | announce a announced => exact hs.concise_announce_iff h a announced now
  | dropSilent sweep =>
    exact iff_of_true (fun n hn => h n ((t.dropSilent_sublist sweep now).subset hn)) id

/-- No record ever repeats an address, exactly if no change ever makes a host echo. -/
theorem always_concise_iff (host : Host) (changes : List (Nat × Change)) :
    (∀ before, before <+: changes → (changeAll {} host before).Concise) ↔
      ∀ before now c after, changes = before ++ (now, c) :: after →
        ¬c.Echoes (changeAll {} host before) host := by
  have hs (before : List (Nat × Change)) : (changeAll {} host before).Sound host :=
    (sound_empty host).changeAll before
  constructor
  · rintro h before now c after rfl
    have hbefore := h before (List.prefix_append _ _)
    have hafter := h (before ++ [(now, c)]) ⟨after, by rw [List.append_assoc]; rfl⟩
    rw [changeAll_concat] at hafter
    exact ((hs before).concise_change_iff hbefore now c).mp hafter
  · intro h before
    -- What holds up to a change holds after it, since it does not make a host echo.
    induction before using List.reverseRecOn with
    | nil => exact fun _ n hn => by cases hn
    | append_singleton before c ih =>
      rintro ⟨after, heq⟩
      rw [List.append_assoc, List.singleton_append] at heq
      have hbefore := ih ⟨_, heq⟩
      rw [changeAll_concat]
      exact ((hs before).concise_change_iff hbefore c.1 c.2).mpr (h before c.1 c.2 after heq.symm)

/-- No record has an alias twice. No record ever has the address that it is known by among
its aliases, exactly if no announcement of a host that is heard at another of its addresses
names this one. -/
theorem addresses_repeated_iff (host : Host) (changes : List (Nat × Change)) :
    (∀ n ∈ (changeAll {} host changes).records, n.aliases.Nodup) ∧
    ((∀ before, before <+: changes → ∀ n ∈ (changeAll {} host before).records,
        (n.address :: n.aliases).Nodup) ↔
      ∀ before now a announced after,
        changes = before ++ (now, .announce a announced) :: after → host.admits a = true →
        ∀ n ∈ (changeAll {} host before).records, n.answersTo a = true →
          n.address = a ∨ n.address ∉ announced) := by
  refine ⟨nodup_aliases_changeAll (by simp) changes, ?_⟩
  refine (always_concise_iff host changes).trans ?_
  constructor
  · intro h before now a announced after heq hadmits n hn hanswers
    by_contra hboth
    rw [not_or, not_not] at hboth
    exact h before now _ after heq ⟨hadmits, n, hn, hanswers, hboth⟩
  · intro h before now c after heq
    cases c with
    | contact a => exact id
    | dropSilent sweep => exact id
    | announce a announced =>
      rintro ⟨hadmits, n, hn, hanswers, hne, hmem⟩
      exact (h before now a announced after heq hadmits n hn hanswers).elim hne (absurd hmem)

/-- A host with two addresses announces both each time, and is heard at the second after the
first. Its record has the first address as an alias of itself. -/
theorem first_address_repeated :
    let address (a : UInt8) : Address := .ofOctets 192 168 1 a
    let host : Host := ⟨[.ofAddress (address 10) (.ofOctets 255 255 255 0) none]⟩
    let t := changeAll {} host
      [(0, .announce (address 20) [address 20, address 10, address 21]),
        (1000, .announce (address 21) [address 21, address 10, address 20])]
    t.records = [⟨address 20, [address 21, address 20], 1000⟩] ∧
      ¬∀ n ∈ t.records, (n.address :: n.aliases).Nodup := by
  decide +kernel

end Neighbours

end PortMapper
