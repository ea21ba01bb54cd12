import PortMapper.Neighbours.Change
import PortMapper.Proofs.Neighbours.Sound

/-!
# Merging records

Whatever is done to a table of neighbours, it stays sound
(`Neighbours.Reachable.sound`). So a host that announces its addresses gets one
record for all those that answered to one of them, which has all of their addresses
(`Neighbours.announce_merges`). It keeps the address that it was first heard from.
-/

namespace PortMapper

namespace Neighbours

variable {t : Neighbours} {host : Host} {a : Address} {now : Nat} {n : Neighbour}

/-! ## Changes -/

theorem changeAll_concat (t : Neighbours) (host : Host) (changes : List (Nat × Change))
    (now : Nat) (c : Change) :
    t.changeAll host (changes ++ [(now, c)]) = (t.changeAll host changes).change host now c := by
  rw [changeAll, List.foldl_append]
  rfl

theorem Sound.change (hs : t.Sound host) (now : Nat) (c : Change) :
    (t.change host now c).Sound host := by
  cases c with
  | contact a => exact hs.announce a [] now
  | announce a announced => exact hs.announce a announced now
  | dropSilent sweep => exact hs.of_sublist (t.dropSilent_sublist sweep now)

theorem Sound.changeAll (hs : t.Sound host) (changes : List (Nat × Change)) :
    (t.changeAll host changes).Sound host := by
  induction changes generalizing t with
  | nil => exact hs
  | cons c changes ih => exact ih (hs.change c.1 c.2)

/-- Whether a table is one that a host can have. -/
def Reachable (t : Neighbours) (host : Host) : Prop := ∃ changes, t = changeAll {} host changes

theorem Reachable.sound (ht : t.Reachable host) : t.Sound host := by
  obtain ⟨changes, rfl⟩ := ht
  exact (sound_empty host).changeAll changes

/-! ## Announcements -/

/-- A host that was heard from before keeps the address that it was first heard from. -/
theorem Sound.address_select_of_answersTo (hs : t.Sound host) (hn : n ∈ t.records)
    (ha : n.answersTo a = true) : (t.select a now).1.address = n.address := by
  rcases t.select_cases a now with ⟨n', hn', ha', heq⟩ | ⟨hnone, -⟩
  · have hsame : n' = n := Decidable.byContradiction fun hne =>
      (hs.apart.forall hn' hn hne).not_answersTo ha' ha
    rw [heq, hsame]
  · rw [hnone n hn] at ha
    cases ha

theorem address_select_of_not_answersTo (h : ∀ n ∈ t.records, n.answersTo a = false) :
    (t.select a now).1.address = a := by
  rcases t.select_cases a now with ⟨n, hn, ha, -⟩ | ⟨-, heq⟩
  · rw [h n hn] at ha
    cases ha
  · rw [heq]

/-- An announcement from an address that is ours, or on no network of ours, changes
nothing. Any other makes one record at the front, in place of all those that answered
to the address heard at or to one of those announced that are not ours. It answers to
these addresses and to all that the records answered to, and keeps the address of the
one that answered to the address heard at. The others stay as they are. -/
theorem announce_merges (ht : t.Reachable host) (a : Address) (announced : List Address)
    (now : Nat) :
    let known := a :: announced.filter fun b => !host.owns b
    (host.owns a = true ∨ host.reaches a = false →
      t.announce host a announced now = (false, t)) ∧
    (host.owns a = false → host.reaches a = true →
      ∃ first, t.announce host a announced now =
          (true, ⟨first :: t.records.filter fun n => !n.meets known⟩) ∧
        (∀ x, first.answersTo x = true ↔ x ∈ known ∨
          ∃ n ∈ t.records, (∃ b ∈ known, n.answersTo b = true) ∧ n.answersTo x = true) ∧
        (∀ n ∈ t.records, n.answersTo a = true → first.address = n.address) ∧
        ((∀ n ∈ t.records, n.answersTo a = false) → first.address = a) ∧
        first.lastHeard = now) := by
  intro known
  have hs : t.Sound host := ht.sound
  refine ⟨fun h => announce_of_not_admits ?_ announced now, fun howns hreaches => ?_⟩
  · rw [Host.admits]
    rcases h with h | h <;> simp [h]
  · have hadmits : host.admits a = true := Host.admits_iff.mpr ⟨howns, hreaches⟩
    obtain ⟨first, heq, haddress, hheard, hiff⟩ :=
      announce_of_admits hs.apart hadmits announced now
    refine ⟨first, heq, fun x => ?_, fun n hn ha => ?_, fun hnone => ?_, hheard⟩
    · rw [hiff]
      simp only [Neighbour.meets_iff]
      rfl
    · rw [haddress, hs.address_select_of_answersTo hn ha]
    · rw [haddress, address_select_of_not_answersTo hnone]

/-- A host that is heard from at its second address and announces the second address of
another one, twice, one of ours and a new one. A third host stays as it is. -/
theorem two_hosts_merged :
    let address (a : UInt8) : Address := .ofOctets 192 168 1 a
    let host : Host := ⟨[.ofAddress (address 10) (.ofOctets 255 255 255 0) none]⟩
    let t := changeAll {} host [(0, .announce (address 20) [address 21]),
      (1, .announce (address 30) [address 31]), (2, .contact (address 40))]
    let announced := [address 31, address 10, address 31, address 22]
    t.Reachable host ∧
      t.records = [⟨address 40, [], 2⟩, ⟨address 30, [address 31], 1⟩,
        ⟨address 20, [address 21], 0⟩] ∧
      ∃ first, t.announce host (address 21) announced 5 =
          (true, ⟨[first, ⟨address 40, [], 2⟩]⟩) ∧
        first.address = address 20 ∧ first.lastHeard = 5 ∧
        ∀ x, first.answersTo x = true ↔
          x ∈ [address 20, address 21, address 22, address 30, address 31] := by
  intro address host t announced
  have ht : t.Reachable host := ⟨_, rfl⟩
  have hrecords : t.records = [⟨address 40, [], 2⟩, ⟨address 30, [address 31], 1⟩,
      ⟨address 20, [address 21], 0⟩] := by decide +kernel
  obtain ⟨-, hmerged⟩ := announce_merges ht (address 21) announced 5
  obtain ⟨first, heq, hiff, haddress, -, hheard⟩ := hmerged (by decide +kernel) (by decide +kernel)
  have hknown : (address 21 :: announced.filter fun b => !host.owns b) =
      [address 21, address 31, address 31, address 22] := by decide +kernel
  rw [hknown, hrecords] at heq hiff
  refine ⟨ht, hrecords, first, heq, ?_, hheard, fun x => ?_⟩
  · exact haddress ⟨address 20, [address 21], 0⟩ (by simp [hrecords]) (by decide +kernel)
  · have h40 : Neighbour.meets ⟨address 40, [], 2⟩
        [address 21, address 31, address 31, address 22] = false := by decide +kernel
    have h30 : Neighbour.meets ⟨address 30, [address 31], 1⟩
        [address 21, address 31, address 31, address 22] = true := by decide +kernel
    have h20 : Neighbour.meets ⟨address 20, [address 21], 0⟩
        [address 21, address 31, address 31, address 22] = true := by decide +kernel
    simp only [← Neighbour.meets_iff] at hiff
    rw [hiff]
    simp only [List.mem_cons, exists_eq_or_imp, exists_eq_left, h40, h30, h20,
      Neighbour.answersTo_iff, List.not_mem_nil, Bool.false_eq_true, false_and, true_and, false_or,
      or_false]
    grind

end Neighbours

end PortMapper
