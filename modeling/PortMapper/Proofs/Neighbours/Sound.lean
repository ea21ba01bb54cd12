import PortMapper.Proofs.Neighbours.Gathering

/-!
# What holds of the neighbours at all times

No two records have an address in common, none has an address of ours, and each
host was first heard from on one of our networks (`Neighbours.Sound`). As long
as time does not run backwards, the records are also in the order in which they
were heard from last (`Neighbours.HeardInOrder`). Announcements keep both, and
so does forgetting those that are gone, which are then at the end of the table
(`HeardInOrder.dropSilent_suffix`): whoever was heard from earlier than one that
is gone is gone as well.
-/

namespace PortMapper

namespace Neighbours

/-- What holds of the neighbours of a host at all times. -/
structure Sound (t : Neighbours) (h : Host) : Prop where
  apart : t.records.Pairwise Neighbour.Apart
  foreign : ∀ n ∈ t.records, ∀ a, n.answersTo a = true → h.owns a = false
  reached : ∀ n ∈ t.records, h.reaches n.address = true

/-- The records are in the order in which they were heard from last, up to now. -/
structure HeardInOrder (t : Neighbours) (now : Nat) : Prop where
  ordered : t.records.Pairwise fun n n' => n'.lastHeard ≤ n.lastHeard
  le_now : ∀ n ∈ t.records, n.lastHeard ≤ now

variable {t : Neighbours} {h : Host} {a : Address} {announced : List Address}
  {before now : Nat} {sweep : SweepProgress} {n n' : Neighbour}

theorem sound_empty (h : Host) : Sound {} h := ⟨.nil, by simp, by simp⟩

theorem heardInOrder_empty (now : Nat) : HeardInOrder {} now := ⟨.nil, by simp⟩

theorem Sound.of_sublist (hs : t.Sound h) {t' : Neighbours} (hsub : t'.records.Sublist t.records) :
    t'.Sound h where
  apart := hs.apart.sublist hsub
  foreign n hn := hs.foreign n (hsub.subset hn)
  reached n hn := hs.reached n (hsub.subset hn)

theorem HeardInOrder.of_sublist (ho : t.HeardInOrder now) {t' : Neighbours}
    (hsub : t'.records.Sublist t.records) : t'.HeardInOrder now where
  ordered := ho.ordered.sublist hsub
  le_now n hn := ho.le_now n (hsub.subset hn)

theorem HeardInOrder.mono (ho : t.HeardInOrder before) (hle : before ≤ now) :
    t.HeardInOrder now where
  ordered := ho.ordered
  le_now n hn := Nat.le_trans (ho.le_now n hn) hle

/-- One address for each neighbour makes for no duplicates. -/
theorem Sound.nodup_addresses (hs : t.Sound h) : t.addresses.Nodup := by
  refine List.pairwise_map.mpr (hs.apart.imp fun {n n'} hapart heq => ?_)
  refine hapart.not_answersTo n.answersTo_address ?_
  rw [heq]
  exact n'.answersTo_address

/-! ## Announcements -/

theorem not_owns_of_mem_gathered (ha : h.admits a = true) {x : Address}
    (hx : x ∈ gathered h a announced) : h.owns x = false := by
  rcases List.mem_cons.mp hx with rfl | hx
  · exact (Host.admits_iff.mp ha).1
  · simpa using (List.mem_filter.mp hx).2

/-- The record of a host is one that answers to the address heard at, or a new one if
there is none. -/
theorem select_cases (t : Neighbours) (a : Address) (now : Nat) :
    (∃ n ∈ t.records, n.answersTo a = true ∧ (t.select a now).1 = n) ∨
      (∀ n ∈ t.records, n.answersTo a = false) ∧ (t.select a now).1 = ⟨a, [], now⟩ := by
  rw [select]
  split
  · rename_i n hfind
    exact .inl ⟨n, List.mem_of_find?_eq_some hfind, by simpa using List.find?_some hfind, rfl⟩
  · rename_i hfind
    exact .inr ⟨fun n hn => Bool.eq_false_iff.mpr (List.find?_eq_none.mp hfind n hn), rfl⟩

/-- The record of a host has the address of a record, or the one heard at. -/
theorem address_select (t : Neighbours) (a : Address) (now : Nat) :
    (t.select a now).1.address = a ∨ ∃ n ∈ t.records, (t.select a now).1.address = n.address := by
  rcases t.select_cases a now with ⟨n, hn, -, heq⟩ | ⟨-, heq⟩
  · exact .inr ⟨n, hn, congrArg Neighbour.address heq⟩
  · exact .inl (congrArg Neighbour.address heq)

theorem Sound.announce (hs : t.Sound h) (a : Address) (announced : List Address) (now : Nat) :
    (t.announce h a announced now).2.Sound h := by
  cases ha : h.admits a with
  | false => rwa [announce_of_not_admits ha]
  | true =>
    obtain ⟨first, heq, haddress, -, hiff⟩ := announce_of_admits hs.apart ha announced now
    rw [heq]
    have hothers : (Neighbours.mk (t.records.filter fun n =>
        !n.meets (gathered h a announced))).Sound h := hs.of_sublist List.filter_sublist
    refine ⟨List.pairwise_cons.mpr ⟨fun n hn x hx => ?_, hothers.apart⟩, ?_, ?_⟩
    · -- An address of the first record is one gathered, or one of a record gathered.
      obtain ⟨hn, hmeets⟩ := List.mem_filter.mp hn
      rcases (hiff x).mp hx with hx | ⟨n', hn', hmeets', hx⟩
      · exact Neighbour.not_meets_iff.mp hmeets x hx
      · have hne : n' ≠ n := fun hnn => by
          rw [← hnn, hmeets'] at hmeets
          cases hmeets
        exact hs.apart.forall hn' hn hne x hx
    · intro n hn x hx
      rcases List.mem_cons.mp hn with rfl | hn
      · rcases (hiff x).mp hx with hx | ⟨n', hn', -, hx⟩
        · exact not_owns_of_mem_gathered ha hx
        · exact hs.foreign n' hn' x hx
      · exact hothers.foreign n hn x hx
    · intro n hn
      rcases List.mem_cons.mp hn with rfl | hn
      · rw [haddress]
        rcases t.address_select a now with heq | ⟨n', hn', heq⟩
        · rw [heq]
          exact (Host.admits_iff.mp ha).2
        · rw [heq]
          exact hs.reached n' hn'
      · exact hothers.reached n hn

/-- A host that has just been heard from comes first, and its record answers to
all the addresses that it was heard to have, unless they are ours. -/
theorem Sound.announce_head (hs : t.Sound h) (ha : h.admits a = true) (announced : List Address)
    (now : Nat) :
    ∃ first others, (t.announce h a announced now).2.records = first :: others ∧
      first.answersTo a = true ∧
      ∀ b ∈ announced, h.owns b = false → first.answersTo b = true := by
  obtain ⟨first, heq, -, -, hiff⟩ := announce_of_admits hs.apart ha announced now
  refine ⟨first, _, by rw [heq], (hiff a).mpr (.inl List.mem_cons_self), fun b hb hown => ?_⟩
  refine (hiff b).mpr (.inl (List.mem_cons_of_mem a (List.mem_filter.mpr ⟨hb, ?_⟩)))
  rw [hown]
  rfl

theorem HeardInOrder.announce (ho : t.HeardInOrder before) (hs : t.Sound h) (hle : before ≤ now)
    (a : Address) (announced : List Address) :
    (t.announce h a announced now).2.HeardInOrder now := by
  cases ha : h.admits a with
  | false =>
    rw [announce_of_not_admits ha]
    exact ho.mono hle
  | true =>
    obtain ⟨first, heq, -, hheard, -⟩ := announce_of_admits hs.apart ha announced now
    rw [heq]
    have hothers : (Neighbours.mk (t.records.filter fun n =>
        !n.meets (gathered h a announced))).HeardInOrder now :=
      (ho.mono hle).of_sublist List.filter_sublist
    refine ⟨List.pairwise_cons.mpr ⟨fun n hn => ?_, hothers.ordered⟩, fun n hn => ?_⟩
    · rw [hheard]
      exact hothers.le_now n hn
    · rcases List.mem_cons.mp hn with rfl | hn
      · exact Nat.le_of_eq hheard
      · exact hothers.le_now n hn

/-! ## Forgetting -/

/-- A neighbour is gone if it was silent for more than half an hour, and since
before the latest sweep. -/
theorem isGone_iff : isGone sweep now n = true ↔
    n.lastHeard + oneSecond * (30 * 60) < now ∧ ∀ s ∈ sweep.started, n.lastHeard < s := by
  rw [isGone, Bool.and_eq_true, Option.all_eq_true, decide_eq_true_eq, Neighbour.silence,
    silenceLimitSecs, Nat.lt_sub_iff_add_lt']
  simp only [decide_eq_true_eq, Option.mem_def]

/-- Whoever was heard from earlier than one that is gone is gone as well. -/
theorem isGone_of_le (hle : n'.lastHeard ≤ n.lastHeard) (hn : isGone sweep now n = true) :
    isGone sweep now n' = true := by
  rw [isGone_iff] at hn ⊢
  obtain ⟨hsilent, hsweep⟩ := hn
  exact ⟨Nat.lt_of_le_of_lt (Nat.add_le_add_right hle _) hsilent,
    fun s hs => Nat.lt_of_le_of_lt hle (hsweep s hs)⟩

theorem mem_dropSilent : n ∈ (t.dropSilent sweep now).2.records ↔
    n ∈ t.records ∧ ¬(sweep.inFlight = false ∧ isGone sweep now n = true) := by
  rw [dropSilent]
  cases sweep.inFlight <;> simp

theorem dropSilent_sublist (t : Neighbours) (sweep : SweepProgress) (now : Nat) :
    (t.dropSilent sweep now).2.records.Sublist t.records := by
  rw [dropSilent]
  split
  · exact .refl _
  · exact List.filter_sublist

/-- Of a list in which a property never comes back once it is lost, those with
the property are at the front. -/
theorem filter_eq_takeWhile {l : List Neighbour} {p : Neighbour → Bool}
    (hl : l.Pairwise fun n n' => p n' = true → p n = true) : l.filter p = l.takeWhile p := by
  induction l with
  | nil => rfl
  | cons n l ih =>
    obtain ⟨hn, hrest⟩ := List.pairwise_cons.mp hl
    cases hp : p n with
    | true => rw [List.filter_cons_of_pos hp, List.takeWhile_cons_of_pos hp, ih hrest]
    | false =>
      rw [List.filter_cons_of_neg (by simp [hp]), List.takeWhile_cons_of_neg (by simp [hp]),
        List.filter_eq_nil_iff]
      intro n' hn' hp'
      rw [hn n' hn' hp'] at hp
      cases hp

/-- Those forgotten are at the end of the table, and the others stay as they are. -/
theorem HeardInOrder.dropSilent_suffix (ho : t.HeardInOrder before) (sweep : SweepProgress)
    (now : Nat) : ∃ gone, t.records = (t.dropSilent sweep now).2.records ++ gone ∧
      (t.dropSilent sweep now).1 = gone.length := by
  rw [dropSilent]
  split
  · exact ⟨[], (List.append_nil _).symm, rfl⟩
  · have hmono : t.records.Pairwise fun n n' =>
        (!isGone sweep now n') = true → (!isGone sweep now n) = true := by
      refine ho.ordered.imp fun {n n'} hle hn' => ?_
      rw [Bool.not_eq_true'] at hn' ⊢
      exact Bool.eq_false_iff.mpr fun hn => by
        rw [isGone_of_le hle hn] at hn'
        cases hn'
    have hsplit := List.takeWhile_append_dropWhile (p := fun n => !isGone sweep now n)
      (l := t.records)
    refine ⟨t.records.dropWhile fun n => !isGone sweep now n, ?_, ?_⟩
    · rw [filter_eq_takeWhile hmono, hsplit]
    · have hlength := congrArg List.length hsplit
      rw [List.length_append] at hlength
      simp only [filter_eq_takeWhile hmono]
      omega

end Neighbours

end PortMapper
