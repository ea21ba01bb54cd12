import Mathlib.Order.Bounds.Basic
import PortMapper.Proofs.Mapper.Hearing
import PortMapper.Proofs.Mapper.Sweeping

/-!
# Which neighbours are forgotten

A record tells when its neighbour was last heard from at any of its addresses
(`Mapper.run_lastHeard`), those included that it was only later found to have:
when records are gathered, the host has just been heard from, and otherwise a
record keeps its addresses. So who is forgotten at a tick depends on what was
heard of it, on when the latest sweep started, and on the probes that wait, but
on none of the answers that wait (`Mapper.forgotten_iff_long_silent`).
-/

namespace PortMapper

namespace Mapper

/-- When, in a run, a neighbour was heard from at one of the addresses of a record. -/
def heardTimes (h : Host) (port : UInt16) (os : List Occurrence) (n : Neighbour) : Set Nat :=
  {t | ∃ o ∈ os, o.time = t ∧
    ∃ a announced, o.event.heard? h port = some (a, announced) ∧ n.answersTo a = true}

variable {m : Mapper} {o : Occurrence} {os : List Occurrence} {h : Host} {port : UInt16}
  {n : Neighbour} {a : Address} {announced : List Address} {now : Nat}

/-! ## When a neighbour was heard from last -/

/-- Events by which the neighbour is not heard of do not count. -/
theorem heardTimes_concat_of_not
    (ho : ∀ a announced, o.event.heard? h port = some (a, announced) → n.answersTo a = false) :
    heardTimes h port (os ++ [o]) n = heardTimes h port os n := by
  ext t
  constructor
  · rintro ⟨o', ho', htime, a, announced, hheard, ha⟩
    rcases List.mem_append.mp ho' with ho' | ho'
    · exact ⟨o', ho', htime, a, announced, hheard, ha⟩
    · rw [List.mem_singleton.mp ho'] at hheard
      rw [ho a announced hheard] at ha
      cases ha
  · rintro ⟨o', ho', hrest⟩
    exact ⟨o', List.mem_append_left _ ho', hrest⟩

/-- An event by which the neighbour is heard of is the latest, if it is the last. -/
theorem isGreatest_heardTimes_concat (hbefore : ∀ o' ∈ os, o'.time ≤ o.time)
    (ho : o.event.heard? h port = some (a, announced)) (ha : n.answersTo a = true) :
    IsGreatest (heardTimes h port (os ++ [o]) n) o.time := by
  refine ⟨⟨o, List.mem_append_right os List.mem_cons_self, rfl, a, announced, ho, ha⟩, ?_⟩
  rintro t ⟨o', ho', rfl, -⟩
  rcases List.mem_append.mp ho' with ho' | ho'
  · exact hbefore o' ho'
  · rw [List.mem_singleton.mp ho']

/-- An event keeps the records telling when the neighbours were heard from last. -/
theorem step_lastHeard (hm : m.neighbours.Sound m.host) (hbefore : ∀ o' ∈ os, o'.time ≤ o.time)
    (hlast : ∀ n ∈ m.neighbours.records,
      IsGreatest (heardTimes m.host m.port os n) n.lastHeard) :
    ∀ n ∈ (m.step o).mapper.neighbours.records,
      IsGreatest (heardTimes m.host m.port (os ++ [o]) n) n.lastHeard := by
  intro n hn
  rcases m.step_neighbours_cases o with ⟨a, announced, hheard, hadmits, heq⟩ | ⟨hnone, -⟩
  · obtain ⟨first, hannounce, -, hnow, hiff⟩ :=
      Neighbours.announce_of_admits hm.apart hadmits announced o.time
    rw [heq, hannounce] at hn
    rcases List.mem_cons.mp hn with rfl | hn
    · rw [hnow]
      exact isGreatest_heardTimes_concat hbefore hheard
        ((hiff a).mpr (.inl List.mem_cons_self))
    · -- A record that was not gathered does not answer to the address heard at.
      obtain ⟨hn, hmeets⟩ := List.mem_filter.mp hn
      have ha : n.answersTo a = false :=
        Neighbour.not_meets_iff.mp hmeets a List.mem_cons_self
      rw [heardTimes_concat_of_not fun a' announced' hheard' => ?_]
      · exact hlast n hn
      · cases hheard.symm.trans hheard'
        exact ha
  · -- What is left of the table was in it before, with the same addresses.
    rw [heardTimes_concat_of_not fun a announced hheard => ?_]
    · exact hlast n ((step_neighbours_sublist hnone).subset hn)
    · cases hnone.symm.trans hheard

/-- A record tells when the neighbour was last heard from at one of its addresses. -/
theorem run_lastHeard (host : Host) (port : UInt16) (probing : Settings.Probing)
    (hin : InOrder os) : ∀ n ∈ ((start host port probing).run os).neighbours.records,
      IsGreatest (heardTimes host port os n) n.lastHeard := by
  -- From the end: what was heard so far is heard of the records before the last event.
  induction os using List.reverseRecOn with
  | nil => exact fun n hn => nomatch hn
  | append_singleton os o ih =>
    obtain ⟨hin, hbefore⟩ := inOrder_concat.mp hin
    have hhost : ((start host port probing).run os).host = host := run_host ..
    have hport : ((start host port probing).run os).port = port := run_port ..
    have hsound : ((start host port probing).run os).neighbours.Sound
        ((start host port probing).run os).host := Reachable.sound ⟨_, _, _, _, rfl⟩
    have hstep := step_lastHeard hsound hbefore
    rw [hhost, hport] at hstep
    rw [run_concat]
    exact hstep (ih hin)

/-! ## Who is forgotten -/

/-- No sweep is in flight if no probe waits and the latest sweep, if there was
one, started ten seconds ago or earlier. -/
theorem inFlight_eq_false_iff (hm : m.outbox.Counted) : (m.sweepProgress now).inFlight = false ↔
    (∀ d ∈ m.outbox.queue, d.purpose ≠ .probe) ∧
      ∀ s ∈ m.sweepStarted, s + oneSecond * 10 ≤ now := by
  have hprobes := hm.pendingProbes_pos_iff
  have hrecent (s : Nat) : now - s < oneSecond * sweepGraceSecs ↔ ¬s + oneSecond * 10 ≤ now := by
    rw [sweepGraceSecs, oneSecond]
    omega
  rw [sweepProgress, Bool.or_eq_false_iff, decide_eq_false_iff_not, hprobes, and_comm]
  refine and_congr (by simp) ?_
  cases m.sweepStarted with
  | none => simp
  | some s =>
    rw [Option.any_some, decide_eq_false_iff_not, hrecent, not_not]
    simp

/-- Whatever happens to a daemon, as long as time does not run backwards: a
record tells when its neighbour was last heard from at one of its addresses. A
tick forgets it if and only if no probe waits, it was heard from more than half
an hour ago, and the latest sweep, if there was one, started ten seconds ago or
earlier, but later than it was heard from. The answers that wait do not matter. -/
theorem forgotten_iff_long_silent (host : Host) (port : UInt16) (probing : Settings.Probing)
    {os : List Occurrence} (hin : InOrder os) :
    let m := (start host port probing).run os
    let times := (start host port probing).sweepTimes os
    (∀ n ∈ m.neighbours.records, IsGreatest (heardTimes host port os n) n.lastHeard ∧
      ∀ now, n ∉ (m.tick now).neighbours.records ↔
        (∀ d ∈ m.outbox.queue, d.purpose ≠ .probe) ∧ n.lastHeard + oneSecond * (30 * 60) < now ∧
          ∀ s ∈ times.getLast?, s + oneSecond * 10 ≤ now ∧ n.lastHeard < s) ∧
    ∀ (outbox : Outbox) now, outbox.Counted → outbox.probes = m.outbox.probes →
      ({ m with outbox }.tick now).neighbours = (m.tick now).neighbours := by
  intro m times
  have hstarted : m.sweepStarted = times.getLast? := run_sweepStarted host port probing os
  have hcounted : m.outbox.Counted := run_counted Outbox.counted_empty os
  refine ⟨fun n hn => ⟨run_lastHeard host port probing hin n hn, fun now => ?_⟩,
    fun outbox now hcounted' hprobes => ?_⟩
  · have hforgotten : n ∉ (m.tick now).neighbours.records ↔
        (m.sweepProgress now).inFlight = false ∧
          Neighbours.isGone (m.sweepProgress now) now n = true := by
      rw [tick_neighbours, Neighbours.mem_dropSilent]
      simp only [hn, true_and, not_not]
    rw [hforgotten, inFlight_eq_false_iff hcounted, Neighbours.isGone_iff]
    change (_ ∧ ∀ s ∈ m.sweepStarted, _) ∧ _ ∧ (∀ s ∈ m.sweepStarted, _) ↔ _
    rw [hstarted]
    constructor
    · rintro ⟨⟨hqueue, hpassed⟩, hsilent, hsweep⟩
      exact ⟨hqueue, hsilent, fun s hs => ⟨hpassed s hs, hsweep s hs⟩⟩
    · rintro ⟨hqueue, hsilent, hsweep⟩
      exact ⟨⟨hqueue, fun s hs => (hsweep s hs).1⟩, hsilent, fun s hs => (hsweep s hs).2⟩
  · -- Of the outbox, a tick only looks at how many probes there are.
    have hpending : outbox.pendingProbes = m.outbox.pendingProbes := by
      rw [show outbox.pendingProbes = outbox.probes.length from hcounted', hprobes]
      exact hcounted.symm
    have hprogress : sweepProgress { m with outbox } now = m.sweepProgress now := by
      simp only [sweepProgress, hpending]
    rw [tick_neighbours, tick_neighbours, hprogress]

/-- Two neighbours half an hour and a little more after the first of them was
heard from last. An answer that waits does not hold off that it is forgotten. -/
theorem one_of_two_long_silent :
    let address (a : UInt8) : Address := .ofOctets 192 168 1 a
    let host : Host := ⟨[.ofAddress (address 10) (.ofOctets 255 255 255 0) (some (address 255))]⟩
    let isFree : Vacancy := fun _ => false
    let heard (time : Nat) (a : UInt8) (r : Request) : Occurrence :=
      ⟨time, isFree, .datagram r.frame ⟨address a, 538⟩⟩
    let os := [⟨0, isFree, .tick⟩, heard 2 21 (.probe (address 21) (address 10)),
      heard 5 30 (.probe (address 30) (address 10)),
      heard 9 20 (.probeReply (address 20) (address 10) [address 21]), ⟨9, isFree, .takeAll⟩,
      ⟨300 * oneSecond, isFree, .tick⟩, ⟨300 * oneSecond, isFree, .takeAll⟩,
      heard (300 * oneSecond + 1) 40 { opcode := .lookup, kindByte := 0x11, name := [0x61] }]
    let m := (start host 538 {}).run os
    let first : Neighbour := ⟨address 20, [address 21], 9⟩
    let second : Neighbour := ⟨address 30, [], 5⟩
    let now := 1800 * oneSecond + 6
    InOrder os ∧ m.neighbours.records = [first, second] ∧
      m.outbox.queue.map (·.purpose) = [.reply] ∧
      IsGreatest (heardTimes host 538 os first) 9 ∧ IsGreatest (heardTimes host 538 os second) 5 ∧
      first ∈ (m.tick now).neighbours.records ∧ second ∉ (m.tick now).neighbours.records := by
  intro address host isFree heard os m first second now
  have hin : InOrder os := by simp [os, heard, InOrder, oneSecond]
  have hrecords : m.neighbours.records = [first, second] := by decide +kernel
  have hqueue : m.outbox.queue.map (·.purpose) = [.reply] := by decide +kernel
  have htimes : (start host 538 {}).sweepTimes os = [0, 300 * oneSecond] := by decide +kernel
  have hall := (forgotten_iff_long_silent host 538 {} hin).1
  rw [show (start host 538 {}).run os = m from rfl, htimes] at hall
  clear_value m
  obtain ⟨hfirst, hfirstKept⟩ := hall first (by rw [hrecords]; exact List.mem_cons_self)
  obtain ⟨hsecond, hsecondKept⟩ := hall second (by simp [hrecords])
  refine ⟨hin, hrecords, hqueue, hfirst, hsecond, ?_, (hsecondKept now).mpr ⟨?_, ?_, ?_⟩⟩
  · refine Decidable.byContradiction fun hgone => ?_
    obtain ⟨-, hsilent, -⟩ := (hfirstKept now).mp hgone
    exact absurd hsilent (by decide +kernel)
  · intro d hd hprobe
    have hmem : Purpose.probe ∈ m.outbox.queue.map (·.purpose) := List.mem_map.mpr ⟨d, hd, hprobe⟩
    rw [hqueue] at hmem
    exact absurd hmem (by decide)
  · decide +kernel
  · simp [second, now, oneSecond]

end Mapper

end PortMapper
