import PortMapper.Proofs.Mapper.Provoked
import PortMapper.Proofs.Outbox

/-!
# When sweeps start, and their probes

A daemon remembers when its latest sweep started: the times at which sweeps
start are those of the events that start one (`Mapper.sweepTimes`), and the last
of them is the one remembered (`Mapper.run_sweepStarted`). An event posts an
answer, takes datagrams out of the outbox, posts the probes of a sweep that
starts, or posts a probe by itself (`Mapper.step_outbox_cases`).

If all probes are those of sweeps that start at ticks, sweeps keep apart
(`Mapper.sweeps_keep_apart`): a sweep only starts when the outbox is empty, so
that the probes in it are always those of one sweep that have yet to be sent.
-/

namespace PortMapper

/-- Whether an event posts probes other than at a tick. -/
def Event.postsProbes : Event → Bool
  | .beginSweep => true
  | .postProbe _ _ => true
  | _ => false

namespace Mapper

/-- Whether a sweep starts at an event. -/
def startsSweep (m : Mapper) (o : Occurrence) : Bool :=
  match o.event with
  | .tick => m.sweepDue o.time
  | .beginSweep => true
  | _ => false

/-- When the sweeps of a run start. -/
def sweepTimes (m : Mapper) : List Occurrence → List Nat
  | [] => []
  | o :: os =>
    (if m.startsSweep o then [o.time] else []) ++ (m.step o).mapper.sweepTimes os

/-- The datagrams of a sweep. -/
def sweepDatagrams (m : Mapper) : List Datagram := m.probes.map fun p => ⟨p.1, p.2, .probe⟩

variable {m : Mapper} {o : Occurrence} {os : List Occurrence} {now s : Nat}

/-! ## One event -/

/-- A sweep is due if probing is enabled, nothing waits to be sent, and the time
between two sweeps has passed. -/
theorem sweepDue_iff : m.sweepDue now = true ↔
    m.probing.enabled = true ∧ m.outbox.queue = [] ∧
      ∀ s ∈ m.sweepStarted, oneSecond * m.probing.intervalSecs.toNat ≤ now - s := by
  simp only [sweepDue, Bool.and_eq_true, Outbox.isEmpty, List.isEmpty_iff, Option.all_eq_true,
    decide_eq_true_eq, Option.mem_def, and_assoc]

/-- If no probe is posted by itself, a sweep only starts when it is due. -/
theorem sweepDue_of_startsSweep (h : m.startsSweep o = true) (ho : o.event.postsProbes = false) :
    m.sweepDue o.time = true := by
  obtain ⟨time, isFree, event⟩ := o
  cases event with
  | tick => exact h
  | beginSweep => cases ho
  | _ => cases h

/-- What a tick does to the outbox and to the start of the latest sweep. -/
theorem tick_sweep (m : Mapper) (now : Nat) :
    (m.tick now).outbox =
        (if m.sweepDue now then m.outbox.postProbes m.probes else m.outbox) ∧
      (m.tick now).sweepStarted = if m.sweepDue now then some now else m.sweepStarted := by
  have hdue : (m.dropSilent now).2.sweepDue now = m.sweepDue now := rfl
  rw [tick, hdue]
  split
  · exact ⟨rfl, rfl⟩
  · exact ⟨rfl, rfl⟩

theorem step_sweepStarted (m : Mapper) (o : Occurrence) :
    (m.step o).mapper.sweepStarted =
      if m.startsSweep o then some o.time else m.sweepStarted := by
  obtain ⟨time, isFree, event⟩ := o
  cases event with
  | request r source channel =>
    obtain ⟨directory, neighbours, h⟩ := m.handle_frame isFree time r source channel
    simp only [step, h]
    rfl
  | datagram bytes source =>
    obtain ⟨directory, neighbours, outbox, h⟩ := m.receive_frame isFree time bytes source
    simp only [step, h]
    rfl
  | tick => exact (m.tick_sweep time).2
  | _ => rfl

/-- What an event does to the outbox. -/
theorem step_outbox_cases (m : Mapper) (o : Occurrence) :
    (∃ destination payload,
        (m.step o).mapper.outbox = m.outbox.post destination payload) ∨
      (m.step o).mapper.outbox.Rest m.outbox ∨
      m.startsSweep o = true ∧ (m.step o).mapper.outbox = m.outbox.postProbes m.probes ∨
      ∃ probe, o.event.postsProbes = true ∧
        (m.step o).mapper.outbox = m.outbox.postProbes [probe] := by
  obtain ⟨time, isFree, event⟩ := o
  cases event with
  | request r source channel =>
    refine .inr (.inl ?_)
    simp only [step, handle_outbox]
    exact .refl _
  | datagram bytes source =>
    rcases m.receive_cases isFree time bytes source with h | ⟨-, reply, h, -⟩
    · refine .inr (.inl ?_)
      simp only [step, h]
      exact .refl _
    · exact .inl ⟨source, reply, h⟩
  | tick =>
    have htick := (m.tick_sweep time).1
    cases hdue : m.sweepDue time with
    | true =>
      rw [hdue, if_pos rfl] at htick
      exact .inr (.inr (.inl ⟨hdue, htick⟩))
    | false =>
      rw [hdue, if_neg Bool.false_ne_true] at htick
      refine .inr (.inl ?_)
      simp only [step, htick]
      exact .refl _
  | beginSweep => exact .inr (.inr (.inl ⟨rfl, rfl⟩))
  | post destination payload => exact .inl ⟨destination, payload, rfl⟩
  | postProbe destination payload => exact .inr (.inr (.inr ⟨(destination, payload), rfl, rfl⟩))
  | take => exact .inr (.inl m.outbox.rest_remove)
  | takeAll => exact .inr (.inl m.outbox.rest_takeAll)
  | flush results => exact .inr (.inl (m.outbox.rest_flush results))
  | _ => exact .inr (.inl (.refl _))

theorem step_counted (h : m.outbox.Counted) (o : Occurrence) :
    (m.step o).mapper.outbox.Counted := by
  rcases m.step_outbox_cases o with
    ⟨destination, payload, heq⟩ | hrest | ⟨-, heq⟩ | ⟨probe, -, heq⟩
  · rw [heq]
    exact h.post
  · exact hrest.counted h
  · rw [heq]
    exact h.postProbes _
  · rw [heq]
    exact h.postProbes _

/-- If no probe is posted by itself, the probes after an event are some of those
before it that are sent last, or those of a sweep that found the outbox empty. -/
theorem step_probes_cases (ho : o.event.postsProbes = false) :
    (m.step o).mapper.outbox.probes <:+ m.outbox.probes ∨
      m.sweepDue o.time = true ∧ (m.step o).mapper.outbox.probes = m.sweepDatagrams := by
  rcases m.step_outbox_cases o with
    ⟨destination, payload, heq⟩ | hrest | ⟨hstarts, heq⟩ | ⟨probe, hposts, -⟩
  · rw [heq, Outbox.probes_post]
    exact .inl List.suffix_rfl
  · exact .inl hrest.probes
  · have hdue := sweepDue_of_startsSweep hstarts ho
    refine .inr ⟨hdue, ?_⟩
    rw [heq, Outbox.probes_postProbes, Outbox.probes, (sweepDue_iff.mp hdue).2.1]
    rfl
  · rw [ho] at hposts
    cases hposts

/-! ## Runs -/

theorem sweepTimes_concat (m : Mapper) (os : List Occurrence) (o : Occurrence) :
    m.sweepTimes (os ++ [o]) =
      m.sweepTimes os ++ if (m.run os).startsSweep o then [o.time] else [] := by
  induction os generalizing m with
  | nil => exact List.append_nil _
  | cons o' os ih => rw [List.cons_append, sweepTimes, ih, sweepTimes, List.append_assoc, run_cons]

theorem time_of_mem_sweepTimes (hs : s ∈ m.sweepTimes os) : ∃ o ∈ os, o.time = s := by
  induction os generalizing m with
  | nil => cases hs
  | cons o os ih =>
    rw [sweepTimes, List.mem_append] at hs
    rcases hs with hs | hs
    · split at hs
      · exact ⟨o, List.mem_cons_self, (List.mem_singleton.mp hs).symm⟩
      · cases hs
    · obtain ⟨o', ho', heq⟩ := ih hs
      exact ⟨o', List.mem_cons_of_mem o ho', heq⟩

/-- The start remembered is that of the latest sweep. -/
theorem run_sweepStarted (host : Host) (port : UInt16) (probing : Settings.Probing)
    (os : List Occurrence) : ((start host port probing).run os).sweepStarted =
      ((start host port probing).sweepTimes os).getLast? := by
  induction os using List.reverseRecOn with
  | nil => rfl
  | append_singleton os o ih =>
    rw [run_concat, step_sweepStarted, sweepTimes_concat]
    split
    · rw [List.getLast?_concat]
    · rw [List.append_nil, ih]

theorem run_counted (h : m.outbox.Counted) (os : List Occurrence) :
    (m.run os).outbox.Counted := by
  induction os using List.reverseRecOn with
  | nil => exact h
  | append_singleton os o ih =>
    rw [run_concat]
    exact step_counted ih o

theorem run_sweepDatagrams (m : Mapper) (os : List Occurrence) :
    (m.run os).sweepDatagrams = m.sweepDatagrams := by
  simp only [sweepDatagrams, probes, run_host, run_port, run_probing]

/-- The probes in the outbox are those of a sweep that are sent last, and there
are none if probing is disabled. -/
theorem run_probes (host : Host) (port : UInt16) (probing : Settings.Probing)
    (hos : ∀ o ∈ os, o.event.postsProbes = false) :
    let m := start host port probing
    (m.run os).outbox.probes <:+ m.sweepDatagrams ∧
      (probing.enabled = false → (m.run os).outbox.probes = []) := by
  intro m
  induction os using List.reverseRecOn with
  | nil => exact ⟨List.nil_suffix, fun _ => rfl⟩
  | append_singleton os o ih =>
    obtain ⟨hsuffix, hdisabled⟩ := ih fun o' ho' => hos o' (List.mem_append_left _ ho')
    rw [run_concat]
    rcases step_probes_cases (m := m.run os) (hos o (List.mem_append_right _ List.mem_cons_self))
      with hprobes | ⟨hdue, hprobes⟩
    · refine ⟨hprobes.trans hsuffix, fun h => ?_⟩
      rw [hdisabled h] at hprobes
      exact List.suffix_nil.mp hprobes
    · rw [hprobes, run_sweepDatagrams]
      refine ⟨List.suffix_rfl, fun h => ?_⟩
      have henabled := (sweepDue_iff.mp hdue).1
      rw [run_probing] at henabled
      change probing.enabled = true at henabled
      rw [h] at henabled
      cases henabled

/-- If times keep their distance, what comes long enough after the last of them
comes long enough after all. -/
theorem add_le_of_getLast? {times : List Nat} {d t : Nat}
    (htimes : times.Pairwise fun s s' => s + d ≤ s') (hlast : ∀ s ∈ times.getLast?, s + d ≤ t) :
    ∀ s ∈ times, s + d ≤ t := by
  intro s hs
  cases hget : times.getLast? with
  | none =>
    rw [List.getLast?_eq_none_iff.mp hget] at hs
    cases hs
  | some last =>
    have hle : last + d ≤ t := hlast last hget
    obtain ⟨earlier, rfl⟩ := List.getLast?_eq_some_iff.mp hget
    rcases List.mem_append.mp hs with hs | hs
    · have hearlier : s + d ≤ last :=
        (List.pairwise_append.mp htimes).2.2 s hs last List.mem_cons_self
      omega
    · rwa [List.mem_singleton.mp hs]

/-- Sweeps that start at ticks keep their distance. -/
theorem pairwise_sweepTimes (host : Host) (port : UInt16) (probing : Settings.Probing)
    (hin : InOrder os) (hos : ∀ o ∈ os, o.event.postsProbes = false) :
    ((start host port probing).sweepTimes os).Pairwise fun s s' =>
      s + oneSecond * probing.intervalSecs.toNat ≤ s' := by
  induction os using List.reverseRecOn with
  | nil => exact .nil
  | append_singleton os o ih =>
    obtain ⟨hin, hbefore⟩ := inOrder_concat.mp hin
    have hpairs := ih hin fun o' ho' => hos o' (List.mem_append_left _ ho')
    rw [sweepTimes_concat]
    split
    · -- The sweep is due: the latest one before it started long enough ago.
      rename_i hstarts
      obtain ⟨-, -, hpassed⟩ := sweepDue_iff.mp
        (sweepDue_of_startsSweep hstarts (hos o (List.mem_append_right os List.mem_cons_self)))
      rw [run_sweepStarted, run_probing] at hpassed
      have hlast : ∀ s ∈ ((start host port probing).sweepTimes os).getLast?,
          s + oneSecond * probing.intervalSecs.toNat ≤ o.time := by
        intro s hs
        have hinterval : oneSecond * probing.intervalSecs.toNat ≤ o.time - s := hpassed s hs
        obtain ⟨o', ho', rfl⟩ := time_of_mem_sweepTimes (List.mem_of_getLast? hs)
        have hle := hbefore o' ho'
        omega
      refine List.pairwise_append.mpr ⟨hpairs, List.pairwise_singleton .., fun s hs t ht => ?_⟩
      rw [List.mem_singleton.mp ht]
      exact add_le_of_getLast? hpairs hlast s hs
    · rwa [List.append_nil]

/-- Whatever happens to a daemon, as long as its probes are those of sweeps that
start at ticks and time does not run backwards. The probes in the outbox are
those of one sweep that are sent last, in their order. A tick that starts a
sweep finds the outbox empty and leaves all its probes in it, and one that does
not leaves the outbox alone. The daemon remembers when the latest sweep started,
the times between the starts of two sweeps are not shorter than the settings
say, and there are no probes if the settings forbid them. A tick does start a
sweep if they allow it, the outbox is empty, and the latest sweep, if there was
one, started long enough ago. -/
theorem sweeps_keep_apart (host : Host) (port : UInt16) (probing : Settings.Probing)
    {os : List Occurrence} (hin : InOrder os) (hos : ∀ o ∈ os, o.event.postsProbes = false) :
    let m := (start host port probing).run os
    let plan : List Datagram := (Sweep.plan host probing).map fun (ours, target) =>
      ⟨⟨target, port⟩, (Request.probe ours target).frame, .probe⟩
    let times := (start host port probing).sweepTimes os
    (m.outbox.queue.filter fun d => d.purpose = .probe) <:+ plan ∧
      (∀ time isFree,
        (m.startsSweep ⟨time, isFree, .tick⟩ = true →
          m.outbox.queue = [] ∧ (m.tick time).outbox.queue = plan) ∧
        (m.startsSweep ⟨time, isFree, .tick⟩ = false → (m.tick time).outbox = m.outbox)) ∧
      m.sweepStarted = times.getLast? ∧
      (times.Pairwise fun s s' => s + oneSecond * probing.intervalSecs.toNat ≤ s') ∧
      (probing.enabled = false → ∀ d ∈ m.outbox.queue, d.purpose ≠ .probe) ∧
      ∀ time isFree, probing.enabled = true → m.outbox.queue = [] →
        (∀ s ∈ times.getLast?, s + oneSecond * probing.intervalSecs.toNat ≤ time) →
        m.startsSweep ⟨time, isFree, .tick⟩ = true := by
  intro m plan times
  have hplan : (start host port probing).sweepDatagrams = plan := by
    simp only [sweepDatagrams, probes, List.map_map]
    rfl
  obtain ⟨hsuffix, hdisabled⟩ := run_probes host port probing hos
  rw [hplan] at hsuffix
  have hstarted : m.sweepStarted = times.getLast? := run_sweepStarted host port probing os
  have hprobing : m.probing = probing := run_probing ..
  refine ⟨hsuffix, fun time isFree => ⟨fun hstarts => ?_, fun hstarts => ?_⟩, hstarted,
    pairwise_sweepTimes host port probing hin hos, fun h d hd hprobe => ?_,
    fun time isFree henabled hqueue hpassed => ?_⟩
  · have hdue : m.sweepDue time = true := hstarts
    have hempty := (sweepDue_iff.mp hdue).2.1
    have hdatagrams : m.sweepDatagrams = plan := (run_sweepDatagrams _ os).trans hplan
    refine ⟨hempty, ?_⟩
    rw [(m.tick_sweep time).1, if_pos hdue, Outbox.queue_postProbes, hempty, List.nil_append,
      ← hdatagrams]
    rfl
  · have hnot : m.sweepDue time = false := hstarts
    rw [(m.tick_sweep time).1, hnot, if_neg Bool.false_ne_true]
  · have hd : d ∈ m.outbox.probes := Outbox.mem_probes.mpr ⟨hd, hprobe⟩
    rw [hdisabled h] at hd
    cases hd
  · refine sweepDue_iff.mpr ⟨by rwa [hprobing], hqueue, fun s hs => ?_⟩
    rw [hstarted] at hs
    rw [hprobing]
    exact Nat.le_sub_of_add_le' (hpassed s hs)

/-- A daemon on a network that has a broadcast address. The tick at 10 s comes too
early for another sweep. The one at 300 s does not, and leaves all probes of the
sweep in the outbox. -/
theorem two_sweeps_keep_apart :
    let address (a : UInt8) : Address := .ofOctets 192 168 1 a
    let host : Host := ⟨[.ofAddress (address 10) (.ofOctets 255 255 255 0) (some (address 255))]⟩
    let isFree : Vacancy := fun _ => false
    let os : List Occurrence := [⟨0, isFree, .tick⟩,
      ⟨5, isFree, .datagram (Request.probe (address 20) (address 10)).frame ⟨address 20, 538⟩⟩,
      ⟨10 * oneSecond, isFree, .takeAll⟩, ⟨10 * oneSecond, isFree, .tick⟩]
    let last : Occurrence := ⟨300 * oneSecond, isFree, .tick⟩
    let m := start host 538 {}
    InOrder (os ++ [last]) ∧ (∀ o ∈ os ++ [last], o.event.postsProbes = false) ∧
      m.sweepTimes (os ++ [last]) = [0, 300 * oneSecond] ∧
      (m.sweepTimes (os ++ [last])).Pairwise (fun s s' => s + oneSecond * 300 ≤ s') ∧
      (m.run (os ++ [last])).outbox.queue =
        [⟨⟨address 255, 538⟩, (Request.probe (address 10) (address 255)).frame, .probe⟩] := by
  intro address host isFree os last m
  have hin : InOrder (os ++ [last]) := by simp [os, last, InOrder, oneSecond]
  have hos : ∀ o ∈ os ++ [last], o.event.postsProbes = false := by
    simp [os, last, Event.postsProbes]
  have htimes : m.sweepTimes (os ++ [last]) = [0, 300 * oneSecond] := by decide +kernel
  have hplan : ((Sweep.plan host {}).map fun (ours, target) =>
      (⟨⟨target, 538⟩, (Request.probe ours target).frame, .probe⟩ : Datagram)) =
        [⟨⟨address 255, 538⟩, (Request.probe (address 10) (address 255)).frame, .probe⟩] := by
    decide +kernel
  have hstarts : (m.run os).startsSweep last = true := by decide +kernel
  obtain ⟨-, -, -, hpairs, -⟩ := sweeps_keep_apart host 538 {} hin hos
  obtain ⟨-, hticks, -⟩ := sweeps_keep_apart host 538 {} (inOrder_concat.mp hin).1
    fun o ho => hos o (List.mem_append_left _ ho)
  rw [show start host 538 {} = m from rfl, hplan] at hticks
  refine ⟨hin, hos, htimes, hpairs, ?_⟩
  have hlast := ((hticks (300 * oneSecond) isFree).1 hstarts).2
  simpa only [run_concat, step, last] using hlast

end Mapper

end PortMapper
