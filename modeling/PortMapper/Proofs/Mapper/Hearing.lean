import PortMapper.Proofs.Mapper.Naming
import PortMapper.Proofs.Neighbours.Sound

/-!
# What events do to the neighbours

A daemon hears of a neighbour by the requests that show that a daemon runs at
their source (`Request.isHeard`), those in datagrams included, and it may be
told of one directly (`Event.heard?`). An event by which a neighbour is heard of
makes the table take in what it announces; of all others only those that forget
neighbours change the table (`Mapper.step_neighbours_cases`).

So the table is sound whatever happens to a daemon
(`Mapper.run_neighbours_sound`), and in the order in which the neighbours were
heard from as long as time does not run backwards
(`Mapper.run_heardInOrder`). Together this is
`Mapper.neighbours_apart_and_in_order`.
-/

namespace PortMapper

namespace Request

/-- Whether a request shows that a daemon runs at its source, which can be a
neighbour's. Any probe over a connection does. In a datagram, which has to come
from the port of daemons, so does the answer to a probe, and a probe that holds
a whole number of addresses. -/
def isHeard (r : Request) (h : Host) (port : UInt16) (source : Endpoint) (channel : Channel) :
    Bool :=
  h.admits source.address &&
    match r.opcode, channel with
    | .probe, .tcp => true
    | .probe, .udp => source.port == port && r.name.length % Address.size == 0
    | .probeReply, .udp => source.port == port
    | _, _ => false

/-- The addresses that a request announces. Only the answer to a probe announces
any, and not if it does not hold a whole number of them. -/
def announced (r : Request) : List Address :=
  match r.opcode with
  | .probeReply => r.addresses.toOption.getD []
  | _ => []

theorem isHeard_admits {r : Request} {h : Host} {port : UInt16} {source : Endpoint}
    {channel : Channel} (hr : r.isHeard h port source channel = true) :
    h.admits source.address = true := (Bool.and_eq_true_iff.mp hr).1

theorem isNone_addresses (r : Request) :
    r.addresses.toOption.isNone = !(r.name.length % Address.size == 0) := by
  rw [addresses]
  split
  · rename_i h
    simp [h, Except.toOption]
  · rename_i h
    simp [h, Except.toOption]

end Request

/-- The address at which an event lets a neighbour be heard of, and the
addresses that are announced with it. -/
def Event.heard? (h : Host) (port : UInt16) : Event → Option (Address × List Address)
  | .request r source channel =>
    if r.isHeard h port source channel then some (source.address, r.announced) else none
  | .datagram bytes source =>
    match Request.ofFrame bytes with
    | .error _ => none
    | .ok r => if r.isHeard h port source .udp then some (source.address, r.announced) else none
  | .contact a => if h.admits a then some (a, []) else none
  | _ => none

namespace Mapper

variable {m : Mapper} {isFree : Vacancy} {now : Nat} {r : Request} {source : Endpoint}
  {channel : Channel} {o : Occurrence} {a : Address} {announced : List Address}

/-! ## One event -/

/-- A request by which a neighbour is heard of makes the table take in what it
announces. Others leave it as it is. -/
theorem handle_neighbours (m : Mapper) (isFree : Vacancy) (now : Nat) (r : Request)
    (source : Endpoint) (channel : Channel) :
    (m.handle isFree now r source channel).mapper.neighbours =
      if r.isHeard m.host m.port source channel then
        (m.neighbours.announce m.host source.address r.announced now).2
      else m.neighbours := by
  cases hop : r.opcode with
  | register | unregister =>
    simp only [handle, hop, change, Request.isHeard, Bool.and_false]
    split
    · rfl
    · split <;> rfl
  | lookup =>
    simp only [handle, hop, lookup, Request.isHeard, Bool.and_false]
    split <;> rfl
  | servers | names =>
    simp only [handle, hop, list, Request.isHeard, Bool.and_false]
    cases channel <;> rfl
  | probe =>
    have hannounced : r.announced = [] := by simp only [Request.announced, hop]
    simp only [handle, hop, probe, Neighbours.contact, Request.isHeard, hannounced]
    cases channel with
    | tcp =>
      cases ha : m.host.admits source.address with
      | true => rfl
      | false =>
        simp only [Neighbours.announce_of_not_admits ha]
        rfl
    | udp =>
      simp only [Request.isNone_addresses]
      split
      · grind [ignored]
      · grind
  | probeReply =>
    have hannounced : r.announced = r.addresses.toOption.getD [] := by
      simp only [Request.announced, hop]
    simp only [handle, hop, noteReply, Request.isHeard, hannounced]
    cases channel with
    | tcp => simp [ignored]
    | udp =>
      cases ha : m.host.admits source.address with
      | true => grind [ignored]
      | false =>
        simp only [Neighbours.announce_of_not_admits ha]
        split <;> rfl

/-- A datagram does to the table what the request that it holds does. -/
theorem receive_neighbours (m : Mapper) (isFree : Vacancy) (now : Nat) (source : Endpoint)
    {bytes : Bytes} (hr : Request.ofFrame bytes = .ok r) :
    (m.receive isFree now bytes source).mapper.neighbours =
      (m.handle isFree now r source .udp).mapper.neighbours := by
  cases hout : (m.handle isFree now r source .udp).outcome with
  | close => rw [receive_of_close hr hout]
  | reply reply => rw [receive_of_reply hr hout]

theorem step_tick (m : Mapper) (time : Nat) (isFree : Vacancy) :
    (m.step ⟨time, isFree, .tick⟩).mapper = m.tick time := rfl

theorem tick_neighbours (m : Mapper) (now : Nat) : (m.tick now).neighbours =
    (m.neighbours.dropSilent (m.sweepProgress now) now).2 := by
  rw [tick]
  split <;> rfl

/-- An event by which a neighbour is heard of makes the table take in what is
announced with it. Of the others, some forget neighbours. -/
theorem step_neighbours_cases (m : Mapper) (o : Occurrence) :
    (∃ a announced, o.event.heard? m.host m.port = some (a, announced) ∧
        m.host.admits a = true ∧
        (m.step o).mapper.neighbours = (m.neighbours.announce m.host a announced o.time).2) ∨
      o.event.heard? m.host m.port = none ∧
        ((m.step o).mapper.neighbours = m.neighbours ∨
          (o.event = .tick ∨ o.event = .dropSilent) ∧ (m.step o).mapper.neighbours =
            (m.neighbours.dropSilent (m.sweepProgress o.time) o.time).2) := by
  obtain ⟨time, isFree, event⟩ := o
  cases event with
  | request r source channel =>
    simp only [Event.heard?, step, handle_neighbours]
    split
    · exact .inl ⟨_, _, rfl, Request.isHeard_admits ‹_›, rfl⟩
    · exact .inr ⟨rfl, .inl rfl⟩
  | datagram bytes source =>
    simp only [Event.heard?, step]
    cases hr : Request.ofFrame bytes with
    | error fault =>
      rw [receive_of_fault hr]
      exact .inr ⟨rfl, .inl rfl⟩
    | ok r =>
      simp only [receive_neighbours m isFree time source hr, handle_neighbours]
      split
      · exact .inl ⟨_, _, rfl, Request.isHeard_admits ‹_›, rfl⟩
      · exact .inr ⟨rfl, .inl rfl⟩
  | contact a =>
    simp only [Event.heard?, step, Neighbours.contact]
    cases ha : m.host.admits a with
    | true => exact .inl ⟨a, [], rfl, ha, rfl⟩
    | false =>
      rw [Neighbours.announce_of_not_admits ha]
      exact .inr ⟨rfl, .inl rfl⟩
  | tick => exact .inr ⟨rfl, .inr ⟨.inl rfl, m.tick_neighbours time⟩⟩
  | dropSilent => exact .inr ⟨rfl, .inr ⟨.inr rfl, rfl⟩⟩
  | _ => exact .inr ⟨rfl, .inl rfl⟩

/-- What is left of the table when no neighbour is heard of. -/
theorem step_neighbours_sublist (h : o.event.heard? m.host m.port = none) :
    (m.step o).mapper.neighbours.records.Sublist m.neighbours.records := by
  rcases m.step_neighbours_cases o with ⟨a, announced, hsome, -⟩ | ⟨-, hsame | ⟨-, hdrop⟩⟩
  · rw [h] at hsome
    cases hsome
  · rw [hsame]
  · rw [hdrop]
    exact Neighbours.dropSilent_sublist ..

theorem step_neighbours_sound (hm : m.neighbours.Sound m.host) (o : Occurrence) :
    (m.step o).mapper.neighbours.Sound m.host := by
  rcases m.step_neighbours_cases o with ⟨a, announced, -, -, heq⟩ | ⟨hnone, -⟩
  · rw [heq]
    exact hm.announce a announced o.time
  · exact hm.of_sublist (step_neighbours_sublist hnone)

theorem step_heardInOrder (hm : m.neighbours.Sound m.host)
    (ho : m.neighbours.HeardInOrder o.time) :
    (m.step o).mapper.neighbours.HeardInOrder o.time := by
  rcases m.step_neighbours_cases o with ⟨a, announced, -, -, heq⟩ | ⟨hnone, -⟩
  · rw [heq]
    exact ho.announce hm le_rfl a announced
  · exact ho.of_sublist (step_neighbours_sublist hnone)

/-! ## Runs -/

theorem run_neighbours_sound (hm : m.neighbours.Sound m.host) (os : List Occurrence) :
    (m.run os).neighbours.Sound m.host := by
  induction os using List.reverseRecOn with
  | nil => exact hm
  | append_singleton os o ih =>
    rw [run_concat, ← m.run_host os] at *
    exact step_neighbours_sound ih o

theorem Reachable.sound (hm : m.Reachable) : m.neighbours.Sound m.host := by
  obtain ⟨host, port, probing, os, rfl⟩ := hm
  rw [run_host]
  exact run_neighbours_sound (Neighbours.sound_empty host) os

/-- The table of a daemon is in the order in which its neighbours were heard from. -/
theorem run_heardInOrder (host : Host) (port : UInt16) (probing : Settings.Probing)
    {os : List Occurrence} (hin : InOrder os) (hnow : ∀ o ∈ os, o.time ≤ now) :
    ((start host port probing).run os).neighbours.HeardInOrder now := by
  induction os using List.reverseRecOn generalizing now with
  | nil => exact Neighbours.heardInOrder_empty now
  | append_singleton os o ih =>
    obtain ⟨hin, hbefore⟩ := inOrder_concat.mp hin
    have hsound : ((start host port probing).run os).neighbours.Sound
        ((start host port probing).run os).host := Reachable.sound ⟨_, _, _, _, rfl⟩
    rw [run_concat]
    refine (step_heardInOrder hsound (ih hin hbefore)).mono (hnow o ?_)
    exact List.mem_append_right os List.mem_cons_self

/-- Whatever happens to a daemon, as long as time does not run backwards: no two
records of its neighbours answer to the same address, so that the servers that
it lists are listed once; every host was first heard from on a network of ours
that is not a loopback one, and none has an address of ours; the records are in
the order in which they were heard from last, and those that are forgotten are
the end of the table. -/
theorem neighbours_apart_and_in_order (host : Host) (port : UInt16) (probing : Settings.Probing)
    {os : List Occurrence} (hin : InOrder os) :
    let m := (start host port probing).run os
    let t := m.neighbours
    (t.records.Pairwise fun n n' => ∀ a, ¬(n.answersTo a = true ∧ n'.answersTo a = true)) ∧
      t.addresses.Nodup ∧
      (∀ isFree now r source, r.opcode = .servers →
        (m.handle isFree now r source .tcp).outcome = .reply (Reply.addresses t.addresses)) ∧
      (∀ n ∈ t.records, host.owns n.address = false ∧
        (∃ i ∈ host.interfaces, i.loopback = false ∧ i.contains n.address = true) ∧
        ∀ a ∈ n.aliases, host.owns a = false) ∧
      (t.records.Pairwise fun n n' => n'.lastHeard ≤ n.lastHeard) ∧
      (∀ sweep now, ∃ gone, t.records = (t.dropSilent sweep now).2.records ++ gone) ∧
      ∀ o : Occurrence, o.event = .tick ∨ o.event = .dropSilent →
        ∃ gone, t.records = (m.step o).mapper.neighbours.records ++ gone := by
  intro m t
  have hsound : t.Sound host := run_neighbours_sound (Neighbours.sound_empty host) os
  obtain ⟨now, hnow⟩ : ∃ now, ∀ o ∈ os, o.time ≤ now :=
    ⟨(os.map (·.time)).sum, fun o ho => List.le_sum_of_mem (List.mem_map_of_mem ho)⟩
  have horder : t.HeardInOrder now := run_heardInOrder host port probing hin hnow
  have hsuffix (sweep : SweepProgress) (now : Nat) :
      ∃ gone, t.records = (t.dropSilent sweep now).2.records ++ gone := by
    obtain ⟨gone, hgone, -⟩ := horder.dropSilent_suffix sweep now
    exact ⟨gone, hgone⟩
  refine ⟨?_, hsound.nodup_addresses, ?_, ?_, horder.ordered, hsuffix, ?_⟩
  · exact hsound.apart.imp fun hapart a ha => hapart.not_answersTo ha.1 ha.2
  · intro isFree now r source hop
    simp only [handle, hop]
    rfl
  · intro n hn
    refine ⟨hsound.foreign n hn _ n.answersTo_address, ?_, fun a ha => ?_⟩
    · obtain ⟨i, hi, hreaches⟩ := List.any_eq_true.mp (hsound.reached n hn)
      rw [Bool.and_eq_true, Bool.not_eq_true'] at hreaches
      exact ⟨i, hi, hreaches⟩
    · exact hsound.foreign n hn a (Neighbour.answersTo_iff.mpr (.inr ha))
  · rintro ⟨time, isFree, event⟩ (rfl | rfl)
    · simp only [step, tick_neighbours]
      exact hsuffix _ time
    · exact hsuffix _ time

/-- A host with two addresses, of which each was heard from, and another host
that is heard from between: once the first announces both addresses, there are
two records, and half an hour later the second one is forgotten. -/
theorem two_neighbours_apart_and_in_order :
    let address (a : UInt8) : Address := .ofOctets 192 168 1 a
    let host : Host := ⟨[.ofAddress (address 10) (.ofOctets 255 255 255 0) none]⟩
    let isFree : Vacancy := fun _ => false
    let heard (time : Nat) (a : UInt8) (r : Request) : Occurrence :=
      ⟨time, isFree, .datagram r.frame ⟨address a, 538⟩⟩
    let os := [heard 0 21 (.probe (address 21) (address 10)),
      heard 5 30 (.probe (address 30) (address 10)),
      heard 9 20 (.probeReply (address 20) (address 10) [address 21])]
    let m := (start host 538 {}).run os
    InOrder os ∧
      m.neighbours.records = [⟨address 20, [address 21], 9⟩, ⟨address 30, [], 5⟩] ∧
      (∀ a, ¬((⟨address 20, [address 21], 9⟩ : Neighbour).answersTo a = true ∧
        (⟨address 30, [], 5⟩ : Neighbour).answersTo a = true)) ∧
      (m.tick (1800 * oneSecond + 6)).neighbours.records = [⟨address 20, [address 21], 9⟩] := by
  intro address host isFree heard os m
  have hin : InOrder os := by simp [os, heard, InOrder]
  have hrecords : m.neighbours.records =
      [⟨address 20, [address 21], 9⟩, ⟨address 30, [], 5⟩] := by decide +kernel
  have hleft : (m.tick (1800 * oneSecond + 6)).neighbours.records.length = 1 := by decide +kernel
  have hall := neighbours_apart_and_in_order host 538 {} hin
  rw [show (start host 538 {}).run os = m from rfl] at hall
  clear_value m
  obtain ⟨hapart, -, -, -, -, -, hgone⟩ := hall
  refine ⟨hin, hrecords, ?_, ?_⟩
  · rw [hrecords] at hapart
    exact List.rel_of_pairwise_cons hapart List.mem_cons_self
  · -- One record is left, and what goes is the end of the table.
    obtain ⟨gone, hrest⟩ := hgone ⟨1800 * oneSecond + 6, isFree, .tick⟩ (.inl rfl)
    rw [step_tick] at hrest
    obtain ⟨n, hn⟩ := List.length_eq_one_iff.mp hleft
    rw [hrecords, hn, List.singleton_append, List.cons.injEq] at hrest
    rw [hn, ← hrest.1]

end Mapper

end PortMapper
