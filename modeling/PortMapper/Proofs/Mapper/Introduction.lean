import PortMapper.Proofs.Mapper.Answering

/-!
# Making oneself known

Two daemons get to know each other by one probe and its answer. Whoever takes in
a probe from a neighbour has heard from it and answers (`Mapper.receive_probe`);
the answer carries the addresses of its sender, and whoever takes it in knows all
of them and says nothing more (`Mapper.receive_probeReply`). In both tables the
host just heard from comes first (`Neighbours.Sound.announce_head`).

What was in the tables before does not matter: records that had been kept for
some of the addresses are gathered in the one (`Mapper.probe_introduces`).
-/

namespace PortMapper

namespace Mapper

variable {m : Mapper} {source : Endpoint}

/-! ## Taking in a probe and its answer -/

/-- A daemon answers the probe of a neighbour, which it has thereby heard from. -/
theorem receive_probe (hport : source.port = m.port) (ha : m.host.admits source.address = true)
    (isFree : Vacancy) (now : Nat) (ours target : Address) :
    (m.receive isFree now (Request.probe ours target).frame source).mapper =
      { m with
        neighbours := (m.neighbours.announce m.host source.address [] now).2
        outbox := m.outbox.post source (m.probeReply source.address).frame } := by
  have hsize : (Request.probe ours target).name.length % Address.size = 0 := by
    rw [Request.probe, Address.length_encodeAll]
    exact Nat.mul_mod_right ..
  have hframe := Request.ofFrame_frame (Request.length_name_probe ours target)
  obtain ⟨howns, hreaches⟩ := Host.admits_iff.mp ha
  rw [receive_of_callsForAnswer hframe rfl ⟨hport, howns, hreaches, hsize⟩]
  rfl

/-- A daemon takes in the addresses that the answer to a probe carries, and does
not answer. -/
theorem receive_probeReply (hport : source.port = m.port) (isFree : Vacancy) (now : Nat)
    (ours prober : Address) (others : List Address) :
    (m.receive isFree now (Request.probeReply ours prober others).frame source).mapper =
      { m with
        neighbours := (m.neighbours.announce m.host source.address
          (ours :: prober :: others.take Request.extraRoom) now).2 } := by
  have haddresses : (Request.probeReply ours prober others).addresses =
      .ok (ours :: prober :: others.take Request.extraRoom) := Request.addresses_of_name rfl
  have hhandle : m.handle isFree now (Request.probeReply ours prober others) source .udp =
      ignored { m with
        neighbours := (m.neighbours.announce m.host source.address
          (ours :: prober :: others.take Request.extraRoom) now).2 } := by
    change m.noteReply now (Request.probeReply ours prober others) source .udp = _
    simp [noteReply, hport, haddresses, Except.toOption]
  rw [receive_of_close (Request.ofFrame_frame (Request.length_name_probeReply ours prober others))
    (congrArg Handled.outcome hhandle), hhandle]
  rfl

/-- Whoever takes in a probe knows the prober, and posts one answer to it. -/
theorem receive_probe_knows (hm : m.neighbours.Sound m.host) (source : Endpoint)
    (hport : source.port = m.port) (ha : m.host.admits source.address = true)
    (isFree : Vacancy) (now : Nat) (sender target : Address) :
    let after := (m.receive isFree now (Request.probe sender target).frame source).mapper
    (∃ n others, after.neighbours.records = n :: others ∧ n.answersTo source.address = true) ∧
      after.directory = m.directory ∧
      ∃ ours, m.host.addressFacing source.address = some ours ∧ m.host.owns ours = true ∧
        after.outbox.queue = m.outbox.queue ++ [⟨source, (Request.probeReply ours source.address
          (m.host.externalAddresses.filter (· != ours))).frame, .reply⟩] := by
  intro after
  have hafter : after = { m with
      neighbours := (m.neighbours.announce m.host source.address [] now).2
      outbox := m.outbox.post source (m.probeReply source.address).frame } :=
    receive_probe hport ha isFree now sender target
  obtain ⟨n, others, hrecords, hn, -⟩ := hm.announce_head ha [] now
  obtain ⟨i, hi, hfacing, -, -⟩ := Host.addressFacing_of_admits ha
  have howns : m.host.owns i.address = true := List.any_eq_true.mpr ⟨i, hi, beq_self_eq_true _⟩
  rw [hafter]
  refine ⟨⟨n, others, hrecords, hn⟩, rfl, i.address, hfacing, howns, ?_⟩
  rw [Outbox.queue_post, probeReply, hfacing]
  rfl

/-- Whoever takes in the answer to a probe knows its sender by all addresses that
it carries, but does not take its own for those of a neighbour. -/
theorem receive_probeReply_knows (hm : m.neighbours.Sound m.host) (source : Endpoint)
    (hport : source.port = m.port) (ha : m.host.admits source.address = true)
    (isFree : Vacancy) (now : Nat) (ours prober : Address) (others : List Address) :
    let after :=
      (m.receive isFree now (Request.probeReply ours prober others).frame source).mapper
    after.outbox = m.outbox ∧ after.directory = m.directory ∧
      (∃ n others', after.neighbours.records = n :: others' ∧
        n.answersTo source.address = true ∧
        ∀ c ∈ ours :: prober :: others.take Request.extraRoom,
          m.host.owns c = false → n.answersTo c = true) ∧
      ∀ n ∈ after.neighbours.records, ∀ c, n.answersTo c = true → m.host.owns c = false := by
  intro after
  have hafter : after = { m with
      neighbours := (m.neighbours.announce m.host source.address
        (ours :: prober :: others.take Request.extraRoom) now).2 } :=
    receive_probeReply hport isFree now ours prober others
  rw [hafter]
  exact ⟨rfl, rfl, hm.announce_head ha _ now, (hm.announce ..).foreign⟩

/-! ## A probe and its answer -/

/-- Every probe of a sweep is written from two addresses. -/
theorem exists_of_mem_probes {p : Endpoint × Bytes} (hp : p ∈ m.probes) :
    ∃ sender target, p.2 = (Request.probe sender target).frame := by
  obtain ⟨⟨sender, target⟩, -, rfl⟩ := List.mem_map.mp hp
  exact ⟨sender, target, rfl⟩

/-- Two daemons that are on a network with each other and are reached at the same
port, and one probe of a sweep of the first, whatever its target. The other one
takes it in, so that it knows the first, and posts one answer to it, which
carries the address that faces the first, that of the first, and as many of its
others as fit. Once the first takes in this answer, whatever else happened to it
meanwhile, it knows the other one by all addresses that the answer carries,
except those that are its own, and posts nothing. None of its own addresses are
taken for those of a neighbour, and neither daemon changes its names. -/
theorem probe_introduces {prober probed : Mapper} (hprober : prober.Reachable)
    (hprobed : probed.Reachable) (hport : prober.port = probed.port) {a b : Address}
    (ha : probed.host.admits a = true) (hb : prober.host.admits b = true)
    {p : Endpoint × Bytes} (hp : p ∈ prober.probes) (isFree isFree' : Vacancy) (now now' : Nat)
    (os : List Occurrence) :
    let probed' := (probed.receive isFree now p.2 ⟨a, prober.port⟩).mapper
    (∃ n others, probed'.neighbours.records = n :: others ∧ n.answersTo a = true) ∧
      probed'.directory = probed.directory ∧
      ∃ bytes reply carried,
        probed'.outbox.queue = probed.outbox.queue ++ [⟨⟨a, prober.port⟩, bytes, .reply⟩] ∧
        Request.ofFrame bytes = .ok reply ∧ reply.opcode = .probeReply ∧
        reply.addresses = .ok carried ∧
        (∃ ours, probed.host.addressFacing a = some ours ∧ probed.host.owns ours = true ∧
          carried = ours :: a ::
            (probed.host.externalAddresses.filter (· != ours)).take Request.extraRoom) ∧
        let before := prober.run os
        let after := (before.receive isFree' now' bytes ⟨b, probed.port⟩).mapper
        after.outbox = before.outbox ∧ after.directory = before.directory ∧
          (∃ n others, after.neighbours.records = n :: others ∧ n.answersTo b = true ∧
            ∀ c ∈ carried, prober.host.owns c = false → n.answersTo c = true) ∧
          ∀ n ∈ after.neighbours.records, ∀ c, n.answersTo c = true →
            prober.host.owns c = false := by
  intro probed'
  obtain ⟨sender, target, hp⟩ := exists_of_mem_probes hp
  have hprobe := receive_probe_knows hprobed.sound ⟨a, prober.port⟩ hport ha isFree now sender target
  rw [← hp] at hprobe
  obtain ⟨hknows, hdirectory, ours, hfacing, howns, hqueue⟩ := hprobe
  -- The prober has kept its host and its port, and its table is still sound.
  have hbefore : (prober.run os).neighbours.Sound (prober.run os).host := by
    rw [run_host]
    exact run_neighbours_sound hprober.sound os
  have hname := Request.length_name_probeReply ours a
    (probed.host.externalAddresses.filter (· != ours))
  have hreply := receive_probeReply_knows hbefore ⟨b, probed.port⟩
    (hport.symm.trans (prober.run_port os).symm) (by rwa [run_host]) isFree' now' ours a
    (probed.host.externalAddresses.filter (· != ours))
  rw [run_host] at hreply
  exact ⟨hknows, hdirectory, _, _, _, hqueue, Request.ofFrame_frame hname, rfl,
    Request.addresses_of_name rfl, ⟨ours, hfacing, howns, rfl⟩, hreply⟩

/-- Two hosts that share two networks, each of which knows the other one by its
address on the second. A broadcast on the first network introduces them. -/
theorem broadcast_introduces :
    let first (a : UInt8) : Address := .ofOctets 192 168 1 a
    let second (a : UInt8) : Address := .ofOctets 10 0 0 a
    let mask : Address := .ofOctets 255 255 255 0
    let host (a : UInt8) : Host :=
      ⟨[.ofAddress (first a) mask (some (first 255)), .ofAddress (second a) mask none]⟩
    let isFree : Vacancy := fun _ => false
    let prober := (start (host 10) 538 {}).run [⟨0, isFree, .contact (second 20)⟩,
      ⟨1, isFree, .contact (first 30)⟩]
    let probed := (start (host 20) 538 {}).run [⟨0, isFree, .contact (second 10)⟩]
    let p := (⟨first 255, 538⟩, (Request.probe (first 10) (first 255)).frame)
    prober.Reachable ∧ probed.Reachable ∧ prober.port = probed.port ∧
      probed.host.admits (first 10) = true ∧ prober.host.admits (first 20) = true ∧
      p ∈ prober.probes ∧
      ∃ bytes, (probed.receive isFree 7 p.2 ⟨first 10, 538⟩).mapper.outbox.queue =
          [⟨⟨first 10, 538⟩, bytes, .reply⟩] ∧
        ∃ n others, (prober.receive isFree 9 bytes ⟨first 20, 538⟩).mapper.neighbours.records =
            n :: others ∧
          n.answersTo (first 20) = true ∧ n.answersTo (second 20) = true := by
  intro first second mask host isFree prober probed p
  have hprober : prober.Reachable := ⟨_, _, _, _, rfl⟩
  have hprobed : probed.Reachable := ⟨_, _, _, _, rfl⟩
  have hport : prober.port = 538 ∧ probed.port = 538 := by decide +kernel
  have ha : probed.host.admits (first 10) = true := by decide +kernel
  have hb : prober.host.admits (first 20) = true := by decide +kernel
  have hp : p ∈ prober.probes := by decide +kernel
  have hfacing : probed.host.addressFacing (first 10) = some (first 20) := by decide +kernel
  have hothers : probed.host.externalAddresses.filter (· != first 20) = [second 20] := by
    decide +kernel
  have hforeign : prober.host.owns (second 20) = false := by decide +kernel
  have hqueue : probed.outbox.queue = [] := by decide +kernel
  have hall := probe_introduces hprober hprobed (hport.1.trans hport.2.symm) ha hb hp isFree isFree
    7 9 []
  clear_value prober probed
  rw [hport.1, hport.2, hqueue] at hall
  obtain ⟨-, -, bytes, reply, carried, hposted, -, -, -, ⟨ours, hours, -, rfl⟩, -, -,
    ⟨n, others, hrecords, hn, hcarried⟩, -⟩ := hall
  cases hfacing.symm.trans hours
  rw [hothers] at hcarried
  refine ⟨hprober, hprobed, hport.1.trans hport.2.symm, ha, hb, hp, bytes, hposted, n, others,
    hrecords, hn, hcarried _ ?_ hforeign⟩
  decide +kernel

end Mapper

end PortMapper
