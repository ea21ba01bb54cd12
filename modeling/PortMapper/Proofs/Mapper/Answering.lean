import PortMapper.Proofs.Mapper.Hearing
import PortMapper.Proofs.Request.Canonical

/-!
# Answering probes

A probe in a datagram calls for an answer if it comes from the daemon of a neighbour and holds a
whole number of addresses (`Mapper.CallsForAnswer`). It is answered then, and the prober has been
heard from (`Mapper.receive_of_callsForAnswer`); any other probe is as if it had never come
(`Mapper.receive_of_not_callsForAnswer`).

A neighbour is on a network of the host, so that the address that faces it is that of the first
interface on such a network (`Host.exists_find_of_admits`), and not one that a host falls back on.
The answer carries nothing but this address, that of the prober, and others that are not loopback
addresses. It has room for 63 of them.
-/

namespace PortMapper

namespace Host

variable {h : Host} {a : Address}

theorem mem_externalAddresses :
    a ∈ h.externalAddresses ↔ ∃ i ∈ h.interfaces, i.loopback = false ∧ i.address = a := by
  simp only [externalAddresses, List.mem_map, List.mem_filter, Bool.not_eq_true', and_assoc]

/-! ## The addresses that an answer carries -/

/-- The addresses that the answer to a prober carries, given the one that faces it. -/
def carried (h : Host) (ours prober : Address) : List Address :=
  ours :: prober :: (h.externalAddresses.filter (· != ours)).take Request.extraRoom

variable {ours prober : Address}

/-- An answer carries no address of this host but those that are not loopback ones. -/
theorem mem_externalAddresses_of_mem_carried (hours : ours ∈ h.externalAddresses)
    (ha : a ∈ h.carried ours prober) (hne : a ≠ prober) : a ∈ h.externalAddresses := by
  rcases List.mem_cons.mp ha with rfl | ha
  · exact hours
  rcases List.mem_cons.mp ha with rfl | ha
  · exact absurd rfl hne
  · exact List.mem_of_mem_filter (List.mem_of_mem_take ha)

/-- An answer has room for all addresses of a host that has no more than 62. -/
theorem mem_carried_of_length_le (hours : ours ∈ h.externalAddresses)
    (hlength : h.externalAddresses.length ≤ 62) (ha : a ∈ h.externalAddresses) :
    a ∈ h.carried ours prober := by
  have hothers : (h.externalAddresses.filter (· != ours)).length < h.externalAddresses.length := by
    rw [List.length_filter_lt_length_iff_exists]
    exact ⟨ours, hours, by simp⟩
  have hroom : (h.externalAddresses.filter (· != ours)).length ≤ Request.extraRoom :=
    Nat.le_of_lt_succ (Nat.lt_of_lt_of_le hothers hlength)
  rw [carried, List.take_of_length_le hroom]
  by_cases hne : a = ours
  · exact List.mem_cons.mpr (.inl hne)
  · exact List.mem_cons_of_mem _ (List.mem_cons_of_mem _
      (List.mem_filter.mpr ⟨ha, bne_iff_ne.mpr hne⟩))

end Host

namespace Mapper

variable {m : Mapper} {isFree : Vacancy} {now : Nat} {r : Request} {source : Endpoint}
  {bytes : Bytes}

/-- Whether a probe in a datagram calls for an answer, given the length of its payload. -/
def CallsForAnswer (m : Mapper) (source : Endpoint) (length : Nat) : Prop :=
  source.port = m.port ∧ m.host.owns source.address = false ∧
    m.host.reaches source.address = true ∧ length % Address.size = 0

/-! ## Taking in probes -/

theorem refused_iff_not_callsForAnswer :
    (source.port ≠ m.port ∨ (!m.host.admits source.address) = true ∨
        r.addresses.toOption.isNone = true) ↔
      ¬m.CallsForAnswer source r.name.length := by
  rw [Request.isNone_addresses, CallsForAnswer, ← and_assoc (a := _ = false), ← Host.admits_iff,
    not_and_or, not_and_or, Bool.not_eq_true', Bool.not_eq_true, Bool.not_eq_true',
    beq_eq_false_iff_ne]

theorem handle_of_callsForAnswer (hop : r.opcode = .probe)
    (h : m.CallsForAnswer source r.name.length) :
    m.handle isFree now r source .udp =
      { outcome := .reply (m.probeReply source.address).frame
        mapper := { m with
          neighbours := (m.neighbours.contact m.host source.address now).2 } } := by
  simp only [handle, hop, probe]
  exact if_neg fun hrefused => refused_iff_not_callsForAnswer.mp hrefused h

theorem handle_of_not_callsForAnswer (hop : r.opcode = .probe)
    (h : ¬m.CallsForAnswer source r.name.length) :
    m.handle isFree now r source .udp = m.ignored := by
  simp only [handle, hop, probe]
  exact if_pos (refused_iff_not_callsForAnswer.mpr h)

/-- A probe that calls for an answer is answered, and the prober has been heard from. -/
theorem receive_of_callsForAnswer (hr : Request.ofFrame bytes = .ok r) (hop : r.opcode = .probe)
    (h : m.CallsForAnswer source r.name.length) :
    m.receive isFree now bytes source =
      { mapper := { m with
          neighbours := (m.neighbours.contact m.host source.address now).2
          outbox := m.outbox.post source (m.probeReply source.address).frame } } := by
  have hhandle : m.handle isFree now r source .udp = _ := handle_of_callsForAnswer hop h
  rw [receive_of_reply hr (congrArg Handled.outcome hhandle), hhandle]

/-- A probe that does not call for an answer is ignored. -/
theorem receive_of_not_callsForAnswer (hr : Request.ofFrame bytes = .ok r)
    (hop : r.opcode = .probe) (h : ¬m.CallsForAnswer source r.name.length) :
    m.receive isFree now bytes source = { mapper := m } := by
  have hhandle : m.handle isFree now r source .udp = _ := handle_of_not_callsForAnswer hop h
  rw [receive_of_close hr (congrArg Handled.outcome hhandle), hhandle]
  rfl

/-- What is read from the frame of a probe. -/
theorem exists_ofFrame_of_probe (n : UInt8) {rest : Bytes} (hrest : rest.length = 262) :
    ∃ r, Request.ofFrame (0x50 :: n :: rest) = .ok r ∧ r.opcode = .probe ∧
      r.name.length = n.toNat := by
  have hlength : (0x50 :: n :: rest : Bytes).length = frameSize := by simp [hrest, frameSize]
  obtain ⟨op, n', k, z, a, b, c, d, field, heq, hfield⟩ := Request.exists_cons_of_length hlength
  cases heq
  refine ⟨_, Request.ofFrame_cons hfield, rfl, ?_⟩
  rw [List.length_take_of_le]
  rw [hfield]
  exact Nat.le_succ_of_le (toNat_le_maxNameLength n)

/-- The answer to a neighbour carries our address on the network with it. -/
theorem probeReply_eq {ours : Address} (h : m.host.addressFacing source.address = some ours) :
    m.probeReply source.address = Request.probeReply ours source.address
      (m.host.externalAddresses.filter (· != ours)) := by
  rw [probeReply, h]
  rfl

/-- A probe, which is any frame of 264 bytes that begins with the letter of a probe, is answered
exactly if it comes from the port of daemons, not from an address of this host but from one on a
network of an interface that is not a loopback one, and its payload is as long as a whole number
of addresses.

The answer is one datagram to the prober, a frame of 264 bytes that is read as the answer to a
probe. It carries the address of the first such interface that is on a network with the prober,
that of the prober, and the first 61 others of the interfaces that are not loopback ones, in
their order. So no address that belongs to loopback interfaces only is announced, nor any that
belongs to no interface but the prober's, and all are announced that do not belong to loopback
interfaces if they are not more than 62. An answer changes nothing but the table of neighbours,
and without one nothing changes. -/
theorem probe_answered_exactly (m : Mapper) (isFree : Vacancy) (now : Nat) (source : Endpoint)
    (n : UInt8) {rest : Bytes} (hrest : rest.length = 262) :
    let received := m.receive isFree now (0x50 :: n :: rest) source
    let called := source.port = m.port ∧ m.host.owns source.address = false ∧
      m.host.reaches source.address = true ∧ n.toNat % 4 = 0
    let external := m.host.externalAddresses
    (received.mapper.outbox.queue ≠ m.outbox.queue ↔ called) ∧
    (¬called → received = { mapper := m }) ∧
    (called → ∃ i reply r,
      m.host.interfaces.find? (fun i => !i.loopback && i.contains source.address) = some i ∧
      received = { mapper := { m with
        neighbours := (m.neighbours.contact m.host source.address now).2
        outbox := { m.outbox with queue := m.outbox.queue ++ [⟨source, reply, .reply⟩] } } } ∧
      reply.length = 264 ∧ Request.ofFrame reply = .ok r ∧ r.opcode = .probeReply ∧
      let carried := i.address :: source.address :: (external.filter (· != i.address)).take 61
      r.addresses = .ok carried ∧
        (∀ a ∈ carried, a ≠ source.address → a ∈ external) ∧
        (∀ j ∈ m.host.interfaces, j.address ∈ carried → j.address ∈ external) ∧
        (external.length ≤ 62 → ∀ a ∈ external, a ∈ carried)) := by
  intro received called external
  obtain ⟨r, hr, hop, hname⟩ := exists_ofFrame_of_probe n hrest
  have hcalled : called ↔ m.CallsForAnswer source r.name.length := by
    rw [hname]
    rfl
  have hsilent : ¬called → received = { mapper := m } := fun h =>
    receive_of_not_callsForAnswer hr hop (mt hcalled.mpr h)
  have hanswered : called → received = _ := fun h =>
    receive_of_callsForAnswer hr hop (hcalled.mp h)
  refine ⟨⟨fun hne => ?_, fun h => ?_⟩, hsilent, fun h => ?_⟩
  · by_contra hnot
    exact hne (by rw [hsilent hnot])
  · rw [hanswered h, Outbox.queue_post]
    exact fun heq => List.cons_ne_nil _ _ (List.append_right_eq_self.mp heq)
  · have ha : m.host.admits source.address = true := Host.admits_iff.mpr ⟨h.2.1, h.2.2.1⟩
    obtain ⟨i, hi, hfind, hfacing, hloopback, -⟩ := Host.exists_find_of_admits ha
    have hexternal := Host.mem_externalAddresses.mpr ⟨i, hi, hloopback, rfl⟩
    have hreceived := hanswered h
    rw [probeReply_eq hfacing] at hreceived
    refine ⟨i, _, _, hfind, hreceived, Request.length_frame _,
      Request.ofFrame_frame (Request.length_name_probeReply ..), rfl,
      Request.addresses_of_name rfl, fun a => Host.mem_externalAddresses_of_mem_carried hexternal,
      fun j hj hcarried => ?_, fun hlength a => Host.mem_carried_of_length_le hexternal hlength⟩
    -- No interface has the address of the prober.
    have hforeign := List.any_eq_false.mp h.2.1 j hj
    exact Host.mem_externalAddresses_of_mem_carried hexternal hcarried
      fun heq => hforeign (beq_iff_eq.mpr heq)

/-- A host with two networks and a loopback interface, which comes first, and one of which has
the address of an interface of the first network. It announces this address, and not `127.0.0.1`,
to a neighbour whose probe holds two addresses; a payload of nine bytes is not answered. -/
theorem probe_answered_past_loopback :
    let ours : Address := .ofOctets 192 168 1 10
    let prober : Endpoint := ⟨.ofOctets 192 168 1 20, 538⟩
    let second : Address := .ofOctets 10 0 0 10
    let mask : Address := .ofOctets 255 255 255 0
    let m : Mapper := { host := ⟨[Host.loopbackInterface, .ofAddress second mask none,
      { Interface.ofAddress ours mask none with loopback := true },
      .ofAddress ours mask none]⟩, port := 538 }
    let isFree : Vacancy := fun _ => false
    let rest : Bytes := List.replicate 262 0
    rest.length = 262 ∧
      (∃ reply r, (m.receive isFree 7 (0x50 :: 8 :: rest) prober).mapper.outbox.queue =
          [⟨prober, reply, .reply⟩] ∧
        Request.ofFrame reply = .ok r ∧ r.addresses = .ok [ours, prober.address, second]) ∧
      m.receive isFree 7 (0x50 :: 9 :: rest) prober = { mapper := m } := by
  intro ours prober second mask m isFree rest
  have hrest : rest.length = 262 := List.length_replicate
  obtain ⟨-, -, hanswered⟩ := probe_answered_exactly m isFree 7 prober 8 hrest
  obtain ⟨-, hsilent, -⟩ := probe_answered_exactly m isFree 7 prober 9 hrest
  obtain ⟨i, reply, r, hfind, hreceived, -, hr, -, haddresses, -⟩ := hanswered (by decide +kernel)
  have hi : i.address = ours := by
    have hfirst : m.host.interfaces.find? (fun i => !i.loopback && i.contains prober.address) =
        some (.ofAddress ours mask none) := by decide +kernel
    cases hfirst.symm.trans hfind
    rfl
  have hothers : (m.host.externalAddresses.filter (· != ours)).take 61 = [second] := by
    decide +kernel
  rw [hi, hothers] at haddresses
  refine ⟨hrest, ⟨reply, r, ?_, hr, haddresses⟩, hsilent (by decide +kernel)⟩
  rw [hreceived]
  rfl

end Mapper

end PortMapper
