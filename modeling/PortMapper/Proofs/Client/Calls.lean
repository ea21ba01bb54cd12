import PortMapper.Proofs.Mapper.Hearing
import PortMapper.Proofs.Reply.Codec
import PortMapper.Proofs.Session
import PortMapper.Session.Network

/-!
# Calls

A call of a client is the request that it sends, handled at the other end, and
what is read from the outcome (`Client.call_network`): frames and replies are
read as they were written. So calling a daemon is the same as doing to its names,
or asking of its tables, what the call is named for
(`Client.calls_agree_with_mapper`).

A reply that is a list is read if it is within the limits of the reader and if its
names can be written. They can, since they were registered
(`Mapper.Reachable.length_listing_le`).
-/

namespace PortMapper

namespace Request

variable {opcode : Opcode} {name : Bytes} {port : UInt32} {kind : PortKind}

/-- A request about a name that a frame carries. -/
theorem naming_of_le (h : name.length ≤ maxNameLength) :
    naming opcode name port kind = .ok { opcode, kindByte := kind.toByte, port, name } := by
  rw [naming, if_neg (Nat.not_lt_of_le h)]

/-- There is no request about a name that is too long. -/
theorem naming_of_lt (h : maxNameLength < name.length) :
    naming opcode name port kind = .error (.nameTooLong name.length) := by
  rw [naming, if_pos h]

end Request

/-- The names of a daemon can be sent. -/
theorem Mapper.Reachable.length_listing_le {m : Mapper} (hm : m.Reachable) :
    ∀ e ∈ m.directory.listing, e.name.length ≤ maxNameLength := by
  obtain ⟨names, hnames⟩ := hm.represents
  intro e he
  obtain ⟨r, hr, rfl⟩ := List.mem_map.mp he
  exact (hnames.bounds (Array.mem_toList_iff.mp hr)).1.2

namespace Client

variable {α : Type} {m : Mapper} {isFree : Vacancy} {now : Nat} {source daemon : Endpoint}
  {r : Request} {name : Bytes} {port : UInt32} {kind : PortKind}

/-! ## One call -/

/-- A call is the request, handled at the other end, and what is read from the outcome. -/
theorem call_network (h : r.name.length ≤ maxNameLength) (read : Stream → Except CallFault α) :
    call (Session.network isFree now source) daemon (.ok r) read m =
      let handled := m.handle isFree now r source .tcp
      (read ⟨handled.outcome.written, .closed⟩, handled.mapper) := by
  have hr : Session.request? ⟨r.frame, .stalled⟩ = some r :=
    Session.request?_of_ofFrame (Request.ofFrame_frame h)
  simp only [call, Session.network, Session.serve_of_request? hr]

/-- A port is read from a reply that nothing follows. -/
theorem readPort_reply (p : UInt32) : readPort ⟨Reply.port p, .closed⟩ = .ok p := by
  rw [← List.append_nil (Reply.port p)]
  exact readPort_port p

/-- A call whose request the names answer. -/
theorem call_of_answer (h : r.name.length ≤ maxNameLength) {a : Directory.Answer}
    (ha : m.directory.answer? m.host isFree r source = some a) :
    call (Session.network isFree now source) daemon (.ok r) readPort m =
      (.ok a.port, { m with directory := a.directory }) := by
  rw [call_network h, Mapper.handle_of_answer ha]
  exact congrArg (·, _) (readPort_reply a.port)

/-- A call whose request is ignored. -/
theorem call_of_ignored (h : r.name.length ≤ maxNameLength)
    (hr : m.handle isFree now r source .tcp = m.ignored) :
    call (Session.network isFree now source) daemon (.ok r) readPort m = (.error .closed, m) := by
  rw [call_network h, hr]
  rfl

/-! ## Calls about names -/

theorem lookup_network (h : name.length ≤ maxNameLength) :
    lookup (Session.network isFree now source) daemon name kind m =
      let a := m.directory.lookupLive isFree name kind
      (.ok a.port, { m with directory := a.directory }) := by
  rw [lookup, Request.lookup, Request.naming_of_le h]
  exact call_of_answer h (Directory.answer?_lookup rfl (PortKind.ofByte_toByte kind))

theorem register_network (h : name.length ≤ maxNameLength)
    (hown : m.host.owns source.address = true) :
    register (Session.network isFree now source) daemon name port kind m =
      let a := m.directory.register isFree name port kind
      (.ok a.port, { m with directory := a.directory }) := by
  rw [register, Request.register, Request.naming_of_le h]
  exact call_of_answer h (Directory.answer?_register rfl hown (PortKind.ofByte_toByte kind))

theorem unregister_network (h : name.length ≤ maxNameLength)
    (hown : m.host.owns source.address = true) :
    unregister (Session.network isFree now source) daemon name port kind m =
      let a := m.directory.withdraw name port kind
      (.ok a.port, { m with directory := a.directory }) := by
  rw [unregister, Request.unregister, Request.naming_of_le h]
  exact call_of_answer h (Directory.answer?_unregister rfl hown (PortKind.ofByte_toByte kind))

theorem register_network_of_not_owns (h : name.length ≤ maxNameLength)
    (hown : m.host.owns source.address = false) :
    register (Session.network isFree now source) daemon name port kind m =
      (.error .closed, m) := by
  rw [register, Request.register, Request.naming_of_le h]
  exact call_of_ignored h (Mapper.change_of_not_owns hown _)

theorem unregister_network_of_not_owns (h : name.length ≤ maxNameLength)
    (hown : m.host.owns source.address = false) :
    unregister (Session.network isFree now source) daemon name port kind m =
      (.error .closed, m) := by
  rw [unregister, Request.unregister, Request.naming_of_le h]
  exact call_of_ignored h (Mapper.change_of_not_owns hown _)

/-! ## Other calls -/

theorem probe_network (sender : Address) :
    probe (Session.network isFree now source) daemon sender m =
      (.ok m.port.toUInt32,
        { m with neighbours := (m.neighbours.contact m.host source.address now).2 }) := by
  rw [probe, call_network (Request.length_name_probe sender daemon.address)]
  exact congrArg (·, _) (readPort_reply m.port.toUInt32)

/-- What is read of the list of servers, which nobody changes by asking for it. -/
theorem servers_network :
    servers (Session.network isFree now source) daemon m =
      (readAddresses ⟨Reply.addresses m.neighbours.addresses ++ [], .closed⟩, m) := by
  rw [servers, call_network (Nat.zero_le _), List.append_nil]
  rfl

/-- What is read of the list of names, which nobody changes by asking for it. -/
theorem names_network :
    names (Session.network isFree now source) daemon m =
      (readNames ⟨Reply.names m.directory.listing ++ [], .closed⟩, m) := by
  rw [names, call_network (Nat.zero_le _), List.append_nil]
  rfl

/-! ## All calls -/

/-- A call does to a daemon what it is named for, whatever the daemon knows and
wherever the client is. The port of a name is that of a name looked up in the
daemon's own names. From an address of the daemon's host, a name is registered and
withdrawn as in the daemon's own names, whatever the port and the name; from any
other, the connection is closed without a reply and nothing changes. A name that no
frame carries is refused before anything is sent. Lists are those of the daemon, as
long as they are within the limits of the client. -/
theorem calls_agree_with_mapper {m : Mapper} (hm : m.Reachable) (isFree : Vacancy) (now : Nat)
    (source daemon : Endpoint) :
    let network := Session.network isFree now source
    let answered (a : Directory.Answer) : Except CallFault UInt32 × Mapper :=
      (.ok a.port, { m with directory := a.directory })
    (∀ name kind, name.length ≤ 255 →
      lookup network daemon name kind m = answered (m.directory.lookupLive isFree name kind)) ∧
    (∀ name port kind, name.length ≤ 255 → m.host.owns source.address = true →
      register network daemon name port kind m =
          answered (m.directory.register isFree name port kind) ∧
        unregister network daemon name port kind m =
          answered (m.directory.withdraw name port kind)) ∧
    (∀ name port kind, name.length ≤ 255 → m.host.owns source.address = false →
      register network daemon name port kind m = (.error .closed, m) ∧
        unregister network daemon name port kind m = (.error .closed, m)) ∧
    (∀ name port kind, 255 < name.length →
      let refused := (.error (.malformed (.nameTooLong name.length)), m)
      lookup network daemon name kind m = refused ∧
        register network daemon name port kind m = refused ∧
        unregister network daemon name port kind m = refused) ∧
    (∀ sender, probe network daemon sender m =
      (.ok m.port.toUInt32,
        { m with neighbours := (m.neighbours.contact m.host source.address now).2 })) ∧
    ((Reply.namesBody m.directory.listing).length ≤ 2 ^ 24 →
      names network daemon m = (.ok m.directory.listing, m)) ∧
    (m.neighbours.addresses.length ≤ 65536 →
      servers network daemon m = (.ok m.neighbours.addresses, m)) := by
  intro network answered
  refine ⟨fun name kind h => lookup_network h, fun name port kind h hown => ?_,
    fun name port kind h hown => ?_, fun name port kind h => ?_, fun sender => probe_network sender,
    fun h => ?_, fun h => ?_⟩
  · exact ⟨register_network h hown, unregister_network h hown⟩
  · exact ⟨register_network_of_not_owns h hown, unregister_network_of_not_owns h hown⟩
  · have hnaming (opcode : Opcode) (p : UInt32) :
        Request.naming opcode name p kind = .error (.nameTooLong name.length) :=
      Request.naming_of_lt h
    simp only [lookup, register, unregister, Request.lookup, Request.register, Request.unregister,
      hnaming]
    exact ⟨rfl, rfl, rfl⟩
  · rw [names_network, readNames_names hm.length_listing_le h]
  · rw [servers_network, readAddresses_addresses h]

/-- A name that was registered on the host is looked up, listed and refused to be
taken over from another host. -/
theorem registered_name_agrees :
    let host : Host :=
      ⟨[Host.loopbackInterface,
        .ofAddress (.ofOctets 192 168 1 10) (.ofOctets 255 255 255 0) none]⟩
    let isFree : Vacancy := fun _ => false
    let r : Request := { opcode := .register, kindByte := 0x11, port := 4000, name := [0x61] }
    let kind : PortKind := ⟨.tcp, .native⟩
    let m := (Mapper.start host 538 {}).run [⟨0, isFree, .request r ⟨.localhost, 50000⟩ .tcp⟩]
    let daemon : Endpoint := ⟨.ofOctets 192 168 1 10, 538⟩
    let network := Session.network isFree 5 ⟨.ofOctets 192 168 1 20, 50000⟩
    lookup network daemon [0x61] kind m = (.ok 4000, m) ∧
      register network daemon [0x61] 5000 kind m = (.error .closed, m) ∧
      names network daemon m = (.ok [⟨[0x61], kind⟩], m) := by
  intro host isFree r kind m daemon network
  obtain ⟨hlookup, -, hothers, -, -, hnames, -⟩ :=
    calls_agree_with_mapper (m := m) ⟨_, _, _, _, rfl⟩ isFree 5 ⟨.ofOctets 192 168 1 20, 50000⟩
      daemon
  refine ⟨?_, ?_, ?_⟩
  · exact (hlookup [0x61] kind (by decide)).trans (by decide +kernel)
  · exact (hothers [0x61] 5000 kind (by decide) (by decide +kernel)).1
  · exact (hnames (by decide +kernel)).trans (by decide +kernel)

end Client

end PortMapper
