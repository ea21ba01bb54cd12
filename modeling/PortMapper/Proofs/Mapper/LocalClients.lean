import PortMapper.Proofs.Mapper.Naming

/-!
# Local clients

Only requests from an address of this host register and withdraw names, so that clients on
`127.0.0.1` are served only if the host owns that address. A host given its interfaces by hand gets
a loopback interface if none of them is one; it is not looked at whether a loopback interface that
is given has this address. If it has another (`Host.LacksLocalhost`), then whatever happens the
clients on `127.0.0.1` are turned away, and otherwise they never are
(`Mapper.local_clients_served_iff`).
-/

namespace PortMapper

namespace Host

/-- There is a loopback interface among those given by hand, but none with the address that local
clients have. -/
def LacksLocalhost (entries : List Settings.InterfaceEntry) : Prop :=
  (∃ e ∈ entries, e.address.isLoopback = true) ∧ ∀ e ∈ entries, e.address ≠ .localhost

instance (entries : List Settings.InterfaceEntry) : Decidable (LacksLocalhost entries) :=
  inferInstanceAs (Decidable (_ ∧ _))

/-- A host given its interfaces by hand owns their addresses and, if there is no loopback interface
among them, `127.0.0.1`. -/
theorem owns_ofEntries_iff (entries : List Settings.InterfaceEntry) (a : Address) :
    (ofEntries entries).owns a = true ↔ (∃ e ∈ entries, e.address = a) ∨
      (a = .localhost ∧ ∀ e ∈ entries, e.address.isLoopback = false) := by
  let interfaces := entries.map fun e => Interface.ofAddress e.address e.netmask e.broadcast
  have howns : interfaces.any (·.address == a) = true ↔ ∃ e ∈ entries, e.address = a := by
    simp [interfaces, Interface.ofAddress]
  have hloopback : interfaces.any (·.loopback) = true ↔
      ¬∀ e ∈ entries, e.address.isLoopback = false := by
    simp [interfaces, Interface.ofAddress]
  change (if interfaces.any (·.loopback) then (⟨interfaces⟩ : Host)
    else ⟨interfaces ++ [loopbackInterface]⟩).owns a = true ↔ _
  split
  · rename_i h
    rw [owns, howns, or_iff_left (fun hnone => hloopback.mp h hnone.2)]
  · rename_i h
    have hadded : [loopbackInterface].any (·.address == a) = true ↔ a = .localhost := by
      rw [List.any_cons, List.any_nil, Bool.or_false, beq_iff_eq]
      exact eq_comm
    rw [owns, List.any_append, Bool.or_eq_true, howns, hadded,
      and_iff_left (not_not.mp (mt hloopback.mpr h))]

theorem owns_localhost_ofEntries_iff (entries : List Settings.InterfaceEntry) :
    (ofEntries entries).owns .localhost = true ↔ ¬LacksLocalhost entries := by
  rw [owns_ofEntries_iff, LacksLocalhost, and_iff_right rfl]
  grind

end Host

/-- A name is registered in a directory that has none. -/
theorem Directory.register_of_empty {name : Bytes} {port : UInt32}
    (h : acceptable name port = true) (isFree : Vacancy) (kind : PortKind) :
    ({} : Directory).register isFree name port kind = ⟨port, ⟨#[⟨name, port, kind⟩]⟩, []⟩ := by
  have hlocate : ({} : Directory).locate name = .absent 0 := by
    rw [locate, locateIn]
    rfl
  simp [register, h, hlocate, Array.insertIdxIfInBounds]

namespace Mapper

variable {m : Mapper} {r : Request} {source : Endpoint} {kind : PortKind}

/-! ## Requests to register and to withdraw -/

/-- Those that come from this host are answered if the kind is valid. -/
theorem handle_change_of_owns (hop : r.opcode = .register ∨ r.opcode = .unregister)
    (hkind : r.kind = .ok kind) (hown : m.host.owns source.address = true) (isFree : Vacancy)
    (now : Nat) (channel : Channel) :
    ∃ a, m.handle isFree now r source channel = m.answered a := by
  rcases hop with hop | hop
  · exact ⟨_, handle_of_answer (Directory.answer?_register hop hown hkind)⟩
  · exact ⟨_, handle_of_answer (Directory.answer?_unregister hop hown hkind)⟩

/-- Those that come from elsewhere are ignored. -/
theorem handle_change_of_not_owns (hop : r.opcode = .register ∨ r.opcode = .unregister)
    (hown : m.host.owns source.address = false) (isFree : Vacancy) (now : Nat)
    (channel : Channel) : m.handle isFree now r source channel = m.ignored := by
  rcases hop with hop | hop
  · rw [handle, hop]
    exact change_of_not_owns hown _
  · rw [handle, hop]
    exact change_of_not_owns hown _

/-! ## Clients on `127.0.0.1` -/

/-- Whatever interfaces a host is given by hand, clients on `127.0.0.1` are local to it unless there
is a loopback interface among them, but none with that address. If they are local, then whatever has
happened, what they ask to register or to withdraw is answered; a name that is registered first is
registered at its port, and is then the only one listed. If they are not, then it is never answered
and changes nothing. -/
theorem local_clients_served_iff (entries : List Settings.InterfaceEntry) (port : UInt16)
    (probing : Settings.Probing) :
    let m := start (.ofEntries entries) port probing
    (m.host.owns .localhost = true ↔ ¬Host.LacksLocalhost entries) ∧
    ∀ (r : Request) (source : Endpoint) (kind : PortKind), source.address = .localhost →
      r.kind = .ok kind → ∀ (isFree : Vacancy) (now : Nat) (channel : Channel),
      (r.opcode = .register ∨ r.opcode = .unregister → ∀ os,
        let handled := (m.run os).handle isFree now r source channel
        (handled.outcome = .close ↔ Host.LacksLocalhost entries) ∧
          (Host.LacksLocalhost entries → handled = (m.run os).ignored)) ∧
      (¬Host.LacksLocalhost entries → r.opcode = .register →
        1 ≤ r.name.length ∧ r.name.length ≤ 255 → 1 ≤ r.port.toNat ∧ r.port.toNat ≤ 65535 →
        let handled := m.handle isFree now r source channel
        handled.outcome = .reply (Reply.port r.port) ∧
          ∀ (names : Request) (source' : Endpoint) (isFree' : Vacancy) (now' : Nat),
            names.opcode = .names →
            (handled.mapper.handle isFree' now' names source' .tcp).outcome =
              .reply (Reply.names [⟨r.name, kind⟩])) := by
  intro m
  have hlocal : m.host.owns .localhost = true ↔ ¬Host.LacksLocalhost entries :=
    Host.owns_localhost_ofEntries_iff entries
  refine ⟨hlocal, fun r source kind hsource hkind isFree now channel => ⟨fun hop os => ?_, ?_⟩⟩
  · have howns : (m.run os).host.owns source.address = m.host.owns .localhost := by
      rw [run_host, hsource]
    by_cases hlacks : Host.LacksLocalhost entries
    · have hown : m.host.owns .localhost = false :=
        Bool.eq_false_iff.mpr (mt hlocal.mp (not_not.mpr hlacks))
      rw [handle_change_of_not_owns hop (howns.trans hown)]
      exact ⟨iff_of_true rfl hlacks, fun _ => rfl⟩
    · obtain ⟨a, ha⟩ :=
        handle_change_of_owns hop hkind (howns.trans (hlocal.mpr hlacks)) isFree now channel
      rw [ha]
      exact ⟨iff_of_false (fun h => Outcome.noConfusion h) hlacks, fun h => absurd h hlacks⟩
  · intro hlacks hop hname hport handled
    have hown : m.host.owns source.address = true := hsource ▸ hlocal.mpr hlacks
    have hacc : Directory.acceptable r.name r.port = true :=
      Directory.acceptable_iff.mpr ⟨hname, hport⟩
    have hhandled : handled = m.answered ⟨r.port, ⟨#[⟨r.name, r.port, kind⟩]⟩, []⟩ := by
      refine (handle_of_answer (Directory.answer?_register hop hown hkind)).trans ?_
      exact congrArg m.answered (Directory.register_of_empty hacc isFree kind)
    rw [hhandled]
    refine ⟨rfl, fun names source' isFree' now' hnames => ?_⟩
    rw [handle, hnames]
    rfl

/-- On a host with an external interface given, a client on `127.0.0.1` registers a name, which is
then listed. With a loopback interface at `127.0.0.2` given too, it is turned away. -/
theorem local_client_served :
    let external : Settings.InterfaceEntry :=
      ⟨.ofOctets 192 168 1 10, .ofOctets 255 255 255 0, none⟩
    let loopback : Settings.InterfaceEntry := ⟨.ofOctets 127 0 0 2, .ofOctets 255 0 0 0, none⟩
    let m := start (.ofEntries [external]) 538 {}
    let m' := start (.ofEntries [external, loopback]) 538 {}
    let r : Request := { opcode := .register, kindByte := 0x11, port := 4000, name := [0x61] }
    let names : Request := { opcode := .names }
    let handled := m.handle (fun _ => false) 0 r ⟨.localhost, 50000⟩ .tcp
    r.kind = .ok ⟨.tcp, .native⟩ ∧ handled.outcome = .reply (Reply.port 4000) ∧
      (handled.mapper.handle (fun _ => false) 0 names ⟨.localhost, 50001⟩ .tcp).outcome =
        .reply (Reply.names [⟨[0x61], ⟨.tcp, .native⟩⟩]) ∧
      m'.handle (fun _ => false) 0 r ⟨.localhost, 50000⟩ .tcp = m'.ignored := by
  intro external loopback m m' r names handled
  have hkind : r.kind = .ok ⟨.tcp, .native⟩ := by decide +kernel
  obtain ⟨-, hserved⟩ := local_clients_served_iff [external] 538 {}
  obtain ⟨-, hignored⟩ := local_clients_served_iff [external, loopback] 538 {}
  obtain ⟨-, hfirst⟩ :=
    hserved r ⟨.localhost, 50000⟩ ⟨.tcp, .native⟩ rfl hkind (fun _ => false) 0 .tcp
  obtain ⟨hchange, -⟩ :=
    hignored r ⟨.localhost, 50000⟩ ⟨.tcp, .native⟩ rfl hkind (fun _ => false) 0 .tcp
  obtain ⟨hreply, hnames⟩ := hfirst (by decide) rfl (by decide) (by decide)
  exact ⟨hkind, hreply, hnames _ _ _ _ rfl, (hchange (.inl rfl) []).2 (by decide)⟩

/-- With a loopback interface at `127.0.0.2` given, and no other, a client on `127.0.0.1` cannot
register what a client on `127.0.0.2` can. -/
theorem local_client_turned_away :
    let loopback : Address := .ofOctets 127 0 0 2
    let h : Host := .ofEntries [⟨loopback, .ofOctets 255 0 0 0, none⟩]
    let m := start h 538 {}
    let r : Request := { opcode := .register, kindByte := 0x11, port := 4000, name := [0x61] }
    r.kind = .ok ⟨.tcp, .native⟩ ∧ h.owns .localhost = false ∧
      (m.handle (fun _ => false) 0 r ⟨loopback, 50000⟩ .tcp).outcome = .reply (Reply.port 4000) ∧
      (m.handle (fun _ => false) 0 r ⟨.localhost, 50000⟩ .tcp).outcome = .close := by
  decide +kernel

end Mapper

end PortMapper
