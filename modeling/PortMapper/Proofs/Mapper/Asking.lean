import PortMapper.Proofs.Mapper.Naming

/-!
# What a daemon asks about ports

To ask whether a port is free is to try to bind it, and until that is done a daemon does nothing
else. So it matters that a daemon asks no more than it has to. The names ask when they answer a
registration or a lookup, about the entry of the name: a registration asks unless it can be seen to
be refused or is the entry itself (`Directory.mem_asked_register`), and a lookup if the entry is a
TCP port under the kind looked up (`Directory.mem_asked_lookupLive`). Nothing else that happens to a
daemon asks anything (`Mapper.asks_only_recorded_use`).

That a port was not asked about also means that it makes no difference whether it is free: an event
comes out the same on any host on which what it asks about is as free (`Mapper.step_congr`).
-/

namespace PortMapper

namespace Directory

variable {d : Directory} {h : Host} {isFree isFree' : Vacancy} {name : Bytes} {port : UInt32}
  {kind : PortKind} {r : Request} {source : Endpoint} {e : Registration} {use : PortUse}

/-! ## The operations -/

/-- A registration that is acceptable asks about the entry of the name if that is another one. -/
theorem mem_asked_register : use ∈ (d.register isFree name port kind).asked ↔
    acceptable name port = true ∧
      ∃ e, d.get? name = some e ∧ ¬(e.port = port ∧ e.kind = kind) ∧ use = e.use := by
  rw [register, get?]
  by_cases hacc : acceptable name port = true
  swap
  · simp [hacc]
  cases d.locate name with
  | absent i => simp [hacc]
  | present i e =>
    by_cases hsame : e.port = port ∧ e.kind = kind
    · simp [hacc, hsame]
    · cases hfree : isFree e.use <;>
        simpa [hacc, hsame, hfree] using fun _ => not_and.mp hsame

/-- A lookup asks about the entry of the name if it has this kind and a TCP port. -/
theorem mem_asked_lookupLive : use ∈ (d.lookupLive isFree name kind).asked ↔
    ∃ e, d.get? name = some e ∧ e.kind = kind ∧ e.kind.transport = .tcp ∧ use = e.use := by
  rw [lookupLive, get?]
  cases d.locate name with
  | absent i => simp
  | present i e =>
    by_cases hkind : e.kind = kind
    swap
    · simp [hkind]
    subst hkind
    cases ht : e.kind.transport <;> cases hfree : isFree e.use <;> simp [ht, hfree]

theorem asked_withdraw (d : Directory) (name : Bytes) (port : UInt32) (kind : PortKind) :
    (d.withdraw name port kind).asked = [] := by
  rw [withdraw]
  repeat' split
  all_goals rfl

theorem register_congr
    (hasked : ∀ use ∈ (d.register isFree name port kind).asked, isFree' use = isFree use) :
    d.register isFree' name port kind = d.register isFree name port kind := by
  by_cases hacc : acceptable name port = true
  swap
  · simp only [register, hacc]
    rfl
  cases hl : d.locate name with
  | absent i => simp only [register, hl]
  | present i e =>
    by_cases hsame : e.port = port ∧ e.kind = kind
    · simp only [register, hl, if_pos hsame]
    · have hget : d.get? name = some e := by rw [get?, hl]
      simp only [register, hl, hasked e.use (mem_asked_register.mpr ⟨hacc, e, hget, hsame, rfl⟩)]

theorem lookupLive_congr
    (hasked : ∀ use ∈ (d.lookupLive isFree name kind).asked, isFree' use = isFree use) :
    d.lookupLive isFree' name kind = d.lookupLive isFree name kind := by
  cases hl : d.locate name with
  | absent i => simp only [lookupLive, hl]
  | present i e =>
    by_cases hkind : e.kind = kind
    swap
    · simp only [lookupLive, hl, if_pos hkind]
    cases ht : e.kind.transport with
    | udp => simp only [lookupLive, hl, ht, if_true]
    | tcp =>
      have hget : d.get? name = some e := by rw [get?, hl]
      simp only [lookupLive, hl, hasked e.use (mem_asked_lookupLive.mpr ⟨e, hget, hkind, ht, rfl⟩)]

/-! ## Answers to requests -/

/-- An answer is the same on any host on which what it asks about is as free. -/
theorem answer?_congr {a : Answer} (ha : d.answer? h isFree r source = some a)
    (hasked : ∀ use ∈ a.asked, isFree' use = isFree use) :
    d.answer? h isFree' r source = some a := by
  obtain ⟨kind, hkind, ⟨hop, hown, rfl⟩ | ⟨hop, hown, rfl⟩ | ⟨hop, rfl⟩⟩ := answer?_cases ha
  · rw [answer?_register hop hown hkind, register_congr hasked]
  · exact answer?_unregister hop hown hkind
  · rw [answer?_lookup hop hkind, lookupLive_congr hasked]

theorem length_asked_le_of_answer {a : Answer} (ha : d.answer? h isFree r source = some a) :
    a.asked.length ≤ 1 := by
  obtain ⟨kind, -, ⟨-, -, rfl⟩ | ⟨-, -, rfl⟩ | ⟨-, rfl⟩⟩ := answer?_cases ha
  · rw [register]
    repeat' split
    all_goals simp
  · simp [asked_withdraw]
  · rw [lookupLive]
    repeat' split
    all_goals simp

/-- Which entry is asked about when a request is answered. There is no need to say that the name is
not too long, as it is that of an entry. -/
theorem Represents.mem_asked_iff {names : NameMap} (hd : d.Represents names) :
    (∃ a, d.answer? h isFree r source = some a ∧ use ∈ a.asked) ↔
      ∃ e ∈ d.entries, e.name = r.name ∧ use = e.use ∧
        (r.opcode = .register ∧ h.owns source.address = true ∧
            (1 ≤ r.name.length ∧ 1 ≤ r.port.toNat ∧ r.port.toNat ≤ 65535) ∧
            (∃ kind, r.kind = .ok kind ∧ ¬(e.port = r.port ∧ e.kind = kind)) ∨
          r.opcode = .lookup ∧ r.kind = .ok e.kind ∧ e.kind.transport = .tcp) := by
  constructor
  · rintro ⟨a, ha, huse⟩
    obtain ⟨kind, hkind, ⟨hop, hown, rfl⟩ | ⟨hop, hown, rfl⟩ | ⟨hop, rfl⟩⟩ := answer?_cases ha
    · obtain ⟨hacc, e, he, hother, rfl⟩ := mem_asked_register.mp huse
      obtain ⟨he, hname⟩ := hd.get?_eq_some_iff.mp he
      obtain ⟨⟨hlength, -⟩, hport⟩ := acceptable_iff.mp hacc
      exact ⟨e, he, hname, rfl, .inl ⟨hop, hown, ⟨hlength, hport⟩, kind, hkind, hother⟩⟩
    · rw [asked_withdraw] at huse
      cases huse
    · obtain ⟨e, he, rfl, ht, rfl⟩ := mem_asked_lookupLive.mp huse
      obtain ⟨he, hname⟩ := hd.get?_eq_some_iff.mp he
      exact ⟨e, he, hname, rfl, .inr ⟨hop, hkind, ht⟩⟩
  · rintro ⟨e, he, hname, rfl, hcase⟩
    rcases hcase with ⟨hop, hown, ⟨hlength, hport⟩, kind, hkind, hother⟩ | ⟨hop, hkind, ht⟩
    · have hacc : acceptable r.name r.port = true := by
        obtain ⟨⟨-, hmax⟩, -⟩ := hd.bounds he
        exact acceptable_iff.mpr ⟨⟨hlength, hname ▸ hmax⟩, hport⟩
      exact ⟨_, answer?_register hop hown hkind, mem_asked_register.mpr
        ⟨hacc, e, hd.get?_eq_some_iff.mpr ⟨he, hname⟩, hother, rfl⟩⟩
    · exact ⟨_, answer?_lookup hop hkind, mem_asked_lookupLive.mpr
        ⟨e, hd.get?_eq_some_iff.mpr ⟨he, hname⟩, rfl, ht, rfl⟩⟩

end Directory

namespace Mapper

variable {m : Mapper} {isFree isFree' : Vacancy} {now : Nat} {r : Request} {source : Endpoint}
  {channel : Channel} {o : Occurrence}

/-! ## One request -/

/-- To a request that the names do not answer, it makes no difference what is free. -/
theorem handle_congr_of_no_answer (ha : m.directory.answer? m.host isFree r source = none)
    (isFree' : Vacancy) :
    m.handle isFree' now r source channel = m.handle isFree now r source channel := by
  cases hop : r.opcode with
  | register => simp only [handle, hop, change_of_no_answer (.inl hop) ha]
  | lookup => simp only [handle, hop, lookup_of_no_answer hop ha]
  | _ => simp only [handle, hop]

theorem handle_congr
    (hasked : ∀ use ∈ (m.handle isFree now r source channel).asked, isFree' use = isFree use) :
    m.handle isFree' now r source channel = m.handle isFree now r source channel := by
  cases ha : m.directory.answer? m.host isFree r source with
  | none => exact handle_congr_of_no_answer ha isFree'
  | some a =>
    have hhandle : m.handle isFree now r source channel = m.answered a := handle_of_answer ha
    rw [hhandle] at hasked ⊢
    exact handle_of_answer (Directory.answer?_congr ha hasked)

/-! ## One event -/

/-- A datagram that holds a request asks what the request asks. -/
theorem receive_asked {bytes : Bytes} (hr : Request.ofFrame bytes = .ok r) :
    (m.receive isFree now bytes source).asked = (m.handle isFree now r source .udp).asked := by
  cases hout : (m.handle isFree now r source .udp).outcome with
  | close => rw [receive_of_close hr hout]
  | reply reply => rw [receive_of_reply hr hout]

theorem receive_congr {bytes : Bytes}
    (hasked : ∀ use ∈ (m.receive isFree now bytes source).asked, isFree' use = isFree use) :
    m.receive isFree' now bytes source = m.receive isFree now bytes source := by
  cases hr : Request.ofFrame bytes with
  | error fault => rw [receive_of_fault hr, receive_of_fault hr]
  | ok r =>
    rw [receive_asked hr] at hasked
    simp only [receive, hr, handle_congr hasked]

/-- An event comes out the same on any host on which what it asks about is as free. -/
theorem step_congr (hasked : ∀ use ∈ (m.step o).asked, isFree' use = o.isFree use) :
    m.step { o with isFree := isFree' } = m.step o := by
  obtain ⟨time, isFree, event⟩ := o
  cases event with
  | request r source channel =>
    have hhandle : m.handle isFree' time r source channel = m.handle isFree time r source channel :=
      handle_congr hasked
    simp only [step, hhandle]
  | datagram bytes source =>
    have hreceive : m.receive isFree' time bytes source = m.receive isFree time bytes source :=
      receive_congr hasked
    simp only [step, hreceive]
  | _ => rfl

/-- An event asks nothing unless it brings a request that the names answer. -/
theorem step_of_no_answer (ha : ∀ r source, o.event.request? = some (r, source) →
    m.directory.answer? m.host o.isFree r source = none) : (m.step o).asked = [] := by
  obtain ⟨time, isFree, event⟩ := o
  cases event with
  | request r source channel => exact (handle_of_no_answer (ha r source rfl)).2
  | datagram bytes source =>
    cases hr : Request.ofFrame bytes with
    | error fault => simp only [step, receive_of_fault hr]
    | ok r =>
      have hrequest : (Event.datagram bytes source).request? = some (r, source) := by
        rw [Event.request?, hr]
        rfl
      simp only [step, receive_asked hr]
      exact (handle_of_no_answer (ha r source hrequest)).2
  | _ => rfl

/-- What an event asks is what the names ask when they answer the request that it brings. -/
theorem step_asked_cases (m : Mapper) (o : Occurrence) : (m.step o).asked = [] ∨
    ∃ r source a, o.event.request? = some (r, source) ∧
      m.directory.answer? m.host o.isFree r source = some a ∧ (m.step o).asked = a.asked := by
  by_cases hanswer : ∃ r source a, o.event.request? = some (r, source) ∧
      m.directory.answer? m.host o.isFree r source = some a
  · obtain ⟨r, source, a, hr, ha⟩ := hanswer
    exact .inr ⟨r, source, a, hr, ha, (step_of_answer hr ha).2⟩
  · refine .inl (step_of_no_answer fun r source hr => ?_)
    exact Option.eq_none_iff_forall_ne_some.mpr fun a ha => hanswer ⟨r, source, a, hr, ha⟩

theorem mem_step_asked (m : Mapper) (o : Occurrence) (use : PortUse) : use ∈ (m.step o).asked ↔
    ∃ r source, o.event.request? = some (r, source) ∧
      ∃ a, m.directory.answer? m.host o.isFree r source = some a ∧ use ∈ a.asked := by
  constructor
  · intro huse
    rcases m.step_asked_cases o with hnone | ⟨r, source, a, hr, ha, hasked⟩
    · rw [hnone] at huse
      cases huse
    · exact ⟨r, source, hr, a, ha, hasked ▸ huse⟩
  · rintro ⟨r, source, hr, a, ha, huse⟩
    rw [(step_of_answer hr ha).2]
    exact huse

/-- A registration that does not come from this host, or that has no valid kind, is not acceptable
or is recorded already, asks nothing. -/
theorem asked_of_register {names : NameMap} (hm : m.directory.Represents names)
    (hr : o.event.request? = some (r, source)) (hop : r.opcode = .register)
    (hneedless : m.host.owns source.address = false ∨ r.kind.toOption = none ∨
      Directory.acceptable r.name r.port = false ∨
        ∃ e ∈ m.directory.entries, e.name = r.name ∧ e.port = r.port ∧ r.kind = .ok e.kind) :
    (m.step o).asked = [] := by
  rcases m.step_asked_cases o with hnone | ⟨r', source', a, hr', ha, hasked⟩
  · exact hnone
  obtain ⟨rfl, rfl⟩ := Prod.mk.inj (Option.some.inj (hr.symm.trans hr'))
  rw [hasked]
  obtain ⟨kind, hkind, ⟨-, hown, rfl⟩ | ⟨hop', -⟩ | ⟨hop', -⟩⟩ := Directory.answer?_cases ha
  · refine List.eq_nil_iff_forall_not_mem.mpr fun use huse => ?_
    obtain ⟨hacc, e, he, hother, -⟩ := Directory.mem_asked_register.mp huse
    rcases hneedless with hown' | hkind' | hacc' | ⟨e', he', hname, hport, hkind'⟩
    · rw [hown] at hown'
      cases hown'
    · rw [hkind] at hkind'
      cases hkind'
    · rw [hacc] at hacc'
      cases hacc'
    · have hsame : some e = some e' := he.symm.trans (hm.get?_eq_some_iff.mpr ⟨he', hname⟩)
      obtain rfl := Option.some.inj hsame
      exact hother ⟨hport, Except.ok.inj (hkind'.symm.trans hkind)⟩
  · rw [hop] at hop'
    cases hop'
  · rw [hop] at hop'
    cases hop'

/-! ## All events -/

/-- Whatever has happened to a daemon, an event asks about one port at most. It does so exactly if
it brings a registration or a lookup of a name that has an entry, and what it asks about is the port
of this entry with its transport: a registration must come from this host, with a valid kind, a name
and a port, and not be the entry itself; a lookup must be for the kind of the entry, whose port is a
TCP one. A registration that is refused for what it is, or recorded already, asks nothing. A number
that is asked about is that of a port, which can be bound if it is not held. Whether anything else
is free makes no difference. -/
theorem asks_only_recorded_use {m : Mapper} (hm : m.Reachable) (o : Occurrence) :
    (m.step o).asked.length ≤ 1 ∧
    (∀ use, use ∈ (m.step o).asked ↔ ∃ r source, o.event.request? = some (r, source) ∧
      ∃ e ∈ m.directory.entries, e.name = r.name ∧ use = e.use ∧
        (r.opcode = .register ∧ m.host.owns source.address = true ∧
            (1 ≤ r.name.length ∧ 1 ≤ r.port.toNat ∧ r.port.toNat ≤ 65535) ∧
            (∃ kind, r.kind = .ok kind ∧ ¬(e.port = r.port ∧ e.kind = kind)) ∨
          r.opcode = .lookup ∧ r.kind = .ok e.kind ∧ e.kind.transport = .tcp)) ∧
    (∀ r source, o.event.request? = some (r, source) → r.opcode = .register →
      (m.host.owns source.address = false ∨ r.kind.toOption = none ∨
        Directory.acceptable r.name r.port = false ∨
          ∃ e ∈ m.directory.entries, e.name = r.name ∧ e.port = r.port ∧ r.kind = .ok e.kind) →
      (m.step o).asked = []) ∧
    (∀ use ∈ (m.step o).asked, (1 ≤ use.port.toNat ∧ use.port.toNat ≤ 65535) ∧
      ∀ held, bindable held use = !held.contains use) ∧
    ∀ isFree', (∀ use ∈ (m.step o).asked, isFree' use = o.isFree use) →
      m.step { o with isFree := isFree' } = m.step o := by
  obtain ⟨names, hnames⟩ := hm.represents
  have hmem := m.mem_step_asked o
  simp only [hnames.mem_asked_iff] at hmem
  refine ⟨?_, hmem, fun r source hr hop => asked_of_register hnames hr hop, fun use huse => ?_,
    fun isFree' => step_congr⟩
  · rcases m.step_asked_cases o with hnone | ⟨r, source, a, -, ha, hasked⟩
    · rw [hnone]
      exact Nat.zero_le 1
    · rw [hasked]
      exact Directory.length_asked_le_of_answer ha
  · obtain ⟨r, source, -, e, he, -, rfl, -⟩ := (hmem use).mp huse
    obtain ⟨-, hport⟩ := hnames.bounds he
    have hmax : e.use.port ≤ maxPort := UInt32.le_iff_toNat_le.mpr hport.2
    exact ⟨hport, fun held => by rw [bindable, decide_eq_true hmax, Bool.true_and]⟩

/-- A name is registered at TCP port 4000. That port is asked about when the name is looked up from
another host, and when it is registered elsewhere by this one, but not when the other host tries to
do so, nor when it is registered again. -/
theorem registered_port_asked :
    let other : Address := .ofOctets 192 168 1 20
    let host : Host :=
      ⟨[Host.loopbackInterface,
        .ofAddress (.ofOctets 192 168 1 10) (.ofOctets 255 255 255 0) none]⟩
    let r (opcode : Opcode) (port : UInt32) : Request :=
      { opcode, kindByte := 0x11, port, name := [0x61] }
    let o (r : Request) (a : Address) : Occurrence :=
      ⟨0, fun _ => false, .request r ⟨a, 50000⟩ .tcp⟩
    let m := (start host 538 {}).run [o (r .register 4000) .localhost]
    m.Reachable ∧ (⟨4000, .tcp⟩ : PortUse) ∈ (m.step (o (r .register 5000) .localhost)).asked ∧
      (⟨4000, .tcp⟩ : PortUse) ∈ (m.step (o (r .lookup 0) other)).asked ∧
      (m.step (o (r .register 5000) other)).asked = [] ∧
      (m.step (o (r .register 4000) .localhost)).asked = [] := by
  intro other host r o m
  have hm : m.Reachable := ⟨_, _, _, _, rfl⟩
  let e : Registration := ⟨[0x61], 4000, ⟨.tcp, .native⟩⟩
  have he : e ∈ m.directory.entries := by decide +kernel
  have hkind : PortKind.ofByte 0x11 = .ok e.kind := by decide +kernel
  have hown : m.host.owns .localhost = true := by decide +kernel
  obtain ⟨-, hregister, -⟩ := asks_only_recorded_use hm (o (r .register 5000) .localhost)
  obtain ⟨-, hlookup, -⟩ := asks_only_recorded_use hm (o (r .lookup 0) other)
  obtain ⟨-, -, hremote, -⟩ := asks_only_recorded_use hm (o (r .register 5000) other)
  obtain ⟨-, -, hagain, -⟩ := asks_only_recorded_use hm (o (r .register 4000) .localhost)
  refine ⟨hm, ?_, ?_, ?_, ?_⟩
  · exact (hregister _).mpr ⟨_, _, rfl, e, he, rfl, rfl,
      .inl ⟨rfl, hown, by decide, e.kind, hkind, by decide⟩⟩
  · exact (hlookup _).mpr ⟨_, _, rfl, e, he, rfl, rfl, .inr ⟨rfl, hkind, rfl⟩⟩
  · exact hremote _ _ rfl rfl (.inl (by decide +kernel))
  · exact hagain _ _ rfl rfl (.inr (.inr (.inr ⟨e, he, rfl, rfl, hkind⟩)))

end Mapper

end PortMapper
