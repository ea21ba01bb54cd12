import PortMapper.Proofs.Mapper.Naming

/-!
# Names whose port is held

A name that is registered at a port stays registered there for as long as the
port is held, unless this host withdraws it (`live_holder_keeps_name`).
Meanwhile nobody else can register it, and everybody finds it.

One event keeps the entry (`Represents.mem_after`) because each operation on
the names keeps the binding of a name whose port is held, and a withdrawal
any binding but the one withdrawn; a run keeps it by induction over its events
(`Mapper.mem_run`).
-/

namespace PortMapper

/-- Whether an event is a request by this host to withdraw an entry: for its
port and kind, and for its name or for no name. -/
def Event.Withdraws (h : Host) (e : Registration) (event : Event) : Prop :=
  ∃ r source, event.request? = some (r, source) ∧ r.opcode = .unregister ∧
    h.owns source.address = true ∧ r.port = e.port ∧ r.kind = .ok e.kind ∧
    (r.name = e.name ∨ r.name = [])

/-- An event keeps an entry whose port is held, unless it withdraws it. -/
theorem Directory.Represents.mem_after {d : Directory} {names : NameMap} (hd : d.Represents names)
    {h : Host} {e : Registration} (he : e ∈ d.entries.toList) {o : Occurrence}
    (held : o.isFree e.use = false) (kept : ¬o.event.Withdraws h e) :
    e ∈ (d.after h o).entries.toList := by
  have hb := (hd.mem_iff e).mp he
  unfold Directory.after
  split
  swap
  · exact he
  rename_i r source hr
  cases ha : d.answer? h o.isFree r source with
  | none => exact he
  | some a =>
    rw [Option.map_some, Option.getD_some]
    obtain ⟨kind, hkind, ⟨-, -, rfl⟩ | ⟨hop, hown, rfl⟩ | ⟨-, rfl⟩⟩ := Directory.answer?_cases ha
    · exact ((hd.register ..).represents.mem_iff e).mpr (NameMap.register_keeps hb held)
    · refine ((hd.withdraw ..).represents.mem_iff e).mpr (NameMap.withdraw_keeps hb fun heq => ?_)
      obtain ⟨hport, rfl⟩ := Registration.binding_eq_iff.mp heq
      exact ⟨fun hname => kept ⟨r, source, hr, hop, hown, hport.symm, hkind, .inl hname⟩,
        fun hname => kept ⟨r, source, hr, hop, hown, hport.symm, hkind, .inr hname⟩⟩
    · exact ((hd.lookupLive ..).represents.mem_iff e).mpr (NameMap.lookupLive_keeps hb held)

namespace Mapper

/-- A run keeps an entry whose port is held, unless it withdraws it. -/
theorem mem_run {m : Mapper} {names : NameMap} (hm : m.directory.Represents names)
    {e : Registration} (he : e ∈ m.directory.entries.toList) {os : List Occurrence}
    (held : ∀ o ∈ os, o.isFree e.use = false) (kept : ∀ o ∈ os, ¬o.event.Withdraws m.host e) :
    e ∈ (m.run os).directory.entries.toList := by
  induction os generalizing m names with
  | nil => exact he
  | cons o os ih =>
    obtain ⟨names', hm'⟩ := hm.after m.host o
    have he' := hm.mem_after he (held o List.mem_cons_self) (kept o List.mem_cons_self)
    rw [← step_directory] at hm' he'
    refine ih hm' he' (fun o ho => held o (List.mem_cons_of_mem _ ho)) fun o ho => ?_
    rw [step_host]
    exact kept o (List.mem_cons_of_mem _ ho)

/-- In every state that a daemon can get into, and whatever happens to it from
there, an entry whose port is held throughout stays in the directory unless
this host withdraws it. On the way every request of this host to register its
name otherwise is refused, and every request for its name and kind is answered
with its port. -/
theorem live_holder_keeps_name {m : Mapper} (hm : m.Reachable) {e : Registration}
    (he : e ∈ m.directory.entries) (os : List Occurrence)
    (held : ∀ o ∈ os, o.isFree e.use = false) (kept : ∀ o ∈ os, ¬o.event.Withdraws m.host e) :
    e ∈ (m.run os).directory.entries ∧
      ∀ (before : List Occurrence) (o : Occurrence) (after : List Occurrence),
        os = before ++ o :: after →
        ∀ r source, o.event.request? = some (r, source) → r.name = e.name →
          (∀ kind, r.opcode = .register → m.host.owns source.address = true → r.kind = .ok kind →
              ¬(r.port = e.port ∧ kind = e.kind) → (m.run before).Answers o (Reply.port 0)) ∧
          (r.opcode = .lookup → r.kind = .ok e.kind →
              (m.run before).Answers o (Reply.port e.port)) := by
  obtain ⟨names, hnames⟩ := hm.represents
  rw [← Array.mem_toList_iff] at he ⊢
  refine ⟨mem_run hnames he held kept, ?_⟩
  rintro before o after rfl r source hr hname
  -- The entry is still there when the request comes.
  have hsub {o'} (ho' : o' ∈ before) : o' ∈ before ++ o :: after := List.mem_append_left _ ho'
  have he' := mem_run hnames he (fun o' ho' => held o' (hsub ho')) fun o' ho' => kept o' (hsub ho')
  have held' := held o (List.mem_append_right _ List.mem_cons_self)
  obtain ⟨names', hnames'⟩ := run_represents hnames before
  have hb := (hnames'.mem_iff e).mp he'
  constructor
  · intro kind hop hown hkind hne
    rw [← run_host m before] at hown
    have hport : ((m.run before).directory.register o.isFree r.name r.port kind).port = 0 := by
      rw [(hnames'.register ..).port, hname]
      refine NameMap.register_eq_zero hb held' fun heq => hne ?_
      obtain ⟨hport, hkind⟩ := Registration.binding_eq_iff.mp heq
      exact ⟨hport.symm, hkind.symm⟩
    rw [← hport]
    exact (step_of_answer hr (Directory.answer?_register hop hown hkind)).1
  · intro hop hkind
    have hport : ((m.run before).directory.lookupLive o.isFree r.name e.kind).port = e.port := by
      rw [(hnames'.lookupLive ..).port, hname]
      exact NameMap.lookupLive_eq_port hb held'
    rw [← hport]
    exact (step_of_answer hr (Directory.answer?_lookup hop hkind)).1

/-- A host on which `svc` is registered at port 4000, which is held: another
registration is refused, and a neighbour finds the port. -/
theorem live_holder_keeps_svc :
    let host : Host := ⟨[Host.loopbackInterface]⟩
    let register (port : UInt32) : Event :=
      .request ⟨.register, 0x11, port, [115, 118, 99]⟩ ⟨.localhost, 40000⟩ .tcp
    let m := (start host 538 {}).run [⟨0, fun _ => true, register 4000⟩]
    let e : Registration := ⟨[115, 118, 99], 4000, ⟨.tcp, .native⟩⟩
    let takeover : Occurrence := ⟨1, fun _ => false, register 4001⟩
    let query : Occurrence := ⟨2, fun _ => false,
      .request ⟨.lookup, 0x11, 0, [115, 118, 99]⟩ ⟨.ofOctets 10 0 0 9, 50000⟩ .udp⟩
    e ∈ m.directory.entries ∧ e ∈ (m.run [takeover, query]).directory.entries ∧
      m.Answers takeover (Reply.port 0) ∧ (m.run [takeover]).Answers query (Reply.port 4000) := by
  intro host register m e takeover query
  have he : e ∈ m.directory.entries := by decide +kernel
  have held : ∀ o ∈ [takeover, query], o.isFree e.use = false := by
    simp [takeover, query]
  have kept : ∀ o ∈ [takeover, query], ¬o.event.Withdraws m.host e := by
    simp [takeover, query, register, Event.Withdraws, Event.request?]
  obtain ⟨hstays, hanswers⟩ :=
    live_holder_keeps_name ⟨host, 538, {}, _, rfl⟩ he [takeover, query] held kept
  refine ⟨he, hstays, ?_, ?_⟩
  · exact (hanswers [] takeover [query] rfl _ _ rfl rfl).1 ⟨.tcp, .native⟩ rfl (by decide) rfl
      (by decide)
  · exact (hanswers [takeover] query [] rfl _ _ rfl rfl).2 rfl rfl

end Mapper

end PortMapper
