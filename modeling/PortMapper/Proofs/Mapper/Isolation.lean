import PortMapper.Proofs.Mapper.Naming

/-!
# What other hosts can do to the names

Requests and datagrams that come from no address of this host
(`Occurrence.isOwn`) have hardly any influence on its names. All that one of them
can do is to look up a name whose TCP port has become free, which drops its
entry (`Mapper.step_of_not_isOwn`). Where no such lookup is told that a port
is free (`Mapper.NoneToldFree`), a run has the same names as without them,
and answers the requests of this host about names alike
(`Mapper.run_filter_isOwn`, `Mapper.outsiders_change_no_names`).
-/

namespace PortMapper

/-- Where a request or a datagram comes from. -/
def Event.source? : Event → Option Endpoint
  | .request _ source _ => some source
  | .datagram _ source => some source
  | _ => none

/-- Whether an event is one of this host: only requests and datagrams may come
from elsewhere. -/
def Occurrence.isOwn (h : Host) (o : Occurrence) : Bool :=
  o.event.source?.all fun source => h.owns source.address

theorem Event.source?_of_request? {event : Event} {r : Request} {source : Endpoint}
    (hr : event.request? = some (r, source)) : event.source? = some source := by
  cases event with
  | request r' source' channel =>
    cases hr
    rfl
  | datagram bytes source' =>
    obtain ⟨r', -, heq⟩ := Option.map_eq_some_iff.mp hr
    cases heq
    rfl
  | _ => cases hr

theorem Occurrence.isOwn_of_request? {o : Occurrence} {r : Request} {source : Endpoint}
    (hr : o.event.request? = some (r, source)) (h : Host) : o.isOwn h = h.owns source.address := by
  rw [isOwn, Event.source?_of_request? hr, Option.all_some]

/-- Looking a name up changes nothing, or drops its entry, which is one of a
TCP port that is free. -/
theorem Directory.Ordered.lookupLive_cases {d : Directory} (hd : d.Ordered) (isFree : Vacancy)
    (name : Bytes) (kind : PortKind) :
    (d.lookupLive isFree name kind).directory = d ∨
      ∃ (l : List Registration) (e : Registration) (r : List Registration),
        d.entries.toList = l ++ e :: r ∧ e.name = name ∧ e.kind = kind ∧
        e.kind.transport = .tcp ∧ isFree e.use = true ∧
        (d.lookupLive isFree name kind).directory.entries.toList = l ++ r ∧
        (d.lookupLive isFree name kind).asked = [e.use] := by
  rw [lookupLive]
  rcases hd.locate name with ⟨l, e, r, hl, split, hname⟩ | ⟨l, r, hl, -⟩ <;> simp only [hl]
  · by_cases hkind : e.kind = kind
    swap
    · rw [if_pos hkind]
      exact .inl rfl
    rw [if_neg (not_not.mpr hkind)]
    cases ht : e.kind.transport with
    | udp => exact .inl rfl
    | tcp =>
      rw [if_neg (by simp)]
      by_cases hfree : isFree e.use = true
      · rw [if_pos hfree]
        exact .inr ⟨l, e, r, split, hname, hkind, ht, hfree, toList_remove split, rfl⟩
      · rw [if_neg hfree]
        exact .inl rfl
  · exact .inl trivial

namespace Mapper

/-- Whether something that an event asks about is found to be free. -/
def ToldFree (m : Mapper) (o : Occurrence) : Prop := ∃ use ∈ (m.step o).asked, o.isFree use = true

/-- No lookup from elsewhere is told that a port is free. -/
def NoneToldFree (m : Mapper) (os : List Occurrence) : Prop :=
  ∀ (before : List Occurrence) (o : Occurrence) (after : List Occurrence),
    os = before ++ o :: after → ∀ r source, o.event.request? = some (r, source) →
      r.opcode = .lookup → m.host.owns source.address = false → ¬(m.run before).ToldFree o

theorem NoneToldFree.head {m : Mapper} {o : Occurrence} {os : List Occurrence}
    (h : m.NoneToldFree (o :: os)) {r : Request} {source : Endpoint}
    (hr : o.event.request? = some (r, source)) (hop : r.opcode = .lookup)
    (hown : m.host.owns source.address = false) : ¬m.ToldFree o :=
  h [] o os rfl r source hr hop hown

theorem NoneToldFree.tail {m : Mapper} {o : Occurrence} {os : List Occurrence}
    (h : m.NoneToldFree (o :: os)) : (m.step o).mapper.NoneToldFree os := by
  intro before o' after heq r source hr hop hown
  rw [step_host] at hown
  exact h (o :: before) o' after (congrArg _ heq) r source hr hop hown

theorem NoneToldFree.of_append {m : Mapper} {os os' : List Occurrence}
    (h : m.NoneToldFree (os ++ os')) : m.NoneToldFree os := by
  intro before o after heq r source hr hop hown
  exact h before o (after ++ os') (by rw [heq, List.append_assoc, List.cons_append]) r source hr hop
    hown

/-! ## One event -/

/-- An event of another host leaves the names as they are, or drops one of a
TCP port that it is told is free, by looking up that name and kind. -/
theorem step_of_not_isOwn {m : Mapper} (hm : m.directory.Ordered) {o : Occurrence}
    (hown : o.isOwn m.host = false) :
    (m.step o).mapper.directory = m.directory ∨
      ∃ (r : Request) (source : Endpoint) (l : List Registration) (e : Registration)
        (l' : List Registration), o.event.request? = some (r, source) ∧ r.opcode = .lookup ∧
        r.name = e.name ∧ r.kind = .ok e.kind ∧ e.kind.transport = .tcp ∧ o.isFree e.use = true ∧
        m.directory.entries.toList = l ++ e :: l' ∧
        (m.step o).mapper.directory.entries.toList = l ++ l' ∧ (m.step o).asked = [e.use] := by
  rw [step_directory, Directory.after]
  split
  swap
  · exact .inl rfl
  rename_i r source hr
  rw [Occurrence.isOwn_of_request? hr] at hown
  cases ha : m.directory.answer? m.host o.isFree r source with
  | none => exact .inl rfl
  | some a =>
    rw [(step_of_answer hr ha).2]
    obtain ⟨kind, hkind, ⟨-, hown', -⟩ | ⟨-, hown', -⟩ | ⟨hop, rfl⟩⟩ := Directory.answer?_cases ha
    · rw [hown] at hown'
      cases hown'
    · rw [hown] at hown'
      cases hown'
    · rcases hm.lookupLive_cases o.isFree r.name kind with
        hsame | ⟨l, e, l', split, hname, rfl, ht, hfree, hrest, hasked⟩
      · exact .inl hsame
      · exact .inr ⟨r, source, l, e, l', hr, hop, hname.symm, hkind, ht, hfree, split, hrest,
          hasked⟩

/-! ## Runs -/

/-- A run whose lookups from elsewhere are told of no free port has the same
names as without the events from elsewhere, also if it starts with another
mapper that has the same host and names. -/
theorem run_filter_isOwn {m m' : Mapper} {names : NameMap} (hm : m.directory.Represents names)
    (hhost : m'.host = m.host) (hdir : m'.directory = m.directory) {os : List Occurrence}
    (hnone : m.NoneToldFree os) :
    (m'.run (os.filter (·.isOwn m.host))).directory = (m.run os).directory := by
  induction os generalizing m m' names with
  | nil => exact hdir
  | cons o os ih =>
    obtain ⟨names', hm'⟩ := hm.after m.host o
    rw [← step_directory] at hm'
    by_cases hown : o.isOwn m.host = true
    · -- Both runs take this event, which does the same to the names of both.
      rw [List.filter_cons_of_pos hown, run_cons, run_cons, ← m.step_host o]
      refine ih hm' ?_ ?_ hnone.tail
      · rw [step_host, step_host, hhost]
      · rw [step_directory, step_directory, hhost, hdir]
    · have hsame : (m.step o).mapper.directory = m.directory := by
        have hother := Bool.eq_false_of_not_eq_true hown
        rcases step_of_not_isOwn hm.toOrdered hother with
          hsame | ⟨r, source, l, e, l', hr, hop, -, -, -, hfree, -, -, hasked⟩
        · exact hsame
        · rw [Occurrence.isOwn_of_request? hr] at hother
          refine absurd ⟨e.use, ?_, hfree⟩ (hnone.head hr hop hother)
          rw [hasked]
          exact List.mem_cons_self
      rw [List.filter_cons_of_neg hown, run_cons, ← m.step_host o]
      refine ih hm' ?_ ?_ hnone.tail
      · rw [step_host, hhost]
      · rw [hsame, hdir]

/-- What becomes of a request about names depends on the host and the names
only. -/
theorem handle_outcome_congr {m m' : Mapper} (hhost : m'.host = m.host)
    (hdir : m'.directory = m.directory) (isFree : Vacancy) (now : Nat) {r : Request}
    (hop : r.opcode = .register ∨ r.opcode = .lookup ∨ r.opcode = .unregister ∨ r.opcode = .names)
    (source : Endpoint) (channel : Channel) :
    (m'.handle isFree now r source channel).outcome =
      (m.handle isFree now r source channel).outcome := by
  rcases hop with hop | hop | hop | hop
  · simp only [handle, hop, change, hhost, hdir]
    split
    · rfl
    · split <;> rfl
  · simp only [handle, hop, lookup, hdir]
    split <;> rfl
  · simp only [handle, hop, change, hhost, hdir]
    split
    · rfl
    · split <;> rfl
  · simp only [handle, hop, list, hdir]
    cases channel <;> rfl

/-- Whatever happens to a daemon, leaving out all that comes from elsewhere
gives the same names in the end, and the same answers to the requests of this
host about names on the way, unless a lookup from elsewhere is told that a
port is free. In any case, an event from elsewhere leaves the names as they
are or drops one entry of a TCP port that is free, by looking up its name and
kind. -/
theorem outsiders_change_no_names (host : Host) (port : UInt16) (probing : Settings.Probing)
    (os : List Occurrence) :
    let m := start host port probing
    let own (os : List Occurrence) := os.filter (·.isOwn host)
    (m.NoneToldFree os →
      (m.run (own os)).directory = (m.run os).directory ∧
      ∀ (before : List Occurrence) (o : Occurrence) (after : List Occurrence),
        os = before ++ o :: after → ∀ r source channel,
        o.event = .request r source channel → host.owns source.address = true →
        (r.opcode = .register ∨ r.opcode = .lookup ∨ r.opcode = .unregister ∨ r.opcode = .names) →
          ((m.run (own before)).step o).reaction = ((m.run before).step o).reaction) ∧
    ∀ (before : List Occurrence) (o : Occurrence) (after : List Occurrence),
      os = before ++ o :: after → o.isOwn host = false →
      (m.run (before ++ [o])).directory = (m.run before).directory ∨
        ∃ (r : Request) (source : Endpoint) (l : List Registration) (e : Registration)
          (l' : List Registration), o.event.request? = some (r, source) ∧ r.opcode = .lookup ∧
          r.name = e.name ∧ r.kind = .ok e.kind ∧ e.kind.transport = .tcp ∧
          o.isFree e.use = true ∧ (m.run before).directory.entries.toList = l ++ e :: l' ∧
          (m.run (before ++ [o])).directory.entries.toList = l ++ l' := by
  intro m own
  have hm : m.directory.Represents ∅ := Directory.represents_empty
  refine ⟨fun hnone => ⟨run_filter_isOwn hm rfl rfl hnone, ?_⟩, ?_⟩
  · rintro before o after rfl r source channel hevent - hop
    have hdir : (m.run (own before)).directory = (m.run before).directory :=
      run_filter_isOwn hm rfl rfl hnone.of_append
    have hhost : (m.run (own before)).host = (m.run before).host := by rw [run_host, run_host]
    simp only [step, hevent, Reaction.outcome.injEq]
    exact handle_outcome_congr hhost hdir _ _ hop source channel
  · rintro before o after rfl hown
    obtain ⟨names, hnames⟩ := run_represents hm before
    rw [show host = (m.run before).host from (m.run_host before).symm] at hown
    rw [run_append, run_cons, run_nil]
    rcases step_of_not_isOwn hnames.toOrdered hown with
      hsame | ⟨r, source, l, e, l', hr, hop, hname, hkind, ht, hfree, split, hrest, -⟩
    · exact .inl hsame
    · exact .inr ⟨r, source, l, e, l', hr, hop, hname, hkind, ht, hfree, split, hrest⟩

/-- A host on which `svc` is registered: that another host tries to register
it otherwise, and looks it up, does not show in the answer to a lookup by this
host. Only once its port is free does a lookup from elsewhere drop it. -/
theorem outsiders_do_not_change_svc :
    let host : Host := ⟨[Host.loopbackInterface]⟩
    let m := start host 538 {}
    let request (opcode : Opcode) (port : UInt32) : Request := ⟨opcode, 0x11, port, [115, 118, 99]⟩
    let local' : Endpoint := ⟨.localhost, 40000⟩
    let remote : Endpoint := ⟨.ofOctets 10 0 0 9, 50000⟩
    let held : Vacancy := fun _ => false
    let registration : Occurrence := ⟨0, held, .request (request .register 4000) local' .tcp⟩
    let takeover : Occurrence := ⟨1, held, .datagram (request .register 4001).frame remote⟩
    let query : Occurrence := ⟨2, held, .request (request .lookup 0) remote .udp⟩
    let ownQuery : Occurrence := ⟨3, held, .request (request .lookup 0) local' .tcp⟩
    let eviction : Occurrence := ⟨4, fun _ => true, .request (request .lookup 0) remote .udp⟩
    m.NoneToldFree [registration, takeover, query, ownQuery] ∧
      ((m.run [registration]).step ownQuery).reaction =
        ((m.run [registration, takeover, query]).step ownQuery).reaction ∧
      ∃ l e l', (m.run [registration]).directory.entries.toList = l ++ e :: l' ∧
        (m.run [registration, eviction]).directory.entries.toList = l ++ l' := by
  intro host m request local' remote held registration takeover query ownQuery eviction
  have hnone : m.NoneToldFree [registration, takeover, query, ownQuery] := by
    rintro before o after heq - - - - - ⟨use, -, hfree⟩
    have ho : o ∈ [registration, takeover, query, ownQuery] := by
      rw [heq]
      exact List.mem_append_right before List.mem_cons_self
    simp only [List.mem_cons, List.not_mem_nil, or_false] at ho
    rcases ho with rfl | rfl | rfl | rfl <;> cases hfree
  refine ⟨hnone, ?_, ?_⟩
  · exact ((outsiders_change_no_names host 538 {} _).1 hnone).2 [registration, takeover, query]
      ownQuery [] rfl _ _ _ rfl (by decide) (.inr (.inl rfl))
  · rcases (outsiders_change_no_names host 538 {} [registration, eviction]).2 [registration]
      eviction [] rfl (by decide) with hsame | ⟨r, source, l, e, l', -, -, -, -, -, -, split, hrest⟩
    · exact absurd hsame (by decide +kernel)
    · exact ⟨l, e, l', split, hrest⟩

end Mapper

end PortMapper
