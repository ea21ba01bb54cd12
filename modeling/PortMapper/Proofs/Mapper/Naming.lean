import PortMapper.Mapper.Event
import PortMapper.Proofs.Directory.Refinement

/-!
# What events do to the names

Only requests change the names of a host, those in datagrams included
(`Event.request?`). How the names answer a request and what becomes of them
(`Directory.answer?`) depends on the host, on the names and on the ports that
are free, and on nothing else that a daemon knows. `Directory.after` are the
names after an event; the names after a run are those after its events, one
after another (`Mapper.run_directory`).

`Directory.answer?_cases` says what there is to know about an answer: it is
that of a registration or a withdrawal by this host, or that of a lookup.
-/

namespace PortMapper

/-- The request that an event brings, and where it comes from. A datagram that
holds no request brings none. -/
def Event.request? : Event → Option (Request × Endpoint)
  | .request r source _ => some (r, source)
  | .datagram bytes source => (Request.ofFrame bytes).toOption.map fun r => (r, source)
  | _ => none

namespace Directory

/-- The answer of the names to a request about them, if it has one: only this
host may register and withdraw, and the kind must be valid. -/
def answer? (d : Directory) (h : Host) (isFree : Vacancy) (r : Request) (source : Endpoint) :
    Option Answer :=
  match r.opcode, r.kind with
  | .register, .ok kind =>
    if h.owns source.address then some (d.register isFree r.name r.port kind) else none
  | .unregister, .ok kind =>
    if h.owns source.address then some (d.withdraw r.name r.port kind) else none
  | .lookup, .ok kind => some (d.lookupLive isFree r.name kind)
  | _, _ => none

/-- The names after an event. -/
def after (d : Directory) (h : Host) (o : Occurrence) : Directory :=
  match o.event.request? with
  | some (r, source) => ((d.answer? h o.isFree r source).map (·.directory)).getD d
  | none => d

variable {d : Directory} {h : Host} {isFree : Vacancy} {r : Request} {source : Endpoint}
  {a : Answer}

/-- What has an answer, and which. -/
theorem answer?_cases (ha : d.answer? h isFree r source = some a) :
    ∃ kind, r.kind = .ok kind ∧
      (r.opcode = .register ∧ h.owns source.address = true ∧
          a = d.register isFree r.name r.port kind ∨
        r.opcode = .unregister ∧ h.owns source.address = true ∧
          a = d.withdraw r.name r.port kind ∨
        r.opcode = .lookup ∧ a = d.lookupLive isFree r.name kind) := by
  unfold answer? at ha
  split at ha
  · rename_i kind hop hkind
    split at ha <;> cases ha
    exact ⟨kind, hkind, .inl ⟨hop, ‹_›, rfl⟩⟩
  · rename_i kind hop hkind
    split at ha <;> cases ha
    exact ⟨kind, hkind, .inr (.inl ⟨hop, ‹_›, rfl⟩)⟩
  · rename_i kind hop hkind
    cases ha
    exact ⟨kind, hkind, .inr (.inr ⟨hop, rfl⟩)⟩
  · cases ha

theorem answer?_register (hop : r.opcode = .register) (hown : h.owns source.address = true)
    {kind : PortKind} (hkind : r.kind = .ok kind) :
    d.answer? h isFree r source = some (d.register isFree r.name r.port kind) := by
  simp only [answer?, hop, hkind, hown, if_true]

theorem answer?_unregister (hop : r.opcode = .unregister)
    (hown : h.owns source.address = true) {kind : PortKind} (hkind : r.kind = .ok kind) :
    d.answer? h isFree r source = some (d.withdraw r.name r.port kind) := by
  simp only [answer?, hop, hkind, hown, if_true]

theorem answer?_lookup (hop : r.opcode = .lookup) {kind : PortKind} (hkind : r.kind = .ok kind) :
    d.answer? h isFree r source = some (d.lookupLive isFree r.name kind) := by
  simp only [answer?, hop, hkind]

/-- An answer leaves names that represent a map again. -/
theorem Represents.answer {names : NameMap} (hd : d.Represents names)
    (ha : d.answer? h isFree r source = some a) : ∃ names', a.directory.Represents names' := by
  obtain ⟨kind, -, ⟨-, -, rfl⟩ | ⟨-, -, rfl⟩ | ⟨-, rfl⟩⟩ := answer?_cases ha
  · exact ⟨_, (hd.register ..).represents⟩
  · exact ⟨_, (hd.withdraw ..).represents⟩
  · exact ⟨_, (hd.lookupLive ..).represents⟩

theorem Represents.after {names : NameMap} (hd : d.Represents names) (h : Host) (o : Occurrence) :
    ∃ names', (d.after h o).Represents names' := by
  unfold Directory.after
  split
  · rename_i r source _
    cases ha : d.answer? h o.isFree r source with
    | none => exact ⟨names, hd⟩
    | some a => exact hd.answer ha
  · exact ⟨names, hd⟩

end Directory

namespace Mapper

variable {m : Mapper} {isFree : Vacancy} {now : Nat} {r : Request} {source : Endpoint}
  {channel : Channel} {a : Directory.Answer} {o : Occurrence}

/-! ## One request -/

/-- A request to change the names that comes from elsewhere is ignored. -/
theorem change_of_not_owns (h : m.host.owns source.address = false)
    (act : PortKind → Directory.Answer) : m.change r source act = m.ignored := by
  rw [change, h]
  rfl

/-- A request that the names answer changes nothing but the names. -/
theorem handle_of_answer (ha : m.directory.answer? m.host isFree r source = some a) :
    m.handle isFree now r source channel = m.answered a := by
  obtain ⟨kind, hkind, ⟨hop, hown, rfl⟩ | ⟨hop, hown, rfl⟩ | ⟨hop, rfl⟩⟩ :=
    Directory.answer?_cases ha
  · simp [handle, hop, change, hown, hkind]
  · simp [handle, hop, change, hown, hkind]
  · simp [handle, hop, lookup, hkind]

/-- A request to change the names is ignored if they do not answer it. -/
theorem change_of_no_answer (hop : r.opcode = .register ∨ r.opcode = .unregister)
    (ha : m.directory.answer? m.host isFree r source = none) (act : PortKind → Directory.Answer) :
    m.change r source act = m.ignored := by
  cases hown : m.host.owns source.address with
  | false => exact change_of_not_owns hown act
  | true =>
    cases hkind : r.kind with
    | error fault =>
      rw [change, hown, hkind]
      rfl
    | ok kind => rcases hop with hop | hop <;> simp [Directory.answer?, hop, hkind, hown] at ha

/-- So is a lookup, whatever is free. -/
theorem lookup_of_no_answer (hop : r.opcode = .lookup)
    (ha : m.directory.answer? m.host isFree r source = none) (isFree' : Vacancy) :
    m.lookup isFree' r = m.ignored := by
  cases hkind : r.kind with
  | error fault => rw [lookup, hkind]
  | ok kind => simp [Directory.answer?, hop, hkind] at ha

/-- A request that the names do not answer does not change them, and asks nothing. -/
theorem handle_of_no_answer (ha : m.directory.answer? m.host isFree r source = none) :
    (m.handle isFree now r source channel).mapper.directory = m.directory ∧
      (m.handle isFree now r source channel).asked = [] := by
  cases hop : r.opcode with
  | register =>
    simp only [handle, hop, change_of_no_answer (.inl hop) ha]
    exact ⟨rfl, rfl⟩
  | unregister =>
    simp only [handle, hop, change_of_no_answer (.inr hop) ha]
    exact ⟨rfl, rfl⟩
  | lookup =>
    simp only [handle, hop, lookup_of_no_answer hop ha]
    exact ⟨rfl, rfl⟩
  | servers | names =>
    rw [handle, hop]
    cases channel <;> exact ⟨rfl, rfl⟩
  | probe =>
    rw [handle, hop]
    cases channel with
    | tcp => exact ⟨rfl, rfl⟩
    | udp =>
      simp only [probe]
      split <;> exact ⟨rfl, rfl⟩
  | probeReply =>
    simp only [handle, hop, noteReply]
    split <;> exact ⟨rfl, rfl⟩

theorem handle_directory (m : Mapper) (isFree : Vacancy) (now : Nat) (r : Request)
    (source : Endpoint) (channel : Channel) :
    (m.handle isFree now r source channel).mapper.directory =
      ((m.directory.answer? m.host isFree r source).map (·.directory)).getD m.directory := by
  cases ha : m.directory.answer? m.host isFree r source with
  | none => exact (handle_of_no_answer ha).1
  | some a =>
    rw [handle_of_answer ha]
    rfl

/-- Handling a request changes nothing but the names and the neighbours. -/
theorem handle_frame (m : Mapper) (isFree : Vacancy) (now : Nat) (r : Request) (source : Endpoint)
    (channel : Channel) : ∃ directory neighbours,
      (m.handle isFree now r source channel).mapper = { m with directory, neighbours } := by
  cases hop : r.opcode <;>
    simp only [handle, hop, change, lookup, list, probe, noteReply] <;>
    repeat' split
  all_goals exact ⟨_, _, rfl⟩

theorem handle_host (m : Mapper) (isFree : Vacancy) (now : Nat) (r : Request) (source : Endpoint)
    (channel : Channel) : (m.handle isFree now r source channel).mapper.host = m.host := by
  obtain ⟨directory, neighbours, h⟩ := m.handle_frame isFree now r source channel
  rw [h]

theorem handle_outbox (m : Mapper) (isFree : Vacancy) (now : Nat) (r : Request) (source : Endpoint)
    (channel : Channel) : (m.handle isFree now r source channel).mapper.outbox = m.outbox := by
  obtain ⟨directory, neighbours, h⟩ := m.handle_frame isFree now r source channel
  rw [h]

/-! ## One datagram -/

/-- A datagram that holds no request changes nothing. -/
theorem receive_of_fault {bytes : Bytes} {fault : MessageFault}
    (hr : Request.ofFrame bytes = .error fault) :
    m.receive isFree now bytes source = { mapper := m } := by simp only [receive, hr]

/-- A datagram that holds a request which is not answered. -/
theorem receive_of_close {bytes : Bytes} (hr : Request.ofFrame bytes = .ok r)
    (hout : (m.handle isFree now r source .udp).outcome = .close) :
    m.receive isFree now bytes source =
      { mapper := (m.handle isFree now r source .udp).mapper
        asked := (m.handle isFree now r source .udp).asked } := by
  simp only [receive, hr, hout]

/-- A datagram that holds a request which is answered. -/
theorem receive_of_reply {bytes reply : Bytes} (hr : Request.ofFrame bytes = .ok r)
    (hout : (m.handle isFree now r source .udp).outcome = .reply reply) :
    m.receive isFree now bytes source =
      { mapper := { (m.handle isFree now r source .udp).mapper with
          outbox := m.outbox.post source reply }
        asked := (m.handle isFree now r source .udp).asked } := by
  simp only [receive, hr, hout, handle_outbox]

/-- Taking in a datagram changes nothing but the names, the neighbours and the
outbox. -/
theorem receive_frame (m : Mapper) (isFree : Vacancy) (now : Nat) (bytes : Bytes)
    (source : Endpoint) : ∃ directory neighbours outbox,
      (m.receive isFree now bytes source).mapper =
        { m with directory, neighbours, outbox } := by
  cases hr : Request.ofFrame bytes with
  | error fault =>
    rw [receive_of_fault hr]
    exact ⟨_, _, _, rfl⟩
  | ok r =>
    obtain ⟨directory, neighbours, hhandle⟩ := m.handle_frame isFree now r source .udp
    cases hout : (m.handle isFree now r source .udp).outcome with
    | close =>
      rw [receive_of_close hr hout, hhandle]
      exact ⟨_, _, _, rfl⟩
    | reply reply =>
      rw [receive_of_reply hr hout, hhandle]
      exact ⟨_, _, _, rfl⟩

/-- A datagram that holds a request does to the names what the request does. -/
theorem receive_host_directory (m : Mapper) (isFree : Vacancy) (now : Nat) (source : Endpoint)
    {bytes : Bytes} (hr : Request.ofFrame bytes = .ok r) :
    (m.receive isFree now bytes source).mapper.host = m.host ∧
      (m.receive isFree now bytes source).mapper.directory =
        (m.handle isFree now r source .udp).mapper.directory := by
  cases hout : (m.handle isFree now r source .udp).outcome with
  | close =>
    rw [receive_of_close hr hout]
    exact ⟨m.handle_host .., rfl⟩
  | reply reply =>
    rw [receive_of_reply hr hout]
    exact ⟨m.handle_host .., rfl⟩

/-! ## One event -/

/-- Whether an event is answered with `bytes`: a request at once, and a
datagram by one that goes back to its source from the outbox. -/
def Answers (m : Mapper) (o : Occurrence) (bytes : Bytes) : Prop :=
  match o.event with
  | .request _ _ _ => (m.step o).reaction = .outcome (.reply bytes)
  | .datagram _ source => (m.step o).mapper.outbox = m.outbox.post source bytes
  | _ => False

theorem tick_host (m : Mapper) (now : Nat) : (m.tick now).host = m.host := by
  rw [tick]
  split <;> rfl

theorem tick_directory (m : Mapper) (now : Nat) : (m.tick now).directory = m.directory := by
  rw [tick]
  split <;> rfl

/-- No event changes the host, and the names after it are those that
`Directory.after` tells. -/
theorem step_host_directory (m : Mapper) (o : Occurrence) :
    (m.step o).mapper.host = m.host ∧
      (m.step o).mapper.directory = m.directory.after m.host o := by
  obtain ⟨time, isFree, event⟩ := o
  cases event with
  | request r source channel =>
    exact ⟨m.handle_host .., m.handle_directory ..⟩
  | datagram bytes source =>
    cases hr : Request.ofFrame bytes with
    | error fault =>
      simp [step, receive_of_fault hr, Directory.after, Event.request?, hr, Except.toOption]
    | ok r =>
      obtain ⟨hhost, hdir⟩ := m.receive_host_directory isFree time source hr
      refine ⟨hhost, hdir.trans ?_⟩
      simp only [handle_directory, Directory.after, Event.request?, hr, Except.toOption,
        Option.map_some]
  | tick => exact ⟨m.tick_host time, m.tick_directory time⟩
  | _ => exact ⟨rfl, rfl⟩

@[simp] theorem step_host (m : Mapper) (o : Occurrence) : (m.step o).mapper.host = m.host :=
  (m.step_host_directory o).1

theorem step_directory (m : Mapper) (o : Occurrence) :
    (m.step o).mapper.directory = m.directory.after m.host o := (m.step_host_directory o).2

/-- No event changes what a daemon was set up with. -/
theorem step_settings (m : Mapper) (o : Occurrence) :
    (m.step o).mapper.port = m.port ∧ (m.step o).mapper.probing = m.probing := by
  obtain ⟨time, isFree, event⟩ := o
  cases event with
  | request r source channel =>
    obtain ⟨directory, neighbours, h⟩ := m.handle_frame isFree time r source channel
    simp only [step, h, and_self]
  | datagram bytes source =>
    obtain ⟨directory, neighbours, outbox, h⟩ := m.receive_frame isFree time bytes source
    simp only [step, h, and_self]
  | tick =>
    simp only [step, tick]
    split <;> exact ⟨rfl, rfl⟩
  | _ => exact ⟨rfl, rfl⟩

@[simp] theorem step_port (m : Mapper) (o : Occurrence) : (m.step o).mapper.port = m.port :=
  (m.step_settings o).1

@[simp] theorem step_probing (m : Mapper) (o : Occurrence) :
    (m.step o).mapper.probing = m.probing := (m.step_settings o).2

/-- A request that the names answer is answered with their port, and nothing
is asked but what they ask. -/
theorem step_of_answer (hr : o.event.request? = some (r, source))
    (ha : m.directory.answer? m.host o.isFree r source = some a) :
    m.Answers o (Reply.port a.port) ∧ (m.step o).asked = a.asked := by
  obtain ⟨time, isFree, event⟩ := o
  cases event with
  | request r' source' channel =>
    cases hr
    simp only [Answers, step, handle_of_answer ha]
    exact ⟨rfl, rfl⟩
  | datagram bytes source' =>
    cases hframe : Request.ofFrame bytes with
    | error fault => simp [Event.request?, hframe, Except.toOption] at hr
    | ok r' =>
      simp only [Event.request?, hframe, Except.toOption, Option.map_some] at hr
      cases hr
      have hhandle : m.handle isFree time r source .udp = m.answered a := handle_of_answer ha
      have hout : (m.handle isFree time r source .udp).outcome = .reply (Reply.port a.port) := by
        rw [hhandle]
        rfl
      simp only [Answers, step, receive_of_reply hframe hout, hhandle, answered, and_self]
  | _ => cases hr

/-! ## Runs -/

@[simp] theorem run_nil (m : Mapper) : m.run [] = m := rfl

@[simp] theorem run_cons (m : Mapper) (o : Occurrence) (os : List Occurrence) :
    m.run (o :: os) = (m.step o).mapper.run os := rfl

theorem run_append (m : Mapper) (os os' : List Occurrence) :
    m.run (os ++ os') = (m.run os).run os' := List.foldl_append

@[simp] theorem run_concat (m : Mapper) (os : List Occurrence) (o : Occurrence) :
    m.run (os ++ [o]) = ((m.run os).step o).mapper := m.run_append os [o]

@[simp] theorem run_host (m : Mapper) (os : List Occurrence) : (m.run os).host = m.host := by
  induction os generalizing m with
  | nil => rfl
  | cons o os ih => rw [run_cons, ih, step_host]

@[simp] theorem run_port (m : Mapper) (os : List Occurrence) : (m.run os).port = m.port := by
  induction os generalizing m with
  | nil => rfl
  | cons o os ih => rw [run_cons, ih, step_port]

@[simp] theorem run_probing (m : Mapper) (os : List Occurrence) :
    (m.run os).probing = m.probing := by
  induction os generalizing m with
  | nil => rfl
  | cons o os ih => rw [run_cons, ih, step_probing]

/-- The names after a run are those after its events. -/
theorem run_directory (m : Mapper) (os : List Occurrence) :
    (m.run os).directory = os.foldl (fun d o => d.after m.host o) m.directory := by
  induction os generalizing m with
  | nil => rfl
  | cons o os ih => rw [run_cons, ih, step_host, step_directory, List.foldl_cons]

/-- A daemon that has just been started. -/
def start (host : Host) (port : UInt16) (probing : Settings.Probing) : Mapper :=
  { host, port, probing }

/-- Whether time does not run backwards. -/
def InOrder (os : List Occurrence) : Prop := os.Pairwise fun o o' => o.time ≤ o'.time

theorem inOrder_concat {os : List Occurrence} {o : Occurrence} :
    InOrder (os ++ [o]) ↔ InOrder os ∧ ∀ o' ∈ os, o'.time ≤ o.time := by
  simp only [InOrder, List.pairwise_append, List.pairwise_singleton, List.mem_singleton,
    forall_eq, true_and]

/-- The daemon was started some time ago. -/
def Reachable (m : Mapper) : Prop :=
  ∃ host port probing os, m = (start host port probing).run os

/-- The names of a daemon represent a map at all times. -/
theorem run_represents {names : NameMap} (hm : m.directory.Represents names)
    (os : List Occurrence) : ∃ names', (m.run os).directory.Represents names' := by
  induction os generalizing m names with
  | nil => exact ⟨names, hm⟩
  | cons o os ih =>
    obtain ⟨names', hm'⟩ := hm.after m.host o
    rw [← step_directory] at hm'
    exact ih hm'

theorem Reachable.represents (hm : m.Reachable) : ∃ names, m.directory.Represents names := by
  obtain ⟨host, port, probing, os, rfl⟩ := hm
  exact run_represents Directory.represents_empty os

end Mapper

end PortMapper
