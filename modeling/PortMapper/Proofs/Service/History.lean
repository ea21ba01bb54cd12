import PortMapper.Proofs.Mapper.Naming
import PortMapper.Service

/-!
# The history of a service

A service is a mapper that takes one event at a time, whatever its connections do
meanwhile. `Service.history` are the events that it takes in the course of some
turns: requests when they are taken from the channel, and datagrams, ticks and
chances to send when they occur. Everything else happens between a connection and
its client, and the mapper has no part in it.

So the mapper is always what the history makes of it, and what the service sends and
asks is what comes of the events of its history, taken one after another
(`Service.perform_history`).
-/

namespace PortMapper

/-- An action with the time at which it is done and the ports free then. -/
structure Turn where
  time : Nat
  isFree : Vacancy
  action : Action

/-- An event that a mapper takes, with the connection that waits for its outcome. -/
structure Entry where
  connection : Option Nat
  occurrence : Occurrence

namespace Mapper

/-- What comes of events one after another. -/
def trace (m : Mapper) : List Occurrence → List Step
  | [] => []
  | o :: os => m.step o :: (m.step o).mapper.trace os

theorem trace_append (m : Mapper) (os os' : List Occurrence) :
    m.trace (os ++ os') = m.trace os ++ (m.run os).trace os' := by
  induction os generalizing m with
  | nil => rfl
  | cons o os ih => rw [List.cons_append, trace, trace, ih, List.cons_append, run_cons]

/-- The datagrams that an event sends. -/
def Step.sent (s : Step) : List Datagram :=
  match s.reaction with
  | .datagrams ds => ds
  | _ => []

end Mapper

namespace Service

/-! ## Turns -/

/-- The service after a turn, the datagrams sent in it, and the ports asked about. -/
def turn (s : Service) (t : Turn) : Done := s.act t.isFree t.time t.action

/-- Takes turns one after another. -/
def perform (s : Service) : List Turn → Done
  | [] => { service := s }
  | t :: ts =>
    let first := s.turn t
    let rest := first.service.perform ts
    { rest with sent := first.sent ++ rest.sent, asked := first.asked ++ rest.asked }

/-- The events that the mapper takes in a turn. -/
def taken (s : Service) (t : Turn) : List Entry :=
  match t.action with
  | .take =>
    match s.commands with
    | [] => []
    | c :: _ => [⟨some c.connection, t.time, t.isFree, .request c.request c.source .tcp⟩]
  | .datagram bytes source => [⟨none, t.time, t.isFree, .datagram bytes source⟩]
  | .tick => [⟨none, t.time, t.isFree, .tick⟩]
  | .flush results => [⟨none, t.time, t.isFree, .flush results⟩]
  | _ => []

/-- The events that the mapper takes in the course of some turns. -/
def history (s : Service) : List Turn → List Entry
  | [] => []
  | t :: ts => s.taken t ++ (s.turn t).service.history ts

/-- The bytes that arrive on a connection in a turn. -/
def delivered (s : Service) (i : Nat) (t : Turn) : Bytes :=
  match t.action with
  | .deliver j bytes => if j = i ∧ i < s.connections.length then bytes else []
  | _ => []

/-- The bytes that arrive on a connection in the course of some turns. -/
def arrived (s : Service) (i : Nat) : List Turn → Bytes
  | [] => []
  | t :: ts => s.delivered i t ++ (s.turn t).service.arrived i ts

/-- Whether writing the reply of a connection fails in a turn, after these bytes. -/
def WriteFails (s : Service) (t : Turn) (i : Nat) (written : Bytes) : Prop :=
  t.action = .fail i ∧
    ∃ source rest, s.connections[i]? = some ⟨source, .replying written rest⟩

/-- Whether writing the reply of a connection fails in the course of some turns, after
these bytes. -/
def WriteFailed (s : Service) (ts : List Turn) (i : Nat) (written : Bytes) : Prop :=
  ∃ ts₁ t ts₂, ts = ts₁ ++ t :: ts₂ ∧ (s.perform ts₁).service.WriteFails t i written

variable {s : Service}

theorem perform_append (s : Service) (ts ts' : List Turn) :
    (s.perform (ts ++ ts')).service = ((s.perform ts).service.perform ts').service := by
  induction ts generalizing s with
  | nil => rfl
  | cons t ts ih => exact ih (s.turn t).service

@[simp] theorem perform_concat (s : Service) (ts : List Turn) (t : Turn) :
    (s.perform (ts ++ [t])).service = ((s.perform ts).service.turn t).service :=
  s.perform_append ts [t]

theorem history_append (s : Service) (ts ts' : List Turn) :
    s.history (ts ++ ts') = s.history ts ++ (s.perform ts).service.history ts' := by
  induction ts generalizing s with
  | nil => rfl
  | cons t ts ih => rw [List.cons_append, history, history, ih, List.append_assoc, perform]

theorem history_concat (s : Service) (ts : List Turn) (t : Turn) :
    s.history (ts ++ [t]) = s.history ts ++ (s.perform ts).service.taken t := by
  rw [history_append, history, history, List.append_nil]

theorem arrived_append (s : Service) (i : Nat) (ts ts' : List Turn) :
    s.arrived i (ts ++ ts') = s.arrived i ts ++ (s.perform ts).service.arrived i ts' := by
  induction ts generalizing s with
  | nil => rfl
  | cons t ts ih => rw [List.cons_append, arrived, arrived, ih, List.append_assoc, perform]

theorem arrived_concat (s : Service) (i : Nat) (ts : List Turn) (t : Turn) :
    s.arrived i (ts ++ [t]) = s.arrived i ts ++ (s.perform ts).service.delivered i t := by
  rw [arrived_append, arrived, arrived, List.append_nil]

theorem WriteFailed.append {ts : List Turn} {i : Nat} {written : Bytes}
    (h : s.WriteFailed ts i written) (ts' : List Turn) : s.WriteFailed (ts ++ ts') i written := by
  obtain ⟨ts₁, t, ts₂, rfl, ht⟩ := h
  refine ⟨ts₁, t, ts₂ ++ ts', ?_, ht⟩
  rw [List.append_assoc, List.cons_append]

theorem WriteFails.concat {ts : List Turn} {t : Turn} {i : Nat} {written : Bytes}
    (h : (s.perform ts).service.WriteFails t i written) : s.WriteFailed (ts ++ [t]) i written :=
  ⟨ts, t, [], rfl, h⟩

/-- Doing actions at one time is taking turns at that time. -/
theorem actAll_eq_perform (s : Service) (isFree : Vacancy) (now : Nat) (actions : List Action) :
    s.actAll isFree now actions = s.perform (actions.map fun a => ⟨now, isFree, a⟩) := by
  have hfold (d : Done) : actions.foldl (fun d a =>
      let next := d.service.act isFree now a
      { next with sent := d.sent ++ next.sent, asked := d.asked ++ next.asked }) d =
      let rest := d.service.perform (actions.map fun a => ⟨now, isFree, a⟩)
      { rest with sent := d.sent ++ rest.sent, asked := d.asked ++ rest.asked } := by
    induction actions generalizing d with
    | nil => simp only [List.foldl_nil, List.map_nil, perform, List.append_nil]
    | cons a actions ih =>
      simp only [List.foldl_cons, ih, List.map_cons, perform, List.append_assoc]
      rfl
  exact hfold { service := s }

/-! ## The mapper -/

/-- What a turn does to the mapper, sends and asks is what comes of the events that
the mapper takes in it. -/
theorem turn_taken (s : Service) (t : Turn) :
    let os := (s.taken t).map (·.occurrence)
    (s.turn t).service.mapper = s.mapper.run os ∧
      (s.turn t).sent = (s.mapper.trace os).flatMap (·.sent) ∧
      (s.turn t).asked = (s.mapper.trace os).flatMap (·.asked) := by
  obtain ⟨time, isFree, action⟩ := t
  cases action with
  | take =>
    cases hcommands : s.commands with
    | nil => simp [turn, act, taken, hcommands, Mapper.trace]
    | cons c commands =>
      simp [turn, act, taken, hcommands, Mapper.trace, Mapper.step, Mapper.Step.sent]
  | datagram bytes source =>
    simp [turn, act, taken, Mapper.trace, Mapper.step, Mapper.Step.sent]
  | tick => simp [turn, act, taken, Mapper.trace, Mapper.step, Mapper.Step.sent]
  | flush results => simp [turn, act, taken, Mapper.trace, Mapper.step, Mapper.Step.sent]
  | accept source => exact ⟨rfl, rfl, rfl⟩
  | deliver i bytes | giveUp i | submit i | write i count | fail i =>
    simp only [turn, act, taken]
    repeat' split
    all_goals exact ⟨rfl, rfl, rfl⟩

/-- What a service does to its mapper, sends and asks is what comes of the events of
its history. -/
theorem perform_history (s : Service) (ts : List Turn) :
    let os := (s.history ts).map (·.occurrence)
    (s.perform ts).service.mapper = s.mapper.run os ∧
      (s.perform ts).sent = (s.mapper.trace os).flatMap (·.sent) ∧
      (s.perform ts).asked = (s.mapper.trace os).flatMap (·.asked) := by
  induction ts generalizing s with
  | nil => exact ⟨rfl, rfl, rfl⟩
  | cons t ts ih =>
    obtain ⟨hmapper, hsent, hasked⟩ := s.turn_taken t
    obtain ⟨ihmapper, ihsent, ihasked⟩ := ih (s.turn t).service
    simp only [perform, history, List.map_append, Mapper.run_append, Mapper.trace_append,
      List.flatMap_append, ← hmapper, ihmapper, hsent, ihsent, hasked, ihasked, and_self]

end Service

end PortMapper
