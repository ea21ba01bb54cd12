import PortMapper.Proofs.Outbox

/-!
# Sending what is in the outbox

A flush offers datagrams to a socket, which sends them, refuses them or has no room for them.
`Outbox.flushTo` is a flush to any socket, with whatever state it has; `Outbox.flush` is one to a
socket whose results are given. What a flush consists of is one relation (`Outbox.Flushes`), and
what it offers is kept by a socket that writes it down (`Socket.recorded`).

A datagram leaves the outbox when the socket has sent or refused it, and only then. So the
datagrams that have been settled in this way and those still in the outbox are always the ones
that were posted, in their order (`Outbox.settled_attemptsInTurns`), however flushes and postings
alternate.
-/

namespace PortMapper

/-- What a socket says to a datagram, and the state it is in after that. -/
abbrev Socket (σ : Type) := σ → Datagram → SendResult × σ

/-- An attempt to send a datagram. -/
structure Attempt where
  datagram : Datagram
  result : SendResult
deriving DecidableEq, Repr

namespace Attempt

/-- The datagrams of the attempts that had a given result. -/
def withResult (r : SendResult) (as : List Attempt) : List Datagram :=
  (as.filter (·.result = r)).map (·.datagram)

/-- The datagrams of the attempts after which they were sent or refused. -/
def settled (as : List Attempt) : List Datagram :=
  (as.filter (·.result ≠ .wouldBlock)).map (·.datagram)

theorem settled_append (as as' : List Attempt) :
    settled (as ++ as') = settled as ++ settled as' := by
  rw [settled, List.filter_append, List.map_append]
  rfl

theorem settled_cons {r : SendResult} (h : r ≠ .wouldBlock) (d : Datagram) (as : List Attempt) :
    settled (⟨d, r⟩ :: as) = d :: settled as := by
  cases r with
  | wouldBlock => exact absurd rfl h
  | sent => rfl
  | refused => rfl

theorem withResult_sublist {r : SendResult} (h : r ≠ .wouldBlock) (as : List Attempt) :
    (withResult r as).Sublist (settled as) := by
  refine (List.monotone_filter_right as fun a ha => ?_).map _
  rw [decide_eq_true_eq] at ha ⊢
  rwa [ha]

/-- What is settled has been either sent or refused. -/
theorem count_settled (as : List Attempt) (d : Datagram) :
    (settled as).count d = (withResult .sent as).count d + (withResult .refused as).count d := by
  induction as with
  | nil => rfl
  | cons a as ih =>
    obtain ⟨d', r⟩ := a
    cases r with
    | wouldBlock => exact ih
    | sent =>
      change (d' :: settled as).count d =
        (d' :: withResult .sent as).count d + (withResult .refused as).count d
      rw [List.count_cons, List.count_cons, ih, Nat.add_right_comm]
    | refused =>
      change (d' :: settled as).count d =
        (withResult .sent as).count d + (d' :: withResult .refused as).count d
      rw [List.count_cons, List.count_cons, ih, Nat.add_assoc]

end Attempt

namespace Socket

/-- A socket that writes down the attempts, the latest last. -/
def recorded {σ : Type} (socket : Socket σ) : Socket (σ × List Attempt) := fun s d =>
  let said := socket s.1 d
  (said.1, said.2, s.2 ++ [⟨d, said.1⟩])

/-- A socket whose results are given. When they end it has no room for more. -/
def scripted : Socket (List SendResult)
  | [], _ => (.wouldBlock, [])
  | r :: results, _ => (r, results)

end Socket

namespace Outbox

variable {σ : Type}

/-- Offers the datagrams to a socket in their order for as long as it has room. -/
def flushTo (o : Outbox) (socket : Socket σ) (s : σ) : Outbox × σ :=
  match _ : o.next? with
  | none => (o, s)
  | some d =>
    match socket s d with
    | (.wouldBlock, s) => (o, s)
    | (_, s) => o.remove.flushTo socket s
termination_by o.size
decreasing_by
  obtain ⟨rest, hqueue⟩ := List.head?_eq_some_iff.mp ‹o.next? = some d›
  rw [size, size, queue_remove, hqueue]
  exact Nat.lt_succ_self _

/-- The attempts of a flush. -/
def attempts (o : Outbox) (socket : Socket σ) (s : σ) : List Attempt :=
  (o.flushTo socket.recorded (s, [])).2.2

/-- Whether a flush makes the given attempts and leads from one outbox and state of the socket to
another. -/
inductive Flushes (socket : Socket σ) : Outbox → σ → List Attempt → Outbox → σ → Prop where
  | empty {o : Outbox} {s : σ} (hnext : o.next? = none) : Flushes socket o s [] o s
  | blocked {o : Outbox} {s s' : σ} {d : Datagram} (hnext : o.next? = some d)
      (hsaid : socket s d = (.wouldBlock, s')) : Flushes socket o s [⟨d, .wouldBlock⟩] o s'
  | settled {o o' : Outbox} {s s₁ s' : σ} {d : Datagram} {r : SendResult} {as : List Attempt}
      (hnext : o.next? = some d) (hsaid : socket s d = (r, s₁)) (hr : r ≠ .wouldBlock)
      (hrest : Flushes socket o.remove s₁ as o' s') : Flushes socket o s (⟨d, r⟩ :: as) o' s'

variable {socket : Socket σ} {s s' : σ} {o o' : Outbox} {d : Datagram} {as : List Attempt}
  {results rest : List SendResult}

/-! ## Attempts -/

theorem queue_of_next? (h : o.next? = some d) : o.queue = d :: o.remove.queue := by
  obtain ⟨rest, hqueue⟩ : ∃ rest, o.queue = d :: rest := List.head?_eq_some_iff.mp h
  rw [queue_remove, hqueue, List.tail_cons]

theorem flushTo_of_none (h : o.next? = none) : o.flushTo socket s = (o, s) := by
  rw [flushTo]
  split
  · rfl
  · rename_i hsome
    cases h.symm.trans hsome

theorem flushTo_of_some (h : o.next? = some d) : o.flushTo socket s =
    match socket s d with
    | (.wouldBlock, s) => (o, s)
    | (_, s) => o.remove.flushTo socket s := by
  rw [flushTo]
  split
  · rename_i hnone
    cases h.symm.trans hnone
  · rename_i hsome
    cases h.symm.trans hsome
    rfl

theorem exists_flushes (o : Outbox) (socket : Socket σ) (s : σ) :
    ∃ as, Flushes socket o s as (o.flushTo socket s).1 (o.flushTo socket s).2 := by
  fun_induction flushTo o socket s with
  | case1 o s hnext => exact ⟨[], .empty hnext⟩
  | case2 o s d hnext s' hsaid => exact ⟨_, .blocked hnext hsaid⟩
  | case3 o s d hnext r s₁ hr hsaid ih =>
    obtain ⟨as, hrest⟩ := ih
    exact ⟨_, .settled hnext hsaid hr hrest⟩

namespace Flushes

theorem flushTo_eq (h : Flushes socket o s as o' s') : o.flushTo socket s = (o', s') := by
  induction h with
  | empty hnext => exact flushTo_of_none hnext
  | blocked hnext hsaid => rw [flushTo_of_some hnext, hsaid]
  | @settled _ _ _ _ _ _ r _ hnext hsaid hr hrest ih =>
    rw [flushTo_of_some hnext, hsaid]
    cases r with
    | wouldBlock => exact absurd rfl hr
    | sent => exact ih
    | refused => exact ih

/-- A flush is the same if the socket writes down the attempts. -/
theorem recorded (h : Flushes socket o s as o' s') (log : List Attempt) :
    Flushes socket.recorded o (s, log) as o' (s', log ++ as) := by
  induction h generalizing log with
  | empty hnext =>
    rw [List.append_nil]
    exact .empty hnext
  | blocked hnext hsaid => exact .blocked hnext (by rw [Socket.recorded, hsaid])
  | settled hnext hsaid hr hrest ih =>
    rw [List.append_cons]
    exact .settled hnext (by rw [Socket.recorded, hsaid]) hr (ih _)

theorem attempts_eq (h : Flushes socket o s as o' s') : o.attempts socket s = as := by
  rw [attempts, (h.recorded []).flushTo_eq, List.nil_append]

/-- A flush is the same with a socket whose results are those of the attempts. -/
theorem scripted (h : Flushes socket o s as o' s') :
    Flushes .scripted o (as.map (·.result)) as o' [] := by
  induction h with
  | empty hnext => exact .empty hnext
  | blocked hnext hsaid => exact .blocked hnext rfl
  | settled hnext hsaid hr hrest ih => exact .settled hnext rfl hr ih

/-- A flush with given results is one to a socket that gives them. -/
theorem flush_eq (h : Flushes .scripted o results as o' rest) : o.flush results =
    { sent := Attempt.withResult .sent as, refused := Attempt.withResult .refused as,
      outbox := o' } := by
  induction h with
  | @empty _ results hnext =>
    cases results with
    | nil => rfl
    | cons r results => rw [flush, hnext]; rfl
  | @blocked _ results _ _ hnext hsaid =>
    cases results with
    | nil => rfl
    | cons r results =>
      obtain ⟨rfl, -⟩ := Prod.mk.inj hsaid
      rw [flush, hnext]
      rfl
  | @settled _ _ results _ _ _ _ _ hnext hsaid hr hrest ih =>
    cases results with
    | nil => exact absurd (Prod.mk.inj hsaid).1.symm hr
    | cons r results =>
      obtain ⟨rfl, rfl⟩ := Prod.mk.inj hsaid
      rw [flush, hnext]
      cases r with
      | wouldBlock => exact absurd rfl hr
      | sent => rw [ih]; rfl
      | refused => rw [ih]; rfl

/-- All attempts but the last settle a datagram, and so does the last unless datagrams are left.
Those that are settled are the first ones. -/
theorem exists_done (h : Flushes socket o s as o' s') :
    ∃ done, as = done ++ (o'.next?.map (Attempt.mk · .wouldBlock)).toList ∧
      (∀ a ∈ done, a.result ≠ .wouldBlock) ∧ done.map (·.datagram) ++ o'.queue = o.queue := by
  induction h with
  | empty hnext => exact ⟨[], by rw [hnext]; rfl, by simp, rfl⟩
  | blocked hnext hsaid => exact ⟨[], by rw [hnext]; rfl, by simp, rfl⟩
  | settled hnext hsaid hr hrest ih =>
    obtain ⟨done, has, hdone, hqueue⟩ := ih
    refine ⟨_ :: done, congrArg (_ :: ·) has, List.forall_mem_cons.mpr ⟨hr, hdone⟩, ?_⟩
    rw [queue_of_next? hnext, ← hqueue]
    rfl

/-- The attempts go through the outbox in its order, and each datagram comes up once. -/
theorem map_datagram_prefix (h : Flushes socket o s as o' s') :
    as.map (·.datagram) <+: o.queue := by
  obtain ⟨done, rfl, -, hqueue⟩ := h.exists_done
  rw [List.map_append, ← hqueue, List.prefix_append_right_inj, next?]
  cases o'.queue with
  | nil => exact List.nil_prefix
  | cons d ds => exact ⟨ds, rfl⟩

theorem length_le (h : Flushes socket o s as o' s') : as.length ≤ o.size := by
  have hle := h.map_datagram_prefix.length_le
  rwa [List.length_map] at hle

theorem settled_append_queue (h : Flushes socket o s as o' s') :
    Attempt.settled as ++ o'.queue = o.queue := by
  induction h with
  | empty hnext => rfl
  | blocked hnext hsaid => rfl
  | settled hnext hsaid hr hrest ih =>
    rw [Attempt.settled_cons hr, queue_of_next? hnext, ← ih]
    rfl

theorem counted (h : Flushes socket o s as o' s') (hcounted : o.Counted) : o'.Counted := by
  induction h with
  | empty hnext => exact hcounted
  | blocked hnext hsaid => exact hcounted
  | settled hnext hsaid hr hrest ih => exact ih ((rest_remove _).counted hcounted)

end Flushes

theorem Counted.pendingProbes_eq (h : o.Counted) :
    o.pendingProbes = o.queue.countP fun d => d.purpose = .probe := by
  rw [List.countP_eq_length_filter]
  exact h

/-! ## Flushes and postings in turn -/

/-- What may happen to an outbox and its socket. -/
inductive Turn where
  | post (destination : Endpoint) (payload : Bytes)
  | postProbe (destination : Endpoint) (payload : Bytes)
  | flush
deriving DecidableEq, Repr

/-- The datagrams that are posted. -/
def Turn.posted : Turn → List Datagram
  | .post destination payload => [⟨destination, payload, .reply⟩]
  | .postProbe destination payload => [⟨destination, payload, .probe⟩]
  | .flush => []

/-- The outbox and the state of the socket after a turn. -/
def takeTurn (o : Outbox) (socket : Socket σ) (s : σ) : Turn → Outbox × σ
  | .post destination payload => (o.post destination payload, s)
  | .postProbe destination payload => (o.postProbes [(destination, payload)], s)
  | .flush => o.flushTo socket s

/-- The outbox and the state of the socket after turns one after another. -/
def takeTurns (o : Outbox) (socket : Socket σ) (s : σ) : List Turn → Outbox × σ
  | [] => (o, s)
  | t :: turns =>
    let next := o.takeTurn socket s t
    next.1.takeTurns socket next.2 turns

theorem takeTurn_recorded (o : Outbox) (socket : Socket σ) (s : σ) (t : Turn) : ∃ as,
    (∀ log, o.takeTurn socket.recorded (s, log) t =
      ((o.takeTurn socket s t).1, (o.takeTurn socket s t).2, log ++ as)) ∧
    Attempt.settled as ++ (o.takeTurn socket s t).1.queue = o.queue ++ t.posted := by
  cases t with
  | post destination payload => exact ⟨[], fun log => by rw [List.append_nil]; rfl, rfl⟩
  | postProbe destination payload => exact ⟨[], fun log => by rw [List.append_nil]; rfl, rfl⟩
  | flush =>
    obtain ⟨as, has⟩ := o.exists_flushes socket s
    refine ⟨as, fun log => (has.recorded log).flushTo_eq, ?_⟩
    exact has.settled_append_queue.trans (List.append_nil _).symm

/-- The datagrams settled in any number of turns and those that are left are the ones that were
there and the ones that were posted, in their order. -/
theorem takeTurns_recorded (o : Outbox) (socket : Socket σ) (s : σ) (turns : List Turn) : ∃ as,
    (∀ log, o.takeTurns socket.recorded (s, log) turns =
      ((o.takeTurns socket s turns).1, (o.takeTurns socket s turns).2, log ++ as)) ∧
    Attempt.settled as ++ (o.takeTurns socket s turns).1.queue =
      o.queue ++ turns.flatMap Turn.posted := by
  induction turns generalizing o s with
  | nil => exact ⟨[], fun log => by rw [List.append_nil]; rfl, (List.append_nil _).symm⟩
  | cons t turns ih =>
    obtain ⟨as, has, hqueue⟩ := o.takeTurn_recorded socket s t
    obtain ⟨later, hlater, hrest⟩ := ih (o.takeTurn socket s t).1 (o.takeTurn socket s t).2
    refine ⟨as ++ later, fun log => ?_, ?_⟩
    · rw [takeTurns, has, hlater, List.append_assoc]
      rfl
    · rw [Attempt.settled_append, List.append_assoc, takeTurns, hrest, ← List.append_assoc, hqueue,
        List.append_assoc, List.flatMap_cons]

theorem Counted.takeTurns (h : o.Counted) (turns : List Turn) :
    (o.takeTurns socket s turns).1.Counted := by
  induction turns generalizing o s with
  | nil => exact h
  | cons t turns ih =>
    refine ih ?_
    cases t with
    | post destination payload => exact h.post
    | postProbe destination payload => exact h.postProbes _
    | flush =>
      obtain ⟨as, has⟩ := o.exists_flushes socket s
      exact has.counted h

/-- The attempts in a number of turns. -/
def attemptsInTurns (o : Outbox) (socket : Socket σ) (s : σ) (turns : List Turn) : List Attempt :=
  (o.takeTurns socket.recorded (s, []) turns).2.2

theorem settled_attemptsInTurns (o : Outbox) (socket : Socket σ) (s : σ) (turns : List Turn) :
    Attempt.settled (o.attemptsInTurns socket s turns) ++ (o.takeTurns socket s turns).1.queue =
      o.queue ++ turns.flatMap Turn.posted := by
  obtain ⟨as, has, hqueue⟩ := o.takeTurns_recorded socket s turns
  rwa [attemptsInTurns, has, List.nil_append]

/-- A flush offers the datagrams in their order, each once. It ends when none is left, or when the
socket has no room for one, which then stays at the front with all behind it; those before it are
sent or refused, and no other datagram leaves. The probes stay counted right.

From an empty outbox, however flushes and postings alternate, the datagrams that have been sent or
refused and those still there are the ones that were posted, in their order. So those that have
been sent come in the order of their posting, none more often than it was posted, and what has
been neither sent nor kept was refused. -/
theorem flushes_in_order (socket : Socket σ) (s : σ) :
    (∀ o : Outbox,
      let left := (o.flushTo socket s).1
      let as := o.attempts socket s
      (∃ done, as = done ++ (left.next?.map (Attempt.mk · .wouldBlock)).toList ∧
        (∀ a ∈ done, a.result ≠ .wouldBlock) ∧ done.map (·.datagram) ++ left.queue = o.queue) ∧
      (as.map (·.datagram) <+: o.queue ∧ as.length ≤ o.size) ∧
      o.flush (as.map (·.result)) =
        { sent := Attempt.withResult .sent as, refused := Attempt.withResult .refused as,
          outbox := left } ∧
      (o.Counted → left.pendingProbes = left.queue.countP fun d => d.purpose = .probe)) ∧
    (∀ (o : Outbox) (results : List SendResult),
      let as := o.attempts .scripted results
      o.flush results =
        { sent := Attempt.withResult .sent as, refused := Attempt.withResult .refused as,
          outbox := (o.flushTo .scripted results).1 }) ∧
    ∀ turns : List Turn,
      let left := (takeTurns {} socket s turns).1
      let as := attemptsInTurns {} socket s turns
      let posted := turns.flatMap Turn.posted
      Attempt.settled as ++ left.queue = posted ∧
      (Attempt.withResult .sent as).Sublist posted ∧
      (∀ d, (Attempt.withResult .sent as).count d + (Attempt.withResult .refused as).count d +
        left.queue.count d = posted.count d) ∧
      left.pendingProbes = left.queue.countP fun d => d.purpose = .probe := by
  refine ⟨fun o => ?_, fun o results => ?_, fun turns => ?_⟩
  · obtain ⟨as, has⟩ := o.exists_flushes socket s
    rw [has.attempts_eq]
    exact ⟨has.exists_done, ⟨has.map_datagram_prefix, has.length_le⟩, has.scripted.flush_eq,
      fun hcounted => (has.counted hcounted).pendingProbes_eq⟩
  · obtain ⟨as, has⟩ := o.exists_flushes .scripted results
    rw [has.attempts_eq]
    exact has.flush_eq
  · intro left as posted
    have hposted : Attempt.settled as ++ left.queue = posted :=
      settled_attemptsInTurns {} socket s turns
    refine ⟨hposted, ?_, fun d => ?_, (counted_empty.takeTurns turns).pendingProbes_eq⟩
    · rw [← hposted]
      exact (Attempt.withResult_sublist (by decide) as).trans (List.sublist_append_left _ _)
    · rw [← Attempt.count_settled, ← List.count_append, hposted]

end Outbox

end PortMapper
