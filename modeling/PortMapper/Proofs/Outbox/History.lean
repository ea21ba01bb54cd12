import PortMapper.Proofs.Outbox

/-!
# What goes through the outbox

Datagrams leave the outbox in the order in which they were posted, and none is lost or sent
twice: whatever is done with an outbox, those that have been taken out and those still in it are
the ones that were in it and those that were posted since (`Outbox.taken_append_queue`). The
probes are counted right all the time, so that one is taken off the count only if it was on it
(`Outbox.Counted.pendingProbes_take`).
-/

namespace PortMapper

namespace Outbox

/-- What may be done with an outbox. -/
inductive Operation where
  | post (destination : Endpoint) (payload : Bytes)
  | postProbe (destination : Endpoint) (payload : Bytes)
  | next
  | take
  | takeAll
deriving DecidableEq, Repr

/-- The datagrams that an operation posts. -/
def Operation.posted : Operation → List Datagram
  | .post destination payload => [⟨destination, payload, .reply⟩]
  | .postProbe destination payload => [⟨destination, payload, .probe⟩]
  | _ => []

/-- Whether an operation takes datagrams out. -/
def Operation.takesOut : Operation → Bool
  | .take | .takeAll => true
  | _ => false

/-- The datagrams that an operation takes out, and the outbox after it. -/
def perform (o : Outbox) : Operation → List Datagram × Outbox
  | .post destination payload => ([], o.post destination payload)
  | .postProbe destination payload => ([], o.postProbes [(destination, payload)])
  | .next => ([], o)
  | .take => (o.take.1.toList, o.take.2)
  | .takeAll => o.takeAll

/-- The datagrams that operations take out one after another, and the outbox after them. -/
def performAll (o : Outbox) : List Operation → List Datagram × Outbox
  | [] => ([], o)
  | op :: ops =>
    let (ds, o) := o.perform op
    let (later, o) := o.performAll ops
    (ds ++ later, o)

variable {o : Outbox} {d : Datagram} {op : Operation} {ops : List Operation}

/-! ## One operation -/

theorem take_toList_append_queue (o : Outbox) : o.take.1.toList ++ o.take.2.queue = o.queue := by
  change o.queue.head?.toList ++ o.remove.queue = o.queue
  rw [queue_remove]
  cases o.queue <;> rfl

/-- What an operation takes out and what it leaves are what was there and what it posts. -/
theorem perform_append_queue (o : Outbox) (op : Operation) :
    (o.perform op).1 ++ (o.perform op).2.queue = o.queue ++ op.posted := by
  cases op with
  | post destination payload => rfl
  | postProbe destination payload => rfl
  | next => exact (List.append_nil _).symm
  | take => exact o.take_toList_append_queue.trans (List.append_nil _).symm
  | takeAll => rfl

theorem perform_of_takesOut (h : op.takesOut = false) : (o.perform op).1 = [] := by
  cases op with
  | take => cases h
  | takeAll => cases h
  | _ => rfl

theorem Counted.perform (h : o.Counted) (op : Operation) : (o.perform op).2.Counted := by
  cases op with
  | post destination payload => exact h.post
  | postProbe destination payload => exact h.postProbes _
  | next => exact h
  | take => exact o.rest_remove.counted h
  | takeAll => exact o.rest_takeAll.counted h

/-- The count goes down by one exactly if a probe is taken out. -/
theorem Counted.pendingProbes_take (h : o.Counted) (hnext : o.next? = some d) :
    o.take.2.pendingProbes + (if d.purpose = .probe then 1 else 0) = o.pendingProbes := by
  obtain ⟨rest, hqueue⟩ : ∃ rest, o.queue = d :: rest := List.head?_eq_some_iff.mp hnext
  have hafter : o.take.2.Counted := o.rest_remove.counted h
  have hrest : o.take.2.queue = rest := by
    change o.remove.queue = rest
    rw [queue_remove, hqueue, List.tail_cons]
  rw [Counted, probes, hrest] at hafter
  rw [Counted, probes, hqueue] at h
  by_cases hd : d.purpose = .probe
  · rw [if_pos hd, hafter, h, List.filter_cons_of_pos (by simpa using hd), List.length_cons]
  · rw [if_neg hd, hafter, h, List.filter_cons_of_neg (by simpa using hd), Nat.add_zero]

/-! ## Any number of operations -/

theorem performAll_append_queue (o : Outbox) (ops : List Operation) :
    (o.performAll ops).1 ++ (o.performAll ops).2.queue =
      o.queue ++ ops.flatMap Operation.posted := by
  induction ops generalizing o with
  | nil => exact (List.append_nil _).symm
  | cons op ops ih =>
    have hfirst := o.perform_append_queue op
    have hlater := ih (o.perform op).2
    change ((o.perform op).1 ++ ((o.perform op).2.performAll ops).1) ++
      ((o.perform op).2.performAll ops).2.queue = _
    rw [List.append_assoc, hlater, ← List.append_assoc, hfirst, List.append_assoc,
      List.flatMap_cons]

theorem performAll_of_takesOut (h : ∀ op ∈ ops, op.takesOut = false) :
    (o.performAll ops).1 = [] := by
  induction ops generalizing o with
  | nil => rfl
  | cons op ops ih =>
    obtain ⟨hop, hops⟩ := List.forall_mem_cons.mp h
    change (o.perform op).1 ++ ((o.perform op).2.performAll ops).1 = []
    rw [perform_of_takesOut hop, ih hops, List.append_nil]

theorem Counted.performAll (h : o.Counted) (ops : List Operation) :
    (o.performAll ops).2.Counted := by
  induction ops generalizing o with
  | nil => exact h
  | cons op ops ih => exact ih (h.perform op)

/-- The datagram to be sent next stays so until it is taken out. -/
theorem take_performAll (h : ∀ op ∈ ops, op.takesOut = false) (hnext : o.next? = some d) :
    (o.performAll ops).2.take.1 = some d := by
  have hqueue := o.performAll_append_queue ops
  rw [performAll_of_takesOut h, List.nil_append] at hqueue
  change (o.performAll ops).2.queue.head? = some d
  rw [hqueue, List.head?_append_of_ne_nil _ (List.ne_nil_of_mem (List.mem_of_head? hnext))]
  exact hnext

/-- Whatever is done with an empty outbox, the datagrams taken out so far and those still in it
are the ones that were posted, in their order. The next one is the first of them that has not been
taken out, and it will be taken out next, whatever is posted before. The count of the probes is
that of the probes still there; it goes down by one when a probe is taken out, and is 0 when
nothing is left. -/
theorem taken_append_queue (ops : List Operation) :
    let taken := (performAll {} ops).1
    let o := (performAll {} ops).2
    let posted := ops.flatMap Operation.posted
    taken ++ o.queue = posted ∧
      (o.next? = posted[taken.length]? ∧ o.take.1 = posted[taken.length]? ∧
        o.takeAll.1 = posted.drop taken.length) ∧
      (∀ d more, o.next? = some d → (∀ op ∈ more, op.takesOut = false) →
        (o.performAll more).2.take.1 = some d) ∧
      o.pendingProbes = o.queue.countP (fun d => d.purpose = .probe) ∧
      (∀ d, o.next? = some d →
        o.take.2.pendingProbes + (if d.purpose = .probe then 1 else 0) = o.pendingProbes) ∧
      (o.isEmpty = true → o.pendingProbes = 0) := by
  intro taken o posted
  have hposted : taken ++ o.queue = posted := performAll_append_queue {} ops
  have hleft : o.queue = posted.drop taken.length := by rw [← hposted, List.drop_left]
  have hnext : o.queue.head? = posted[taken.length]? := by rw [hleft, List.head?_drop]
  have hcounted : o.Counted := counted_empty.performAll ops
  refine ⟨hposted, ⟨hnext, hnext, hleft⟩, fun d more hd hmore => take_performAll hmore hd, ?_,
    fun d hd => hcounted.pendingProbes_take hd, fun hempty => ?_⟩
  · rw [List.countP_eq_length_filter]
    exact hcounted
  · rw [show o.pendingProbes = o.probes.length from hcounted, probes, List.isEmpty_iff.mp hempty]
    rfl

end Outbox

end PortMapper
