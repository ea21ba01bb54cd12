import Mathlib.Data.List.Basic
import PortMapper.Outbox

/-!
# The probes in the outbox

The outbox counts the probes among its datagrams (`Outbox.Counted`), and every
operation keeps the count right. Posting an answer leaves the probes as they are
and posting probes adds them at the end; whatever takes datagrams out takes them
from the front (`Outbox.Rest`).
-/

namespace PortMapper

namespace Outbox

/-- The probes among the datagrams, in their order. -/
def probes (o : Outbox) : List Datagram := o.queue.filter fun d => d.purpose = .probe

/-- Whether the probes are counted right. -/
def Counted (o : Outbox) : Prop := o.pendingProbes = o.probes.length

/-- Whether one outbox is what is left of another when datagrams have been taken
out. -/
structure Rest (o' o : Outbox) : Prop where
  queue : o'.queue <:+ o.queue
  counted : o.Counted → o'.Counted

variable {o o' o'' : Outbox} {destination : Endpoint} {payload : Bytes}

theorem mem_probes {d : Datagram} : d ∈ o.probes ↔ d ∈ o.queue ∧ d.purpose = .probe := by
  rw [probes, List.mem_filter, decide_eq_true_eq]

/-- Probes are pending if one of the datagrams is a probe. -/
theorem Counted.pendingProbes_pos_iff (h : o.Counted) :
    0 < o.pendingProbes ↔ ∃ d ∈ o.queue, d.purpose = .probe := by
  rw [show o.pendingProbes = o.probes.length from h, List.length_pos_iff_exists_mem]
  simp only [mem_probes]

/-! ## Adding datagrams -/

@[simp] theorem probes_post (o : Outbox) (destination : Endpoint) (payload : Bytes) :
    (o.post destination payload).probes = o.probes := by
  simp [probes]

@[simp] theorem probes_postProbes (o : Outbox) (ps : List (Endpoint × Bytes)) :
    (o.postProbes ps).probes = o.probes ++ ps.map fun p => ⟨p.1, p.2, .probe⟩ := by
  have hall : ∀ d ∈ ps.map fun p => (⟨p.1, p.2, .probe⟩ : Datagram),
      decide (d.purpose = .probe) = true := by
    intro d hd
    obtain ⟨p, -, rfl⟩ := List.mem_map.mp hd
    rfl
  rw [probes, queue_postProbes, List.filter_append, List.filter_eq_self.mpr hall, probes]

theorem counted_empty : Counted {} := rfl

theorem Counted.post (h : o.Counted) : (o.post destination payload).Counted := by
  rw [Counted, probes_post]
  exact h

theorem Counted.postProbes (h : o.Counted) (ps : List (Endpoint × Bytes)) :
    (o.postProbes ps).Counted := by
  rw [Counted, probes_postProbes, List.length_append, List.length_map, ← h]
  rfl

/-! ## Taking datagrams out -/

theorem Rest.refl (o : Outbox) : o.Rest o := ⟨List.suffix_rfl, id⟩

theorem Rest.trans (h : o''.Rest o') (h' : o'.Rest o) : o''.Rest o :=
  ⟨h.queue.trans h'.queue, fun hcounted => h.counted (h'.counted hcounted)⟩

theorem Rest.probes (h : o'.Rest o) : o'.probes <:+ o.probes := h.queue.filter _

theorem rest_remove (o : Outbox) : o.remove.Rest o := by
  refine ⟨?_, fun h => ?_⟩
  · rw [queue_remove]
    exact List.tail_suffix _
  · obtain ⟨queue, pending⟩ := o
    cases queue with
    | nil => exact h
    | cons d queue =>
      change pending = _ at h
      change (if d.purpose = .probe then pending - 1 else pending) = _
      by_cases hd : d.purpose = .probe
      · rw [if_pos hd, h, Outbox.probes, List.filter_cons_of_pos (by simpa using hd)]
        rfl
      · rw [if_neg hd, h, Outbox.probes, List.filter_cons_of_neg (by simpa using hd)]
        rfl

theorem rest_takeAll (o : Outbox) : o.takeAll.2.Rest o := ⟨List.nil_suffix, fun _ => rfl⟩

theorem rest_flush (o : Outbox) (results : List SendResult) : (o.flush results).outbox.Rest o := by
  induction results generalizing o with
  | nil => exact .refl o
  | cons r results ih =>
    rw [flush]
    split
    · exact .refl o
    · cases r with
      | wouldBlock => exact .refl o
      | sent => exact (ih o.remove).trans o.rest_remove
      | refused => exact (ih o.remove).trans o.rest_remove

end Outbox

end PortMapper
