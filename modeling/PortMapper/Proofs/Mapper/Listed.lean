import PortMapper.Proofs.Mapper.Hearing
import PortMapper.Proofs.Neighbours.Merging
import PortMapper.Proofs.Request.Codec

/-!
# Who stays listed

A daemon lists one address for each neighbour. An announcement takes one off the list
if it folds the record of this neighbour into that of another host, which it does
whenever one of the addresses announced is in the record
(`Neighbours.Sound.mem_addresses_announce_iff`). This need not be the address that is
listed: two hosts that have an address in common, such as that of a bridge which each
has for itself, become one record, and one of them is no longer listed
(`Mapper.shared_alias_hides_host`).

So the answer to a probe only hides hosts that it names exactly if no alias of another
host is among the addresses that it carries (`Mapper.hidden_iff_alias_carried`). If every
host only announces addresses that no other host has, no record mixes the addresses of
two hosts (`Mapper.run_unmixed`), and no host is hidden by another.
-/

namespace PortMapper

namespace Neighbours

variable {κ : Type} {hostOf : Address → κ} {t : Neighbours} {h : Host} {n n' : Neighbour}
  {a : Address} {announced : List Address} {now : Nat}

/-! ## Announcements -/

/-- No two records are listed by the same address. -/
theorem Sound.eq_of_address_eq (hs : t.Sound h) (hn : n ∈ t.records) (hn' : n' ∈ t.records)
    (heq : n'.address = n.address) : n' = n := by
  refine Decidable.byContradiction fun hne => ?_
  have hapart : n'.Apart n := hs.apart.forall hn' hn hne
  exact hapart.not_answersTo n'.answersTo_address (heq ▸ n.answersTo_address)

/-- The host heard at an address that is none of a neighbour's is listed by another address
than this neighbour. -/
theorem Sound.address_select_ne (hs : t.Sound h) (hn : n ∈ t.records)
    (ha : n.answersTo a = false) (now : Nat) : (t.select a now).1.address ≠ n.address := by
  intro heq
  rcases t.select_cases a now with ⟨n', hn', hanswers, hselect⟩ | ⟨-, hselect⟩
  · rw [hselect] at heq
    rw [hs.eq_of_address_eq hn hn' heq, ha] at hanswers
    cases hanswers
  · rw [hselect] at heq
    have hself := n.answersTo_address
    rw [← heq, ha] at hself
    cases hself

/-- The addresses of ours that are announced are none of a neighbour's anyway. -/
theorem Sound.meets_gathered_eq_false_iff (hs : t.Sound h) (hn : n ∈ t.records) :
    n.meets (gathered h a announced) = false ↔
      n.answersTo a = false ∧ ∀ b ∈ announced, n.answersTo b = false := by
  rw [← Bool.not_eq_true', Neighbour.not_meets_iff, gathered, List.forall_mem_cons]
  refine and_congr Iff.rfl ⟨fun hnone b hb => ?_, fun hnone b hb => ?_⟩
  · refine Bool.eq_false_iff.mpr fun hanswers => ?_
    have hforeign : h.owns b = false := hs.foreign n hn b hanswers
    rw [hnone b (List.mem_filter.mpr ⟨hb, by rw [hforeign]; rfl⟩)] at hanswers
    cases hanswers
  · exact hnone b (List.mem_filter.mp hb).1

/-- A neighbour is still listed after an announcement if it is the host that announces, or
if none of the addresses announced is one of its. -/
theorem Sound.mem_addresses_announce_iff (hs : t.Sound h) (ha : h.admits a = true)
    (hn : n ∈ t.records) (announced : List Address) (now : Nat) :
    n.address ∈ (t.announce h a announced now).2.addresses ↔
      n.answersTo a = true ∨ ∀ b ∈ announced, n.answersTo b = false := by
  obtain ⟨first, heq, haddress, -, -⟩ := announce_of_admits hs.apart ha announced now
  have hlisted : n.address ∈ (t.announce h a announced now).2.addresses ↔
      first.address = n.address ∨ n.meets (gathered h a announced) = false := by
    rw [heq, addresses, List.map_cons, List.mem_cons, eq_comm]
    refine or_congr Iff.rfl ⟨fun hmem => ?_, fun hmeets => ?_⟩
    · obtain ⟨n', hn', hsame⟩ := List.mem_map.mp hmem
      obtain ⟨hn', hmeets⟩ := List.mem_filter.mp hn'
      rw [Bool.not_eq_true'] at hmeets
      rwa [← hs.eq_of_address_eq hn hn' hsame]
    · exact List.mem_map_of_mem (List.mem_filter.mpr ⟨hn, by rw [hmeets]; rfl⟩)
  rw [hlisted, haddress, hs.meets_gathered_eq_false_iff hn]
  cases hanswers : n.answersTo a with
  | true => exact iff_of_true (.inl (hs.address_select_of_answersTo hn hanswers)) (.inl rfl)
  | false =>
    rw [or_iff_right (hs.address_select_ne hn hanswers now), or_iff_right Bool.false_ne_true]
    exact and_iff_right rfl

/-- What a neighbour answered to before an announcement, some neighbour answers to after it. -/
theorem Sound.exists_answersTo_announce (hs : t.Sound h) (hn : n ∈ t.records) {x : Address}
    (hx : n.answersTo x = true) (a : Address) (announced : List Address) (now : Nat) :
    ∃ n' ∈ (t.announce h a announced now).2.records, n'.answersTo x = true := by
  cases ha : h.admits a with
  | false =>
    rw [announce_of_not_admits ha]
    exact ⟨n, hn, hx⟩
  | true =>
    obtain ⟨first, heq, -, -, hiff⟩ := announce_of_admits hs.apart ha announced now
    rw [heq]
    cases hmeets : n.meets (gathered h a announced) with
    | true => exact ⟨first, List.mem_cons_self, (hiff x).mpr (.inr ⟨n, hn, hmeets, hx⟩)⟩
    | false =>
      refine ⟨n, List.mem_cons_of_mem first (List.mem_filter.mpr ⟨hn, ?_⟩), hx⟩
      rw [hmeets]
      rfl

/-! ## Addresses of one host -/

/-- Whether a host that is heard at `a` only announces addresses of its own, besides
those of ours. -/
def AnnouncesItself (hostOf : Address → κ) (h : Host) (a : Address) (announced : List Address) :
    Prop :=
  ∀ b ∈ announced, h.owns b = false → hostOf b = hostOf a

/-- Whether no record mixes the addresses of two hosts. -/
def Unmixed (hostOf : Address → κ) (t : Neighbours) : Prop :=
  ∀ n ∈ t.records, ∀ x, n.answersTo x = true → hostOf x = hostOf n.address

theorem Unmixed.of_sublist (hu : t.Unmixed hostOf) {t' : Neighbours}
    (hsub : t'.records.Sublist t.records) : t'.Unmixed hostOf :=
  fun n hn => hu n (hsub.subset hn)

theorem AnnouncesItself.of_mem_gathered (hitself : AnnouncesItself hostOf h a announced)
    {b : Address} (hb : b ∈ gathered h a announced) : hostOf b = hostOf a := by
  rcases List.mem_cons.mp hb with rfl | hb
  · rfl
  · obtain ⟨hb, hown⟩ := List.mem_filter.mp hb
    rw [Bool.not_eq_true'] at hown
    exact hitself b hb hown

theorem Unmixed.announce (hu : t.Unmixed hostOf) (hs : t.Sound h)
    (hitself : AnnouncesItself hostOf h a announced) (now : Nat) :
    (t.announce h a announced now).2.Unmixed hostOf := by
  cases ha : h.admits a with
  | false => rwa [announce_of_not_admits ha]
  | true =>
    obtain ⟨first, heq, -, -, hiff⟩ := announce_of_admits hs.apart ha announced now
    have hfirst : ∀ x, first.answersTo x = true → hostOf x = hostOf a := by
      intro x hx
      rcases (hiff x).mp hx with hx | ⟨n, hn, hmeets, hx⟩
      · exact hitself.of_mem_gathered hx
      · obtain ⟨b, hb, hanswers⟩ := Neighbour.meets_iff.mp hmeets
        calc hostOf x = hostOf n.address := hu n hn x hx
          _ = hostOf b := (hu n hn b hanswers).symm
          _ = hostOf a := hitself.of_mem_gathered hb
    rw [heq]
    refine List.forall_mem_cons.mpr ⟨fun x hx => ?_, fun n hn => hu n (List.mem_filter.mp hn).1⟩
    rw [hfirst x hx, hfirst _ first.answersTo_address]

end Neighbours

namespace Mapper

variable {κ : Type} {hostOf : Address → κ} {m : Mapper} {r : Request} {source : Endpoint}

/-! ## Runs -/

/-- As long as every host only announces addresses of its own, no record mixes those of
two hosts. -/
theorem run_unmixed (hm : m.neighbours.Sound m.host) (hu : m.neighbours.Unmixed hostOf)
    (os : List Occurrence)
    (hos : ∀ o ∈ os, ∀ a announced, o.event.heard? m.host m.port = some (a, announced) →
      Neighbours.AnnouncesItself hostOf m.host a announced) :
    (m.run os).neighbours.Unmixed hostOf := by
  induction os using List.reverseRecOn with
  | nil => exact hu
  | append_singleton os o ih =>
    have hrest := ih fun o' ho' => hos o' (List.mem_append_left _ ho')
    have hlast := hos o (List.mem_append_right _ List.mem_cons_self)
    have hsound := run_neighbours_sound hm os
    rw [← m.run_host os, ← m.run_port os] at hlast
    rw [← m.run_host os] at hsound
    rw [run_concat]
    rcases (m.run os).step_neighbours_cases o with ⟨a, announced, hheard, -, heq⟩ | ⟨hnone, -⟩
    · rw [heq]
      exact hrest.announce hsound (hlast a announced hheard) o.time
    · exact hrest.of_sublist (step_neighbours_sublist hnone)

/-! ## Answers to probes -/

/-- Whether a daemon takes notice of the answer to a probe from `source`. -/
def Heeds (m : Mapper) (source : Endpoint) : Prop :=
  source.port = m.port ∧ m.host.admits source.address = true

/-- The table after the answer to a probe. -/
theorem receive_probeReply_neighbours (m : Mapper) (isFree : Vacancy) (now : Nat)
    (source : Endpoint) {bytes : Bytes} (hr : Request.ofFrame bytes = .ok r)
    (hop : r.opcode = .probeReply) :
    (m.Heeds source → (m.receive isFree now bytes source).mapper.neighbours =
        (m.neighbours.announce m.host source.address (r.addresses.toOption.getD []) now).2) ∧
      (¬m.Heeds source →
        (m.receive isFree now bytes source).mapper.neighbours = m.neighbours) := by
  have hannounced : r.announced = r.addresses.toOption.getD [] := by
    simp only [Request.announced, hop]
  have hheard : r.isHeard m.host m.port source .udp = true ↔ m.Heeds source := by
    simp only [Request.isHeard, hop, Heeds, Bool.and_eq_true, beq_iff_eq, and_comm]
  rw [receive_neighbours m isFree now source hr, handle_neighbours, hannounced, ← hheard]
  exact ⟨fun h => if_pos h, fun h => if_neg h⟩

/-- A neighbour is still listed after the answer to a probe that is heeded if the answer comes
from it, or carries none of its addresses. -/
theorem mem_addresses_receive_probeReply_iff (hm : m.Reachable) (isFree : Vacancy) (now : Nat)
    (source : Endpoint) {bytes : Bytes} (hr : Request.ofFrame bytes = .ok r)
    (hop : r.opcode = .probeReply) {n : Neighbour} (hn : n ∈ m.neighbours.records) :
    n.address ∈ (m.receive isFree now bytes source).mapper.neighbours.addresses ↔
      (m.Heeds source → n.answersTo source.address = true ∨
        ∀ b ∈ r.addresses.toOption.getD [], n.answersTo b = false) := by
  obtain ⟨hheeds, hignores⟩ := m.receive_probeReply_neighbours isFree now source hr hop
  by_cases hheed : m.Heeds source
  · rw [hheeds hheed, hm.sound.mem_addresses_announce_iff hheed.2 hn]
    exact ⟨fun h _ => h, fun h => h hheed⟩
  · rw [hignores hheed]
    exact iff_of_true (List.mem_map_of_mem hn) fun h => absurd h hheed

/-- No address is forgotten by the answer to a probe. -/
theorem exists_answersTo_receive_probeReply (hm : m.Reachable) (isFree : Vacancy) (now : Nat)
    (source : Endpoint) {bytes : Bytes} (hr : Request.ofFrame bytes = .ok r)
    (hop : r.opcode = .probeReply) {n : Neighbour} (hn : n ∈ m.neighbours.records) {x : Address}
    (hx : n.answersTo x = true) :
    ∃ n' ∈ (m.receive isFree now bytes source).mapper.neighbours.records,
      n'.answersTo x = true := by
  obtain ⟨hheeds, hignores⟩ := m.receive_probeReply_neighbours isFree now source hr hop
  by_cases hheed : m.Heeds source
  · rw [hheeds hheed]
    exact hm.sound.exists_answersTo_announce hn hx ..
  · rw [hignores hheed]
    exact ⟨n, hn, hx⟩

/-- Which of the neighbours are still listed after the answer to a probe, if it is heeded:
the one that it comes from, and those none of whose addresses it carries. So it hides no
host that it does not name, exactly if no alias of such a host is among the addresses that
it carries. Whoever is hidden is still known, by the record of another host.

No host is hidden by another as long as every host only announces addresses that no other
has. -/
theorem hidden_iff_alias_carried (host : Host) (port : UInt16) (probing : Settings.Probing)
    (os : List Occurrence) (isFree : Vacancy) (now : Nat) (source : Endpoint) {bytes : Bytes}
    (hr : Request.ofFrame bytes = .ok r) (hop : r.opcode = .probeReply) :
    let m := (start host port probing).run os
    let carried := r.addresses.toOption.getD []
    let after := (m.receive isFree now bytes source).mapper.neighbours
    (∀ n ∈ m.neighbours.records, n.address ∈ after.addresses ↔
      (m.Heeds source →
        n.answersTo source.address = true ∨ ∀ b ∈ carried, n.answersTo b = false)) ∧
    ((∀ p ∈ m.neighbours.addresses, p ∉ carried → p ∈ after.addresses) ↔
      (m.Heeds source → ∀ n ∈ m.neighbours.records, n.answersTo source.address = false →
        n.address ∉ carried → ∀ b ∈ n.aliases, b ∉ carried)) ∧
    (∀ n ∈ m.neighbours.records, ∀ x, n.answersTo x = true →
      ∃ n' ∈ after.records, n'.answersTo x = true) ∧
    ∀ (κ : Type) (hostOf : Address → κ),
      (∀ o ∈ os, ∀ a announced, o.event.heard? host port = some (a, announced) →
        Neighbours.AnnouncesItself hostOf host a announced) →
      Neighbours.AnnouncesItself hostOf host source.address carried →
      ∀ p ∈ m.neighbours.addresses, hostOf p ≠ hostOf source.address → p ∈ after.addresses := by
  intro m carried after
  have hm : m.Reachable := ⟨host, port, probing, os, rfl⟩
  have hlisted : ∀ n ∈ m.neighbours.records, n.address ∈ after.addresses ↔
      (m.Heeds source →
        n.answersTo source.address = true ∨ ∀ b ∈ carried, n.answersTo b = false) :=
    fun n hn => mem_addresses_receive_probeReply_iff hm isFree now source hr hop hn
  refine ⟨hlisted, ⟨fun h hheed n hn hother hunnamed b hb hcarried => ?_, fun h p hp hunnamed => ?_⟩,
    fun n hn x hx => exists_answersTo_receive_probeReply hm isFree now source hr hop hn hx,
    fun κ hostOf hos hitself p hp hother => ?_⟩
  · have hstays := h n.address (List.mem_map_of_mem hn) hunnamed
    rcases (hlisted n hn).mp hstays hheed with hsame | hnone
    · rw [hother] at hsame
      cases hsame
    · have hanswers : n.answersTo b = true := Neighbour.answersTo_iff.mpr (.inr hb)
      rw [hnone b hcarried] at hanswers
      cases hanswers
  · obtain ⟨n, hn, rfl⟩ := List.mem_map.mp hp
    refine (hlisted n hn).mpr fun hheed => ?_
    cases hother : n.answersTo source.address with
    | true => exact .inl rfl
    | false =>
      refine .inr fun b hb => Bool.eq_false_iff.mpr fun hanswers => ?_
      rcases Neighbour.answersTo_iff.mp hanswers with rfl | halias
      · exact hunnamed hb
      · exact h hheed n hn hother hunnamed b halias hb
  · have hunmixed : m.neighbours.Unmixed hostOf :=
      run_unmixed (Neighbours.sound_empty host) (fun _ hn => by cases hn) os hos
    have hhost : m.host = host := run_host _ os
    obtain ⟨n, hn, rfl⟩ := List.mem_map.mp hp
    refine (hlisted n hn).mpr fun _ => .inr fun b hb => Bool.eq_false_iff.mpr fun hanswers => ?_
    have hown : host.owns b = false := hhost ▸ hm.sound.foreign n hn b hanswers
    exact hother ((hunmixed n hn b hanswers).symm.trans (hitself b hb hown))

/-- A host whose bridge has the address that another host's bridge was announced with. It
takes this one off the list, but not a third. -/
theorem third_host_stays_listed :
    let address (a : UInt8) : Address := .ofOctets 192 168 1 a
    let bridge : Address := .ofOctets 172 17 0 1
    let host : Host := ⟨[.ofAddress (address 10) (.ofOctets 255 255 255 0) none]⟩
    let isFree : Vacancy := fun _ => false
    let heard (time : Nat) (a : UInt8) (r : Request) : Occurrence :=
      ⟨time, isFree, .datagram r.frame ⟨address a, 538⟩⟩
    let os := [heard 0 20 (.probeReply (address 20) (address 10) [bridge]),
      heard 1 30 (.probe (address 30) (address 10))]
    let r : Request := .probeReply (address 21) (address 10) [bridge]
    let m := (start host 538 {}).run os
    let after := (m.receive isFree 2 r.frame ⟨address 21, 538⟩).mapper.neighbours
    Request.ofFrame r.frame = .ok r ∧ r.opcode = .probeReply ∧
      m.neighbours.records = [⟨address 30, [], 1⟩, ⟨address 20, [bridge], 0⟩] ∧
      address 30 ∈ after.addresses ∧ address 20 ∉ after.addresses ∧
      ∃ n ∈ after.records, n.answersTo (address 20) = true := by
  intro address bridge host isFree heard os r m after
  have hr : Request.ofFrame r.frame = .ok r :=
    Request.ofFrame_frame (Request.length_name_probeReply ..)
  have hcarried : r.addresses.toOption.getD [] = [address 21, address 10, bridge] := by
    decide +kernel
  have hrecords : m.neighbours.records =
      [⟨address 30, [], 1⟩, ⟨address 20, [bridge], 0⟩] := by decide +kernel
  have hport : m.port = 538 := by decide +kernel
  have hadmits : m.host.admits (address 21) = true := by decide +kernel
  have hall := hidden_iff_alias_carried host 538 {} os isFree 2 ⟨address 21, 538⟩ hr rfl
  rw [show (start host 538 {}).run os = m from rfl, hcarried] at hall
  clear_value m
  obtain ⟨hlisted, -, hknown, -⟩ := hall
  rw [hrecords] at hlisted hknown
  have hthird := hlisted ⟨address 30, [], 1⟩ (by simp)
  have hsecond := hlisted ⟨address 20, [bridge], 0⟩ (by simp)
  refine ⟨hr, rfl, hrecords, hthird.mpr fun _ => .inr (by decide +kernel), fun hmem => ?_,
    hknown ⟨address 20, [bridge], 0⟩ (by simp) (address 20) (by decide +kernel)⟩
  rcases hsecond.mp hmem ⟨hport.symm, hadmits⟩ with hsame | hnone
  · exact absurd hsame (by decide +kernel)
  · exact absurd (hnone bridge (by simp)) (by decide +kernel)

/-- Two hosts announce an address that they have in common, each together with one of its
own. Once the second has done so, the first is not listed any more, which the second has not
named. -/
theorem shared_alias_hides_host :
    let address (a : UInt8) : Address := .ofOctets 192 168 1 a
    let bridge : Address := .ofOctets 172 17 0 1
    let host : Host := ⟨[.ofAddress (address 10) (.ofOctets 255 255 255 0) none]⟩
    let isFree : Vacancy := fun _ => false
    let reply (a : UInt8) : Request := .probeReply (address a) (address 10) [bridge]
    let m := (start host 538 {}).run [⟨0, isFree, .datagram (reply 20).frame ⟨address 20, 538⟩⟩]
    let after := (m.receive isFree 1 (reply 21).frame ⟨address 21, 538⟩).mapper.neighbours
    (reply 21).opcode = .probeReply ∧
      (reply 21).addresses.toOption = some [address 21, address 10, bridge] ∧
      m.neighbours.addresses = [address 20] ∧ after.addresses = [address 21] ∧
      ¬∀ p ∈ m.neighbours.addresses,
        p ∉ (reply 21).addresses.toOption.getD [] → p ∈ after.addresses := by
  decide +kernel

end Mapper

end PortMapper
