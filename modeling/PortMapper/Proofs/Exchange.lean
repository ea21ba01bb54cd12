import PortMapper.Proofs.Mapper.Provoked

/-!
# Daemons that exchange datagrams

Any number of daemons send what waits in their outboxes, and take in what is
on its way, in any order (`Exchange.Move`). Nobody vouches for the datagrams:
they hold any bytes, claim any source, get lost, and reach any daemon.

Such an exchange dies out (`Exchange.dies_out`). Every datagram is worth
something, the more the further it is from being taken in, and the most if it
may be answered (`Exchange.worth`). A move pays for itself and for the answer
that it provokes out of the worth of the datagram that it moves
(`Exchange.Tariff`), so that what there was at first bounds both the number of
answers and that of moves (`Exchange.Run.worth_le`).
-/

namespace PortMapper

/-- A datagram on its way, with the source that it claims. -/
structure Packet where
  source : Endpoint
  payload : Bytes
deriving DecidableEq, Repr

/-- Daemons, and the datagrams on their way. -/
structure Exchange where
  mappers : List Mapper
  underway : List Packet
deriving DecidableEq, Repr

namespace Exchange

/-- The datagrams that wait to be sent. -/
def waiting (x : Exchange) : List Datagram := x.mappers.flatMap (·.outbox.queue)

/-- One thing that may happen, and the answers that are queued when it does. -/
inductive Move : Exchange → List Datagram → Exchange → Prop
  /-- A daemon sends its next datagram. -/
  | send {l r : List Mapper} {m : Mapper} {d : Datagram} {ps : List Packet} (source : Endpoint)
      (h : m.outbox.next? = some d) :
      Move ⟨l ++ m :: r, ps⟩ []
        ⟨l ++ { m with outbox := m.outbox.remove } :: r, ⟨source, d.payload⟩ :: ps⟩
  /-- A datagram does not arrive. -/
  | lose {ms : List Mapper} {ps qs : List Packet} {p : Packet} :
      Move ⟨ms, ps ++ p :: qs⟩ [] ⟨ms, ps ++ qs⟩
  /-- A daemon takes in a datagram. -/
  | deliver {l r : List Mapper} {m : Mapper} {ps qs : List Packet} {p : Packet}
      (isFree : Vacancy) (now : Nat) :
      Move ⟨l ++ m :: r, ps ++ p :: qs⟩ (m.provoked isFree now p.payload p.source)
        ⟨l ++ (m.receive isFree now p.payload p.source).mapper :: r, ps ++ qs⟩

/-- A number of moves one after another, and all the answers that are queued. -/
inductive Run : Exchange → Nat → List Datagram → Exchange → Prop
  | nil (x : Exchange) : Run x 0 [] x
  | cons {x x' x'' : Exchange} {n : Nat} {ds es : List Datagram} (move : Move x ds x')
      (run : Run x' n es x'') : Run x (n + 1) (ds ++ es) x''

/-! ## Worth -/

/-- What the datagrams are worth, if each is worth so much on its way, and so
much as long as it waits. -/
def worth (underway waiting : Bytes → Nat) (x : Exchange) : Nat :=
  (x.underway.map fun p => underway p.payload).sum + (x.waiting.map fun d => waiting d.payload).sum

/-- Whether the worth of datagrams pays for what becomes of them, if every move
and every answer costs so much. -/
structure Tariff (underway waiting : Bytes → Nat) (move answer : Nat) : Prop where
  send (bytes : Bytes) : underway bytes + move ≤ waiting bytes
  lose (bytes : Bytes) : move ≤ underway bytes
  provoke {bytes reply : Bytes} : Mapper.mayProvoke bytes = true →
    Mapper.mayProvoke reply = false → waiting reply + answer + move ≤ underway bytes

variable {underway waiting : Bytes → Nat} {move answer : Nat} {x x' : Exchange} {n : Nat}
  {ds : List Datagram}

theorem Move.worth_le (t : Tariff underway waiting move answer) (h : Move x ds x') :
    x'.worth underway waiting + ds.length * answer + move ≤ x.worth underway waiting := by
  cases h with
  | @send l r m d ps source hnext =>
    obtain ⟨rest, hqueue⟩ := List.head?_eq_some_iff.mp hnext
    have hpays := t.send d.payload
    simp only [worth, Exchange.waiting, List.flatMap_append, List.flatMap_cons,
      Outbox.queue_remove, hqueue, List.tail_cons, List.map_cons, List.map_append, List.sum_cons,
      List.sum_append, List.length_nil, List.cons_append]
    omega
  | @lose ms ps qs p =>
    have hpays := t.lose p.payload
    simp only [worth, Exchange.waiting, List.map_append, List.map_cons, List.sum_append,
      List.sum_cons, List.length_nil]
    omega
  | @deliver l r m ps qs p isFree now =>
    obtain ⟨hqueue, hprovoked | ⟨hmay, reply, hprovoked, -, hreply⟩⟩ :=
      m.queue_receive isFree now p.payload p.source
    · have hpays := t.lose p.payload
      simp only [worth, Exchange.waiting, List.flatMap_append, List.flatMap_cons, hqueue, hprovoked,
        List.append_nil, List.map_append, List.map_cons, List.sum_append, List.sum_cons,
        List.length_nil]
      omega
    · have hpays := t.provoke hmay hreply
      simp only [worth, Exchange.waiting, List.flatMap_append, List.flatMap_cons, hqueue, hprovoked,
        List.map_append, List.map_cons, List.map_nil, List.sum_append, List.sum_cons, List.sum_nil,
        List.length_cons, List.length_nil]
      omega

theorem Run.worth_le (t : Tariff underway waiting move answer) (h : Run x n ds x') :
    x'.worth underway waiting + ds.length * answer + n * move ≤ x.worth underway waiting := by
  induction h with
  | nil x => simp
  | cons hmove _ ih =>
    have hfirst := hmove.worth_le t
    rw [List.length_append, Nat.add_mul, Nat.add_one_mul]
    omega

/-- What the datagrams are worth at most. -/
theorem worth_le {a b : Nat} (hunderway : ∀ bytes, underway bytes ≤ a)
    (hwaiting : ∀ bytes, waiting bytes ≤ b) (x : Exchange) :
    x.worth underway waiting ≤ x.underway.length * a + x.waiting.length * b := by
  have h₁ := List.sum_le_card_nsmul (x.underway.map fun p => underway p.payload) a
    (by simp [hunderway])
  have h₂ := List.sum_le_card_nsmul (x.waiting.map fun d => waiting d.payload) b
    (by simp [hwaiting])
  rw [List.length_map, smul_eq_mul] at h₁ h₂
  exact Nat.add_le_add h₁ h₂

/-- Every datagram that may be answered is worth the answer. -/
theorem tariff_answers :
    let worth := fun bytes => if Mapper.mayProvoke bytes then 1 else 0
    Tariff worth worth 0 1 where
  send bytes := le_rfl
  lose bytes := Nat.zero_le _
  provoke hmay hreply := by simp [hmay, hreply]

/-- Every datagram is worth the moves until it is lost or taken in, and those
of the answer if it may be answered. -/
theorem tariff_moves :
    Tariff (fun bytes => if Mapper.mayProvoke bytes then 3 else 1)
      (fun bytes => if Mapper.mayProvoke bytes then 4 else 2) 1 0 where
  send bytes := by split <;> decide
  lose bytes := by split <;> decide
  provoke hmay hreply := by simp [hmay, hreply]

/-- A daemon in any state answers a datagram with at most one, which goes back
to where the datagram claims to come from, is not longer, and is inert. However
many daemons there are, whatever they know, and whatever waits and is on its
way at first, they queue no more answers than there were datagrams, and after
a bounded number of moves nothing is left to happen. -/
theorem dies_out :
    (∀ (m : Mapper) (isFree : Vacancy) (now : Nat) (bytes : Bytes) (source : Endpoint),
      (m.receive isFree now bytes source).mapper.outbox.queue =
          m.outbox.queue ++ m.provoked isFree now bytes source ∧
        (m.provoked isFree now bytes source).length ≤ 1 ∧
        ∀ d ∈ m.provoked isFree now bytes source,
          d.destination = source ∧ d.payload.length ≤ bytes.length ∧ Mapper.Inert d.payload) ∧
    ∀ (x : Exchange) (n : Nat) (ds : List Datagram) (x' : Exchange), Run x n ds x' →
      ds.length ≤ x.underway.length + x.waiting.length ∧
        n ≤ x.underway.length * 3 + x.waiting.length * 4 := by
  constructor
  · intro m isFree now bytes source
    obtain ⟨hqueue, hprovoked | ⟨-, reply, hprovoked, hlength, hreply⟩⟩ :=
      m.queue_receive isFree now bytes source
    · rw [hprovoked] at hqueue ⊢
      exact ⟨hqueue, Nat.zero_le 1, fun d hd => absurd hd List.not_mem_nil⟩
    · rw [hprovoked] at hqueue ⊢
      refine ⟨hqueue, le_rfl, fun d hd => ?_⟩
      rw [List.mem_singleton] at hd
      subst hd
      exact ⟨rfl, hlength, Mapper.inert_of_not_mayProvoke hreply⟩
  · intro x n ds x' h
    have hanswers := h.worth_le tariff_answers
    have hmoves := h.worth_le tariff_moves
    have hone (bytes : Bytes) : (if Mapper.mayProvoke bytes then 1 else 0) ≤ 1 := by
      split <;> decide
    have hthree (bytes : Bytes) : (if Mapper.mayProvoke bytes then 3 else 1) ≤ 3 := by
      split <;> decide
    have hfour (bytes : Bytes) : (if Mapper.mayProvoke bytes then 4 else 2) ≤ 4 := by
      split <;> decide
    have h₁ := worth_le hone hone x
    have h₂ := worth_le hthree hfour x
    constructor
    · omega
    · omega

/-- Two daemons on a network: a probe on its way from one to the other is
answered, and the answer is not. No exchange that starts like this has more
answers or moves. -/
theorem probe_dies_out :
    let address (a : UInt8) : Address := .ofOctets 192 168 1 a
    let daemon (a : UInt8) : Mapper :=
      .start ⟨[.ofAddress (address a) (.ofOctets 255 255 255 0) none]⟩ 538 {}
    let probe : Packet := ⟨⟨address 10, 538⟩, (Request.probe (address 10) (address 11)).frame⟩
    let x : Exchange := ⟨[daemon 10, daemon 11], [probe]⟩
    (∃ ds x', Run x 3 ds x' ∧ ds.length = 1) ∧
      ∀ n ds x', Run x n ds x' → ds.length ≤ 1 ∧ n ≤ 3 := by
  intro address daemon probe x
  constructor
  · let isFree : Vacancy := fun _ => false
    let asked := ((daemon 11).receive isFree 0 probe.payload probe.source).mapper
    let answered : Mapper := { asked with outbox := asked.outbox.remove }
    let answer := ((daemon 11).probeReply (address 10)).frame
    have hanswer : asked.outbox.next? = some ⟨probe.source, answer, .reply⟩ := by decide +kernel
    let packet : Packet := ⟨⟨address 11, 538⟩, answer⟩
    have hprobe : Move x _ ⟨[daemon 10, asked], []⟩ :=
      @Move.deliver [daemon 10] [] (daemon 11) [] [] probe isFree 0
    have hsend : Move ⟨[daemon 10, asked], []⟩ [] ⟨[daemon 10, answered], [packet]⟩ :=
      @Move.send [daemon 10] [] asked _ [] ⟨address 11, 538⟩ hanswer
    have hreply : Move ⟨[daemon 10, answered], [packet]⟩ _ _ :=
      @Move.deliver [] [answered] (daemon 10) [] [] packet isFree 1
    exact ⟨_, _, .cons hprobe (.cons hsend (.cons hreply (.nil _))), by decide +kernel⟩
  · intro n ds x' h
    have hunderway : x.underway.length = 1 := rfl
    have hwaiting : x.waiting.length = 0 := rfl
    have hbounds := dies_out.2 x n ds x' h
    rw [hunderway, hwaiting] at hbounds
    exact hbounds

end Exchange

end PortMapper
