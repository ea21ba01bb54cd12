import PortMapper.Proofs.Service.History
import PortMapper.Proofs.Session

/-!
# The connections of a service

What is known of a connection at each of its stages (`Service.Progress`). Until it has
all of its request, it has received what arrived on it, and nothing else is done for
it. The request is then put into the channel once, and taken from there once; from
then on the history holds it with the outcome (`Service.HandledOnce`). What the
connection has written and what is left for it to write is the reply of this outcome,
and if writing fails, the reply is cut there.

`Service.Consistent` says this of all connections. Every turn keeps it
(`Service.Consistent.turn`): whatever is done for a connection moves it on to a stage
of which what is known holds again, and tells nothing of the others
(`Service.Consistent.move`).
-/

namespace PortMapper

namespace Service

/-- Whether no event of a history is of a connection. -/
def Untaken (H : List Entry) (i : Nat) : Prop := ∀ e ∈ H, e.connection ≠ some i

/-- Whether exactly one event of a history is of a connection: its request, which came
to this outcome when the mapper took it. -/
def HandledOnce (m : Mapper) (H : List Entry) (i : Nat) (r : Request) (source : Endpoint)
    (outcome : Outcome) : Prop :=
  ∃ before time isFree after,
    H = before ++ ⟨some i, time, isFree, .request r source .tcp⟩ :: after ∧
      Untaken before i ∧ Untaken after i ∧
      ((m.run (before.map (·.occurrence))).handle isFree time r source .tcp).outcome = outcome

/-- The requests of a connection in the channel. -/
def queued (commands : List Command) (i : Nat) : List Command :=
  commands.filter (·.connection = i)

/-- Whether some bytes begin with a request. -/
def Carries (bytes : Bytes) (r : Request) : Prop :=
  frameSize ≤ bytes.length ∧ Request.ofFrame (bytes.take frameSize) = .ok r

/-- What is known of a connection on which some bytes have arrived, and where writing may
have failed after some others. -/
inductive Progress (m : Mapper) (H : List Entry) (commands : List Command) (i : Nat)
    (arrived : Bytes) (failed : Bytes → Prop) : Connection → Prop
  | reading {source : Endpoint} (short : arrived.length < frameSize) (untaken : Untaken H i)
      (none_queued : queued commands i = []) :
      Progress m H commands i arrived failed ⟨some source, .reading arrived⟩
  | sending {source : Endpoint} {r : Request} (carries : Carries arrived r)
      (untaken : Untaken H i) (none_queued : queued commands i = []) :
      Progress m H commands i arrived failed ⟨some source, .sending source r⟩
  | waiting {source : Endpoint} {r : Request} (carries : Carries arrived r)
      (untaken : Untaken H i) (one_queued : queued commands i = [⟨i, source, r⟩]) :
      Progress m H commands i arrived failed ⟨some source, .waiting⟩
  | replying {source : Endpoint} {r : Request} {outcome : Outcome} {written rest : Bytes}
      (carries : Carries arrived r) (handled : HandledOnce m H i r source outcome)
      (none_queued : queued commands i = []) (h : written ++ rest = outcome.written) :
      Progress m H commands i arrived failed ⟨some source, .replying written rest⟩
  | served {source : Endpoint} {r : Request} {outcome : Outcome} {written : Bytes}
      (carries : Carries arrived r) (handled : HandledOnce m H i r source outcome)
      (none_queued : queued commands i = [])
      (h : written = outcome.written ∨ failed written ∧ written <+: outcome.written) :
      Progress m H commands i arrived failed ⟨some source, .finished written⟩
  | unserved {source : Option Endpoint} (untaken : Untaken H i)
      (none_queued : queued commands i = []) :
      Progress m H commands i arrived failed ⟨source, .finished []⟩

/-- What holds of a service at all times: the mapper is what the history makes of it,
each connection is at a stage that suits its bytes, the channel and the history, and
there is nothing of connections still to come. -/
structure Consistent (m : Mapper) (H : List Entry) (arrived : Nat → Bytes)
    (failed : Nat → Bytes → Prop) (s : Service) : Prop where
  mapper : s.mapper = m.run (H.map (·.occurrence))
  progress : ∀ i c, s.connections[i]? = some c → Progress m H s.commands i (arrived i) (failed i) c
  unborn : ∀ i, s.connections.length ≤ i →
    Untaken H i ∧ queued s.commands i = [] ∧ arrived i = []

variable {m : Mapper} {H H' : List Entry} {commands commands' : List Command} {i j : Nat}
  {bytes rest : Bytes} {r : Request} {source : Endpoint} {outcome : Outcome} {c : Connection}
  {stage : Stage} {s : Service} {arrived arrived' : Nat → Bytes} {f f' : Bytes → Prop}
  {failed failed' : Nat → Bytes → Prop}

/-! ## Histories -/

theorem untaken_nil (i : Nat) : Untaken [] i := by simp [Untaken]

theorem untaken_append : Untaken (H ++ H') i ↔ Untaken H i ∧ Untaken H' i := by
  simp only [Untaken, List.forall_mem_append]

theorem untaken_singleton {e : Entry} : Untaken [e] i ↔ e.connection ≠ some i := by
  simp only [Untaken, List.forall_mem_singleton]

theorem HandledOnce.append (h : HandledOnce m H i r source outcome) (h' : Untaken H' i) :
    HandledOnce m (H ++ H') i r source outcome := by
  obtain ⟨before, time, isFree, after, rfl, hbefore, hafter, hout⟩ := h
  refine ⟨before, time, isFree, after ++ H', ?_, hbefore, untaken_append.mpr ⟨hafter, h'⟩, hout⟩
  rw [List.append_assoc, List.cons_append]

/-- The request of a connection is taken. -/
theorem Untaken.handledOnce (h : Untaken H i) (time : Nat) (isFree : Vacancy) (r : Request)
    (source : Endpoint) :
    HandledOnce m (H ++ [⟨some i, time, isFree, .request r source .tcp⟩]) i r source
      ((m.run (H.map (·.occurrence))).handle isFree time r source .tcp).outcome :=
  ⟨H, time, isFree, [], rfl, h, untaken_nil i, rfl⟩

/-- What arrives after a request does not change it. -/
theorem Carries.append (h : Carries bytes r) (rest : Bytes) : Carries (bytes ++ rest) r := by
  obtain ⟨hle, hr⟩ := h
  refine ⟨?_, ?_⟩
  · rw [List.length_append]
    exact Nat.le_add_right_of_le hle
  · rwa [List.take_append_of_le_length hle]

/-! ## The channel -/

theorem queued_concat_self (commands : List Command) (command : Command) :
    queued (commands ++ [command]) command.connection =
      queued commands command.connection ++ [command] := by
  simp [queued]

theorem queued_concat_of_ne {command : Command} (h : command.connection ≠ i) :
    queued (commands ++ [command]) i = queued commands i := by
  simp [queued, h]

theorem queued_cons_self (command : Command) (commands : List Command) :
    queued (command :: commands) command.connection =
      command :: queued commands command.connection := by
  simp [queued]

theorem queued_cons_of_ne {command : Command} (h : command.connection ≠ i) :
    queued (command :: commands) i = queued commands i := by
  simp [queued, h]

/-! ## One connection -/

/-- What is known of a connection does not depend on what becomes of the others. -/
theorem Progress.frame (h : Progress m H commands i bytes f c) (h' : Untaken H' i)
    (hqueued : queued commands' i = queued commands i) :
    Progress m (H ++ H') commands' i bytes f c := by
  cases h with
  | reading short untaken none_queued =>
    exact .reading short (untaken_append.mpr ⟨untaken, h'⟩) (hqueued.trans none_queued)
  | sending carries untaken none_queued =>
    exact .sending carries (untaken_append.mpr ⟨untaken, h'⟩) (hqueued.trans none_queued)
  | waiting carries untaken one_queued =>
    exact .waiting carries (untaken_append.mpr ⟨untaken, h'⟩) (hqueued.trans one_queued)
  | replying carries handled none_queued h =>
    exact .replying carries (handled.append h') (hqueued.trans none_queued) h
  | served carries handled none_queued h =>
    exact .served carries (handled.append h') (hqueued.trans none_queued) h
  | unserved untaken none_queued =>
    exact .unserved (untaken_append.mpr ⟨untaken, h'⟩) (hqueued.trans none_queued)

theorem Progress.mono (h : Progress m H commands i bytes f c)
    (hf : ∀ written, f written → f' written) : Progress m H commands i bytes f' c := by
  cases h with
  | reading short untaken none_queued => exact .reading short untaken none_queued
  | sending carries untaken none_queued => exact .sending carries untaken none_queued
  | waiting carries untaken one_queued => exact .waiting carries untaken one_queued
  | replying carries handled none_queued h => exact .replying carries handled none_queued h
  | served carries handled none_queued h =>
    exact .served carries handled none_queued (h.imp_right (And.imp_left (hf _)))
  | unserved untaken none_queued => exact .unserved untaken none_queued

/-- A connection that has its request, or is closed, takes no notice of what arrives. -/
theorem Progress.ignore (h : Progress m H commands i bytes f c)
    (hstage : ∀ received, c.stage ≠ .reading received) (rest : Bytes) :
    Progress m H commands i (bytes ++ rest) f c := by
  cases h with
  | reading => exact absurd rfl (hstage _)
  | sending carries untaken none_queued => exact .sending (carries.append rest) untaken none_queued
  | waiting carries untaken one_queued => exact .waiting (carries.append rest) untaken one_queued
  | replying carries handled none_queued h =>
    exact .replying (carries.append rest) handled none_queued h
  | served carries handled none_queued h =>
    exact .served (carries.append rest) handled none_queued h
  | unserved untaken none_queued => exact .unserved untaken none_queued

/-- A connection is at the stage that suits what has arrived on it. -/
theorem progress_stageOf (untaken : Untaken H i) (none_queued : queued commands i = [])
    (source : Option Endpoint) (bytes : Bytes) :
    Progress m H commands i bytes f ⟨source, stageOf source bytes⟩ := by
  cases source with
  | none => exact .unserved untaken none_queued
  | some source =>
    rw [stageOf]
    split
    · exact .reading ‹_› untaken none_queued
    · rename_i hle
      split
      · exact .unserved untaken none_queued
      · exact .sending ⟨Nat.le_of_not_lt hle, ‹_›⟩ untaken none_queued

/-! ## All connections -/

@[simp] theorem length_put (s : Service) (i : Nat) (stage : Stage) :
    (s.put i stage).connections.length = s.connections.length :=
  List.length_modify ..

theorem getElem?_put_self (hc : s.connections[i]? = some c) (stage : Stage) :
    (s.put i stage).connections[i]? = some { c with stage } := by
  rw [put, List.getElem?_modify_eq, hc]
  rfl

theorem getElem?_put_of_ne (h : i ≠ j) (stage : Stage) :
    (s.put i stage).connections[j]? = s.connections[j]? :=
  List.getElem?_modify_ne _ _ h

theorem Consistent.mono (hs : Consistent m H arrived failed s)
    (h : ∀ i written, failed i written → failed' i written) :
    Consistent m H arrived failed' s where
  mapper := hs.mapper
  progress i c hc := (hs.progress i c hc).mono (h i)
  unborn := hs.unborn

/-- A connection whose request is in the channel waits for it. -/
theorem Consistent.waiting_of_queued (hs : Consistent m H arrived failed s)
    (h : queued s.commands i ≠ []) :
    ∃ source r, s.connections[i]? = some ⟨some source, .waiting⟩ ∧ Carries (arrived i) r ∧
      Untaken H i ∧ queued s.commands i = [⟨i, source, r⟩] := by
  rcases Nat.lt_or_ge i s.connections.length with hlt | hge
  · obtain ⟨c, hc⟩ : ∃ c, s.connections[i]? = some c := ⟨_, List.getElem?_eq_getElem hlt⟩
    cases hs.progress i c hc with
    | waiting carries untaken one_queued => exact ⟨_, _, hc, carries, untaken, one_queued⟩
    | reading _ _ none_queued => exact absurd none_queued h
    | sending _ _ none_queued => exact absurd none_queued h
    | replying _ _ none_queued => exact absurd none_queued h
    | served _ _ none_queued => exact absurd none_queued h
    | unserved _ none_queued => exact absurd none_queued h
  · exact absurd (hs.unborn i hge).2.1 h

/-- One connection moves on, and nothing is done for the others. -/
theorem Consistent.move (hs : Consistent m H arrived failed s) (hc : s.connections[i]? = some c)
    {mapper : Mapper} (hmapper : mapper = m.run ((H ++ H').map (·.occurrence)))
    (hothers : ∀ j, j ≠ i →
      Untaken H' j ∧ queued commands j = queued s.commands j ∧ arrived' j = arrived j)
    (hi : Progress m (H ++ H') commands i (arrived' i) (failed i) { c with stage }) :
    Consistent m (H ++ H') arrived' failed { s.put i stage with mapper, commands } := by
  have hlt : i < s.connections.length := (List.getElem?_eq_some_iff.mp hc).1
  refine ⟨hmapper, fun j c' hc' => ?_, fun j hj => ?_⟩
  · by_cases hj : j = i
    · subst hj
      obtain rfl := Option.some.inj ((getElem?_put_self hc stage).symm.trans hc')
      exact hi
    · have hsame := (getElem?_put_of_ne (Ne.symm hj) stage).symm.trans hc'
      obtain ⟨hH', hqueued, harrived⟩ := hothers j hj
      rw [harrived]
      exact (hs.progress j c' hsame).frame hH' hqueued
  · rw [length_put] at hj
    obtain ⟨hH', hqueued, harrived⟩ := hothers j (by omega)
    obtain ⟨untaken, none_queued, none_arrived⟩ := hs.unborn j hj
    exact ⟨untaken_append.mpr ⟨untaken, hH'⟩, hqueued.trans none_queued,
      harrived.trans none_arrived⟩

/-- One connection moves on, and the mapper has no part in it. -/
theorem Consistent.advance (hs : Consistent m H arrived failed s) (hc : s.connections[i]? = some c)
    (hothers : ∀ j, j ≠ i →
      queued commands j = queued s.commands j ∧ arrived' j = arrived j)
    (hi : Progress m H commands i (arrived' i) (failed i) { c with stage }) :
    Consistent m H arrived' failed { s.put i stage with commands } := by
  rw [← List.append_nil H]
  refine hs.move hc ?_ (fun j hj => ⟨untaken_nil j, hothers j hj⟩) (hi.frame (untaken_nil i) rfl)
  rw [List.append_nil]
  exact hs.mapper

/-- The mapper takes an event of no connection. -/
theorem Consistent.event (hs : Consistent m H arrived failed s) {e : Entry}
    (he : e.connection = none) {mapper : Mapper}
    (hmapper : mapper = (s.mapper.step e.occurrence).mapper) :
    Consistent m (H ++ [e]) arrived failed { s with mapper } := by
  have huntaken (i : Nat) : Untaken [e] i := by
    rw [untaken_singleton, he]
    exact (Option.some_ne_none i).symm
  refine ⟨?_, fun i c hc => (hs.progress i c hc).frame (huntaken i) rfl, fun i hi => ?_⟩
  · rw [List.map_append, List.map_singleton, Mapper.run_concat, ← hs.mapper]
    exact hmapper
  · obtain ⟨untaken, none_queued, none_arrived⟩ := hs.unborn i hi
    exact ⟨untaken_append.mpr ⟨untaken, huntaken i⟩, none_queued, none_arrived⟩

/-! ## Turns -/

theorem Consistent.accept (hs : Consistent m H arrived failed s) (source : Option Endpoint) :
    Consistent m H arrived failed
      { s with connections := s.connections ++ [⟨source, stageOf source []⟩] } := by
  refine ⟨hs.mapper, fun i c hc => ?_, fun i hi => ?_⟩
  · rcases Nat.lt_trichotomy i s.connections.length with hlt | rfl | hgt
    · rw [List.getElem?_append_left hlt] at hc
      exact hs.progress i c hc
    · rw [List.getElem?_concat_length] at hc
      cases hc
      obtain ⟨untaken, none_queued, none_arrived⟩ := hs.unborn _ (Nat.le_refl _)
      rw [none_arrived]
      exact progress_stageOf untaken none_queued source []
    · rw [List.getElem?_eq_none (by rw [List.length_append]; exact hgt)] at hc
      cases hc
  · rw [List.length_append] at hi
    exact hs.unborn i (Nat.le_of_succ_le hi)

/-- Bytes that arrive on a connection belong to its request, as long as it is not complete. -/
theorem Consistent.deliver (hs : Consistent m H arrived failed s) (isFree : Vacancy) (now : Nat)
    (i : Nat) (bytes : Bytes) :
    Consistent m H
      (fun j => arrived j ++ if i = j ∧ j < s.connections.length then bytes else []) failed
      (s.act isFree now (.deliver i bytes)).service := by
  simp only [act]
  split
  · rename_i hc
    have hlt : i < s.connections.length := (List.getElem?_eq_some_iff.mp hc).1
    cases hs.progress i _ hc with
    | reading short untaken none_queued =>
      refine hs.advance hc (fun j hj => ⟨rfl, ?_⟩) ?_
      · rw [if_neg fun h => hj h.1.symm, List.append_nil]
      · rw [if_pos ⟨rfl, hlt⟩]
        exact progress_stageOf untaken none_queued _ _
  · -- The connection does not read, so that its stage stays as it is.
    rename_i hstage
    refine ⟨hs.mapper, fun j c hc => ?_, fun j hj => ?_⟩
    · split
      · rename_i hij
        obtain ⟨rfl, -⟩ := hij
        refine (hs.progress i c hc).ignore (fun received hreading => ?_) bytes
        exact hstage c.source received (by rw [hc, ← hreading])
      · rw [List.append_nil]
        exact hs.progress j c hc
    · rw [if_neg fun h => Nat.not_lt_of_le hj h.2, List.append_nil]
      exact hs.unborn j hj

theorem Consistent.giveUp (hs : Consistent m H arrived failed s) (isFree : Vacancy) (now : Nat)
    (i : Nat) : Consistent m H arrived failed (s.act isFree now (.giveUp i)).service := by
  simp only [act]
  split
  · rename_i hc
    cases hs.progress i _ hc with
    | reading short untaken none_queued =>
      exact hs.advance hc (fun _ _ => ⟨rfl, rfl⟩) (.unserved untaken none_queued)
  · exact hs

/-- A piece of a reply is written. What has been written and what is left stay its parts. -/
theorem Consistent.write (hs : Consistent m H arrived failed s) (isFree : Vacancy) (now : Nat)
    (i count : Nat) :
    Consistent m H arrived failed (s.act isFree now (.write i count)).service := by
  simp only [act]
  split
  · rename_i hc
    cases hs.progress i _ hc with
    | replying carries handled none_queued h =>
      refine hs.advance hc (fun _ _ => ⟨rfl, rfl⟩) ?_
      split
      · exact .served carries handled none_queued (.inl h)
      · refine .replying carries handled none_queued ?_
        rw [List.append_assoc, List.take_append_drop, h]
  · exact hs

/-- Writing a reply fails, and what has been written of it is its beginning. -/
theorem Consistent.fail (hs : Consistent m H arrived failed s) (isFree : Vacancy) (now : Nat)
    (i : Nat) :
    let t : Turn := ⟨now, isFree, .fail i⟩
    Consistent m H arrived (fun j written => failed j written ∨ s.WriteFails t j written)
      (s.act isFree now (.fail i)).service := by
  intro t
  have hs := hs.mono fun j written h => (Or.inl h : failed j written ∨ s.WriteFails t j written)
  simp only [act]
  split
  · rename_i source written rest hc
    have hfails : s.WriteFails t i written := ⟨rfl, source, rest, hc⟩
    cases hs.progress i _ hc with
    | replying carries handled none_queued h =>
      exact hs.advance hc (fun _ _ => ⟨rfl, rfl⟩)
        (.served carries handled none_queued (.inr ⟨.inr hfails, rest, h⟩))
  · exact hs

/-- A connection puts its request into the channel. -/
theorem Consistent.submit (hs : Consistent m H arrived failed s) (isFree : Vacancy) (now : Nat)
    (i : Nat) : Consistent m H arrived failed (s.act isFree now (.submit i)).service := by
  simp only [act]
  split
  · rename_i source r hc
    split
    · cases hs.progress i _ hc with
      | sending carries untaken none_queued =>
        refine hs.advance hc (fun j hj => ⟨queued_concat_of_ne (Ne.symm hj), rfl⟩)
          (.waiting carries untaken ?_)
        rw [queued_concat_self, none_queued, List.nil_append]
    · exact hs
  · exact hs

/-- The mapper takes the request that has been in the channel for longest. -/
theorem Consistent.take (hs : Consistent m H arrived failed s) (time : Nat) (isFree : Vacancy) :
    Consistent m (H ++ s.taken ⟨time, isFree, .take⟩) arrived failed
      (s.act isFree time .take).service := by
  cases hcommands : s.commands with
  | nil =>
    simp only [act, taken, hcommands, List.append_nil]
    exact hs
  | cons command commands =>
    -- The connection of the request is the one that waits for it, and has no other request
    -- in the channel.
    have hqueued : queued s.commands command.connection =
        command :: queued commands command.connection := by
      rw [hcommands, queued_cons_self]
    obtain ⟨source, r, hc, carries, untaken, hone⟩ :=
      hs.waiting_of_queued (hqueued ▸ List.cons_ne_nil _ _)
    rw [hqueued, List.cons.injEq] at hone
    obtain ⟨hcommand, none_queued⟩ := hone
    have hsource : command.source = source := by rw [hcommand]
    have hrequest : command.request = r := by rw [hcommand]
    simp only [act, taken, hcommands, hsource, hrequest]
    refine hs.move hc ?_ (fun j hj => ⟨?_, ?_, rfl⟩) ?_
    · rw [List.map_append, List.map_singleton, Mapper.run_concat, ← hs.mapper]
      rfl
    · exact untaken_singleton.mpr fun h => hj (Option.some.inj h).symm
    · rw [hcommands, queued_cons_of_ne (Ne.symm hj)]
    · rw [hs.mapper]
      exact .replying carries (untaken.handledOnce time isFree r source) none_queued
        (List.nil_append _)

/-- Every turn keeps what holds of a service. -/
theorem Consistent.turn (hs : Consistent m H arrived failed s) (t : Turn) :
    Consistent m (H ++ s.taken t) (fun i => arrived i ++ s.delivered i t)
      (fun i written => failed i written ∨ s.WriteFails t i written) (s.turn t).service := by
  obtain ⟨time, isFree, action⟩ := t
  have hs' := hs.mono fun i written h =>
    (Or.inl h : failed i written ∨ s.WriteFails ⟨time, isFree, action⟩ i written)
  cases action with
  | deliver i bytes =>
    simp only [taken, List.append_nil]
    exact hs'.deliver isFree time i bytes
  | accept source =>
    simp only [taken, delivered, List.append_nil]
    exact hs'.accept source
  | giveUp i =>
    simp only [taken, delivered, List.append_nil]
    exact hs'.giveUp isFree time i
  | submit i =>
    simp only [taken, delivered, List.append_nil]
    exact hs'.submit isFree time i
  | write i count =>
    simp only [taken, delivered, List.append_nil]
    exact hs'.write isFree time i count
  | fail i =>
    simp only [taken, delivered, List.append_nil]
    exact hs.fail isFree time i
  | take =>
    simp only [delivered, List.append_nil]
    exact hs'.take time isFree
  | datagram | tick | flush =>
    simp only [delivered, List.append_nil]
    exact hs'.event rfl rfl

/-- What holds of a service holds of it whatever turns it takes. -/
theorem consistent_perform (m : Mapper) (ts : List Turn) :
    let s : Service := { mapper := m }
    Consistent m (s.history ts) (fun i => s.arrived i ts) (s.WriteFailed ts)
      (s.perform ts).service := by
  intro s
  induction ts using List.reverseRecOn with
  | nil => exact ⟨rfl, nofun, fun i _ => ⟨untaken_nil i, rfl, rfl⟩⟩
  | append_singleton ts t ih =>
    simp only [history_concat, arrived_concat, perform_concat]
    exact (ih.turn t).mono fun i written h => h.elim (·.append [t]) (·.concat)

end Service

end PortMapper
