import PortMapper.Proofs.Service.Connections

/-!
# Connections are served one after another

Whatever the connections of a service do, and however their actions come between one
another, the service does what a mapper does that takes one event after another
(`Service.linearizable`). A request is taken at one moment between its arrival and the
reply, so that this order does not contradict the order in which clients see things
happen: a connection that is closed comes before all that have not yet sent their
requests (`Service.history_split`). Requests are taken in the order in which they were
put into the channel (`Service.order_prefix`). What is written of a reply starts as the
reply does, and is all of it unless writing fails on the way.
-/

namespace PortMapper

namespace Service

variable {m : Mapper} {H : List Entry} {arrived : Nat → Bytes} {failed : Nat → Bytes → Prop}
  {s : Service} {i j : Nat} {c : Connection} {commands : List Command} {source : Option Endpoint}
  {bytes written : Bytes} {f : Bytes → Prop}

/-! ## Closed connections -/

/-- Whether a connection is closed, and has no request in the channel. -/
structure Closed (s : Service) (i : Nat) (source : Option Endpoint) (written : Bytes) : Prop where
  finished : s.connections[i]? = some ⟨source, .finished written⟩
  none_queued : queued s.commands i = []

/-- A connection that moves on from another stage is not the closed one. -/
theorem Closed.put (h : s.Closed i source written) (hc : s.connections[j]? = some c)
    (hstage : c.stage ≠ .finished written) (stage : Stage) :
    (s.put j stage).connections[i]? = some ⟨source, .finished written⟩ ∧ j ≠ i := by
  have hne : j ≠ i := by
    rintro rfl
    rw [h.finished] at hc
    cases hc
    exact hstage rfl
  exact ⟨(getElem?_put_of_ne hne stage).trans h.finished, hne⟩

/-- A closed connection stays as it is. -/
theorem Closed.turn (h : s.Closed i source written) (t : Turn) :
    (s.turn t).service.Closed i source written ∧ Untaken (s.taken t) i := by
  obtain ⟨time, isFree, action⟩ := t
  cases action with
  | accept source' =>
    refine ⟨⟨?_, h.none_queued⟩, untaken_nil i⟩
    have hlt : i < s.connections.length := (List.getElem?_eq_some_iff.mp h.finished).1
    rw [Service.turn, act, List.getElem?_append_left hlt]
    exact h.finished
  | deliver j bytes | giveUp j | write j count | fail j =>
    refine ⟨?_, untaken_nil i⟩
    simp only [Service.turn, act]
    split
    · rename_i hc
      exact ⟨(h.put hc (by simp) _).1, h.none_queued⟩
    · exact h
  | submit j =>
    refine ⟨?_, untaken_nil i⟩
    simp only [Service.turn, act]
    split
    · rename_i hc
      split
      · obtain ⟨hfinished, hne⟩ := h.put hc (by simp) .waiting
        exact ⟨hfinished, (queued_concat_of_ne hne).trans h.none_queued⟩
      · exact h
    · exact h
  | take =>
    cases hcommands : s.commands with
    | nil =>
      simp only [Service.turn, act, taken, hcommands]
      exact ⟨h, untaken_nil i⟩
    | cons command commands =>
      have hne : command.connection ≠ i := by
        rintro rfl
        have hnone := h.none_queued
        rw [hcommands, queued_cons_self] at hnone
        cases hnone
      have hnone := h.none_queued
      rw [hcommands, queued_cons_of_ne hne] at hnone
      simp only [Service.turn, act, taken, hcommands]
      refine ⟨⟨?_, hnone⟩, untaken_singleton.mpr fun heq => hne (Option.some.inj heq)⟩
      exact (getElem?_put_of_ne hne _).trans h.finished
  | datagram | tick | flush =>
    exact ⟨⟨h.finished, h.none_queued⟩, untaken_singleton.mpr (Option.some_ne_none i).symm⟩

/-- Nothing is ever done for a closed connection again. -/
theorem Closed.perform (h : s.Closed i source written) (ts : List Turn) :
    (s.perform ts).service.Closed i source written ∧ Untaken (s.history ts) i := by
  induction ts generalizing s with
  | nil => exact ⟨h, untaken_nil i⟩
  | cons t ts ih =>
    obtain ⟨hturn, htaken⟩ := h.turn t
    obtain ⟨hperform, hhistory⟩ := ih hturn
    exact ⟨hperform, untaken_append.mpr ⟨htaken, hhistory⟩⟩

/-! ## Connections without a request -/

/-- A connection without an address, or without a request, has had no part in anything, and
is not past reading unless it is closed. -/
theorem Progress.of_no_request (hi : Progress m H commands i bytes f c)
    (h : c.source = none ∨ ∀ r, ¬Carries bytes r) :
    Untaken H i ∧ queued commands i = [] ∧ (c.stage = .reading bytes ∨ c.stage = .finished []) := by
  cases hi with
  | reading _ untaken none_queued => exact ⟨untaken, none_queued, .inl rfl⟩
  | unserved untaken none_queued => exact ⟨untaken, none_queued, .inr rfl⟩
  | sending carries => exact absurd carries (h.resolve_left nofun _)
  | waiting carries => exact absurd carries (h.resolve_left nofun _)
  | replying carries => exact absurd carries (h.resolve_left nofun _)
  | served carries => exact absurd carries (h.resolve_left nofun _)

theorem not_carries_of_short (h : bytes.length < frameSize) (r : Request) : ¬Carries bytes r :=
  fun hr => Nat.not_le_of_lt h hr.1

/-- A connection on which not all of its request has arrived has had no part in anything. -/
theorem Consistent.untaken_of_short (hs : Consistent m H arrived failed s)
    (hshort : (arrived i).length < frameSize) : Untaken H i := by
  rcases Nat.lt_or_ge i s.connections.length with hlt | hge
  · have hi := hs.progress i _ (List.getElem?_eq_getElem hlt)
    exact (hi.of_no_request (.inr (not_carries_of_short hshort))).1
  · exact (hs.unborn i hge).1

/-- A connection that gives up before it has sent all of its request is closed. -/
theorem Consistent.closed_of_giveUp (hs : Consistent m H arrived failed s)
    (hlt : i < s.connections.length) (hshort : (arrived i).length < frameSize)
    {t : Turn} (ht : t.action = .giveUp i) :
    ∃ source, (s.turn t).service.Closed i source [] := by
  obtain ⟨⟨source, stage⟩, hc⟩ : ∃ c, s.connections[i]? = some c :=
    ⟨_, List.getElem?_eq_getElem hlt⟩
  obtain ⟨-, none_queued, hreading | hfinished⟩ :=
    (hs.progress i _ hc).of_no_request (.inr (not_carries_of_short hshort))
  · obtain rfl : stage = .reading (arrived i) := hreading
    have hturn : (s.turn t).service = s.put i (.finished []) := by
      simp only [Service.turn, act, ht, hc]
    rw [hturn]
    exact ⟨source, getElem?_put_self hc _, none_queued⟩
  · obtain rfl : stage = .finished [] := hfinished
    have hturn : (s.turn t).service = s := by simp only [Service.turn, act, ht, hc]
    rw [hturn]
    exact ⟨source, hc, none_queued⟩

/-! ## Connections with a request -/

/-- Either nothing has been done for a connection and nothing is written to it, or its own
request was handled once. Then what is written is the beginning of the reply, and all of it
once the connection is closed, unless writing failed. -/
theorem Consistent.handled (hs : Consistent m H arrived failed s)
    (hc : s.connections[i]? = some c) :
    (Untaken H i ∧ c.stage.written = []) ∨
      ∃ source r outcome, c.source = some source ∧ Carries (arrived i) r ∧
        HandledOnce m H i r source outcome ∧ c.stage.written <+: outcome.written ∧
        ∀ written, c.stage = .finished written →
          written = outcome.written ∨ failed i written := by
  cases hs.progress i c hc with
  | reading _ untaken => exact .inl ⟨untaken, rfl⟩
  | sending _ untaken => exact .inl ⟨untaken, rfl⟩
  | waiting _ untaken => exact .inl ⟨untaken, rfl⟩
  | replying carries handled _ h =>
    exact .inr ⟨_, _, _, rfl, carries, handled, ⟨_, h⟩, nofun⟩
  | served carries handled _ h =>
    refine .inr ⟨_, _, _, rfl, carries, handled, ?_, fun written hwritten => ?_⟩
    · rcases h with rfl | ⟨-, hcut⟩
      · exact List.prefix_rfl
      · exact hcut
    · cases hwritten
      exact h.imp_right And.left
  | unserved untaken => exact .inl ⟨untaken, rfl⟩

/-- The reply to the request of a connection is what a session sends that is served when the
mapper takes the request. -/
theorem HandledOnce.eq_serve {r : Request} {source : Endpoint} {outcome : Outcome}
    (h : HandledOnce m H i r source outcome) (hr : Carries bytes r) (ending : Ending) :
    ∃ before time isFree after,
      H = before ++ ⟨some i, time, isFree, .request r source .tcp⟩ :: after ∧
        (Session.serve (m.run (before.map (·.occurrence))) isFree time (some source)
          ⟨bytes, ending⟩ .answers).sent = outcome.written := by
  obtain ⟨before, time, isFree, after, hH, -, -, rfl⟩ := h
  refine ⟨before, time, isFree, after, hH, ?_⟩
  have hrequest : Session.request? ⟨bytes, ending⟩ = some r := by
    rw [Session.request?_of_le hr.1, hr.2]
    rfl
  rw [Session.serve_of_request? hrequest]

/-! ## Order -/

/-- The connections in the order in which their requests were put into the channel: first
those whose requests have been taken from it, and then the others. -/
def order (s : Service) (ts : List Turn) : List Nat :=
  (s.history ts).filterMap (·.connection) ++ (s.perform ts).service.commands.map (·.connection)

/-- A turn puts at most one request into the channel, at its end. -/
theorem turn_order (s : Service) (t : Turn) : ∃ more,
    (s.taken t).filterMap (·.connection) ++ (s.turn t).service.commands.map (·.connection) =
      s.commands.map (·.connection) ++ more := by
  obtain ⟨time, isFree, action⟩ := t
  cases action with
  | submit i =>
    simp only [Service.turn, act, taken]
    split
    · split
      · exact ⟨[i], List.map_append⟩
      · exact ⟨[], (List.append_nil _).symm⟩
    · exact ⟨[], (List.append_nil _).symm⟩
  | take =>
    refine ⟨[], ?_⟩
    cases hcommands : s.commands <;> simp [Service.turn, act, taken, hcommands]
  | deliver i bytes | giveUp i | write i count | fail i =>
    simp only [Service.turn, act, taken]
    split <;> exact ⟨[], (List.append_nil _).symm⟩
  | _ => exact ⟨[], (List.append_nil _).symm⟩

/-- Requests leave the channel in the order in which they came into it. -/
theorem perform_order (s : Service) (ts : List Turn) : ∃ more,
    s.order ts = s.commands.map (·.connection) ++ more := by
  induction ts generalizing s with
  | nil => exact ⟨[], (List.append_nil _).symm⟩
  | cons t ts ih =>
    obtain ⟨more, hmore⟩ := s.turn_order t
    obtain ⟨rest, hrest⟩ := ih (s.turn t).service
    refine ⟨more ++ rest, ?_⟩
    rw [← List.append_assoc, ← hmore, List.append_assoc, ← hrest, order, order, history,
      List.filterMap_append, List.append_assoc, perform]

theorem order_prefix (s : Service) (ts ts' : List Turn) : s.order ts <+: s.order (ts ++ ts') := by
  obtain ⟨more, hmore⟩ := (s.perform ts).service.perform_order ts'
  refine ⟨more, ?_⟩
  rw [order, List.append_assoc, ← hmore, order, order, history_append, List.filterMap_append,
    perform_append, List.append_assoc]

/-! ## Services -/

/-- A connection without an address, or whose client did not send a request, or gave up
before all of its request had arrived, has had no part in anything. -/
theorem untaken_of_no_request (m : Mapper) (ts : List Turn) :
    let s : Service := { mapper := m }
    (s.perform ts).service.connections[i]? = some c →
    (c.source = none ∨ (s.arrived i ts).length < frameSize ∨
      (∃ f, Request.ofFrame ((s.arrived i ts).take frameSize) = .error f) ∨
      ∃ ts₁ t ts₂, ts = ts₁ ++ t :: ts₂ ∧ t.action = .giveUp i ∧
        i < (s.perform ts₁).service.connections.length ∧
        (s.arrived i ts₁).length < frameSize) →
    Untaken (s.history ts) i := by
  intro s hc h
  have hs := consistent_perform m ts
  rcases h with hnone | hshort | ⟨f, hf⟩ | ⟨ts₁, t, ts₂, rfl, ht, hlt, hshort⟩
  · exact ((hs.progress i c hc).of_no_request (.inl hnone)).1
  · exact hs.untaken_of_short hshort
  · refine ((hs.progress i c hc).of_no_request (.inr fun r hr => ?_)).1
    rw [hr.2] at hf
    cases hf
  · have hbefore := consistent_perform m ts₁
    obtain ⟨source, hclosed⟩ := hbefore.closed_of_giveUp hlt hshort ht
    have htaken : (s.perform ts₁).service.taken t = [] := by simp only [taken, ht]
    rw [history_append, untaken_append, history, htaken, List.nil_append]
    exact ⟨hbefore.untaken_of_short hshort, (hclosed.perform ts₂).2⟩

/-- A connection that is closed comes before all that have not sent their requests yet. -/
theorem history_split (m : Mapper) (ts ts' : List Turn) :
    let s : Service := { mapper := m }
    (s.perform ts).service.connections[i]? = some ⟨source, .finished written⟩ →
    (s.arrived j ts).length < frameSize →
    ∃ before after, s.history (ts ++ ts') = before ++ after ∧ Untaken after i ∧
      Untaken before j := by
  intro s hc hshort
  have hs := consistent_perform m ts
  have hclosed : (s.perform ts).service.Closed i source written := by
    refine ⟨hc, ?_⟩
    cases hs.progress i _ hc with
    | served _ _ none_queued => exact none_queued
    | unserved _ none_queued => exact none_queued
  exact ⟨_, _, s.history_append ts ts', (hclosed.perform ts').2, hs.untaken_of_short hshort⟩

/-- Whatever turns a service takes, and however its connections come between one another:

* the mapper is what the events of the history make of it one after another, and what has
  been sent and asked is what came of them;
* for each connection, the history holds nothing, and nothing is written to it; or it holds
  the connection's own request exactly once, and what is written is the beginning of the
  reply to that request when the mapper took it (nothing, if the request is not answered),
  and all of it once the connection is closed, unless writing failed there;
* it holds nothing of connections without an address, of those on which no request arrived,
  and of those whose clients gave up before that;
* a connection that is closed at some time comes before all that have not sent their
  requests at that time;
* requests are taken in the order in which they were put into the channel. -/
theorem linearizable (m : Mapper) (ts : List Turn) :
    let s : Service := { mapper := m }
    let done := s.perform ts
    let H := s.history ts
    let os := H.map (·.occurrence)
    (done.service.mapper = m.run os ∧ done.sent = (m.trace os).flatMap (·.sent) ∧
      done.asked = (m.trace os).flatMap (·.asked)) ∧
    (∀ i c, done.service.connections[i]? = some c →
      (Untaken H i ∧ c.stage.written = []) ∨
        ∃ source r outcome, c.source = some source ∧ Carries (s.arrived i ts) r ∧
          HandledOnce m H i r source outcome ∧ c.stage.written <+: outcome.written ∧
          ∀ written, c.stage = .finished written →
            written = outcome.written ∨ s.WriteFailed ts i written) ∧
    (∀ i, done.service.connections.length ≤ i → Untaken H i) ∧
    (∀ i c, done.service.connections[i]? = some c →
      (c.source = none ∨ (s.arrived i ts).length < frameSize ∨
        (∃ f, Request.ofFrame ((s.arrived i ts).take frameSize) = .error f) ∨
        ∃ ts₁ t ts₂, ts = ts₁ ++ t :: ts₂ ∧ t.action = .giveUp i ∧
          i < (s.perform ts₁).service.connections.length ∧
          (s.arrived i ts₁).length < frameSize) →
      Untaken H i) ∧
    (∀ ts₁ ts₂ i j source written, ts = ts₁ ++ ts₂ →
      (s.perform ts₁).service.connections[i]? = some ⟨source, .finished written⟩ →
      (s.arrived j ts₁).length < frameSize →
      ∃ before after, H = before ++ after ∧ Untaken after i ∧ Untaken before j) ∧
    ∀ ts₁ ts₂, ts = ts₁ ++ ts₂ → s.order ts₁ <+: s.order ts := by
  intro s done H os
  have hs := consistent_perform m ts
  refine ⟨s.perform_history ts, fun i c hc => hs.handled hc, fun i hi => (hs.unborn i hi).1,
    fun i c hc h => untaken_of_no_request m ts hc h, ?_, ?_⟩
  · rintro ts₁ ts₂ i j source written rfl hc hshort
    exact history_split m ts₁ ts₂ hc hshort
  · rintro ts₁ ts₂ rfl
    exact s.order_prefix ts₁ ts₂

/-- A name is looked up while it is being registered, by a client that has sent its request
earlier. The registration is taken first, both replies are written in pieces, and a client
without an address is not served. -/
theorem lookup_meets_registration :
    let m : Mapper := .start ⟨[Host.loopbackInterface]⟩ 538 {}
    let s : Service := { mapper := m }
    let near : Endpoint := ⟨.localhost, 50000⟩
    let far : Endpoint := ⟨.ofOctets 192 168 1 20, 50000⟩
    let registration : Request :=
      { opcode := .register, kindByte := 0x11, port := 4000, name := [0x61] }
    let lookup : Request := { opcode := .lookup, kindByte := 0x11, name := [0x61] }
    let ts : List Turn := List.map (fun a => ⟨7, fun _ => false, a⟩)
      [.accept near, .accept far, .accept none, .deliver 0 (registration.frame.take 100),
        .deliver 1 lookup.frame, .deliver 0 (registration.frame.drop 100), .submit 0, .submit 1,
        .take, .tick, .take, .write 1 3, .write 0 2, .write 1 1, .write 0 9]
    let H := s.history ts
    (∃ r outcome, HandledOnce m H 0 r near outcome ∧ outcome.written = Reply.port 4000) ∧
      (∃ r outcome, HandledOnce m H 1 r far outcome ∧ outcome.written = Reply.port 4000) ∧
      Untaken H 2 := by
  intro m s near far registration lookup ts H
  have hconnections : (s.perform ts).service.connections =
      [⟨near, .finished (Reply.port 4000)⟩, ⟨far, .finished (Reply.port 4000)⟩,
        ⟨none, .finished []⟩] := by decide +kernel
  have hwhole (i : Nat) (written : Bytes) : ¬s.WriteFailed ts i written := by
    rintro ⟨ts₁, t, ts₂, hts, ht, -⟩
    have hmem : t ∈ ts := hts ▸ List.mem_append_cons_self
    obtain ⟨a, ha, rfl⟩ := List.mem_map.mp hmem
    subst ht
    simp at ha
  clear_value ts
  obtain ⟨-, hhandled, -, hnone, -, -⟩ := linearizable m ts
  have hserved (i : Nat) (source : Endpoint) (hc : (s.perform ts).service.connections[i]? =
      some ⟨source, .finished (Reply.port 4000)⟩) :
      ∃ r outcome, HandledOnce m H i r source outcome ∧ outcome.written = Reply.port 4000 := by
    rcases hhandled i ⟨source, .finished (Reply.port 4000)⟩ hc with
      ⟨-, hnothing⟩ | ⟨source', r, outcome, hsource, -, hhandled, -, hw⟩
    · exact absurd hnothing (List.cons_ne_nil _ _)
    · cases hsource
      exact ⟨r, outcome, hhandled, ((hw _ rfl).resolve_right (hwhole i _)).symm⟩
  refine ⟨hserved 0 near ?_, hserved 1 far ?_, hnone 2 ⟨none, .finished []⟩ ?_ (.inl rfl)⟩
  all_goals rw [hconnections]; rfl

/-- The reply to a registration fails to be written after two of its four bytes. The name is
registered all the same, and what has been written is not the reply. -/
theorem reply_cut_short :
    let m : Mapper := .start ⟨[Host.loopbackInterface]⟩ 538 {}
    let s : Service := { mapper := m }
    let near : Endpoint := ⟨.localhost, 50000⟩
    let registration : Request :=
      { opcode := .register, kindByte := 0x11, port := 4711, name := [0x73, 0x76, 0x63] }
    let ts : List Turn := List.map (fun a => ⟨0, fun _ => true, a⟩)
      [.accept near, .deliver 0 registration.frame, .submit 0, .take, .write 0 2, .fail 0]
    HandledOnce m (s.history ts) 0 registration near (.reply [0, 0, 0x12, 0x67]) ∧
      (s.perform ts).service.connections = [⟨near, .finished [0, 0]⟩] ∧
      ¬∀ i c r source outcome written, (s.perform ts).service.connections[i]? = some c →
        HandledOnce m (s.history ts) i r source outcome → c.stage = .finished written →
          written ≠ [] → written = outcome.written := by
  intro m s near registration ts
  have hhandled : HandledOnce m (s.history ts) 0 registration near
      (.reply [0, 0, 0x12, 0x67]) := by
    have hcommands : (s.perform (ts.take 3)).service.commands = [⟨0, near, registration⟩] := by
      decide +kernel
    refine ⟨[], 0, fun _ => true, [], ?_, untaken_nil 0, untaken_nil 0, by decide +kernel⟩
    simp only [ts, List.map_cons, List.map_nil, List.take_succ_cons, List.take_zero,
      perform] at hcommands
    simp only [ts, List.map_cons, List.map_nil, history, taken, hcommands, List.append_nil,
      List.nil_append]
  have hconnections : (s.perform ts).service.connections = [⟨near, .finished [0, 0]⟩] := by
    decide +kernel
  refine ⟨hhandled, hconnections, fun hwhole => ?_⟩
  have heq := hwhole 0 ⟨near, .finished [0, 0]⟩ registration near _ _
    (by rw [hconnections]; rfl) hhandled rfl (List.cons_ne_nil _ _)
  exact absurd heq (by decide)

end Service

end PortMapper
