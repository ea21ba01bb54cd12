import PortMapper.Proofs.Mapper.Naming
import PortMapper.Proofs.Request.Codec
import PortMapper.Session

/-!
# Sessions and datagrams

A session takes its first 264 bytes for a request, whatever follows them
(`Session.request?_of_le`), and sends back what becomes of it
(`Session.serve_of_request?`). Where there is no request, or nobody to answer it,
nothing happens at all (`Session.serve_of_failure`).

A datagram has to be a request from end to end. For requests about names this is
the only difference (`Mapper.receive_of_about_names`): both change the same, ask
about the same ports and are answered with the same bytes, which a datagram leaves
in the outbox. `Session.agrees_with_datagram` puts the two side by side.
-/

namespace PortMapper

/-- Whether a request is to register, to look up or to withdraw a name. -/
def Request.IsAboutNames (r : Request) : Prop :=
  r.opcode = .register ∨ r.opcode = .lookup ∨ r.opcode = .unregister

namespace Session

variable {m : Mapper} {isFree : Vacancy} {now : Nat} {source : Endpoint} {r : Request}
  {received : Stream} {bytes frame : Bytes} {ending : Ending}

/-! ## The request of a session -/

/-- The request of a stream is in its first 264 bytes. -/
theorem request?_of_le (h : frameSize ≤ bytes.length) :
    request? ⟨bytes, ending⟩ = (Request.ofFrame (bytes.take frameSize)).toOption := by
  rw [request?, Stream.take, if_pos h]

theorem request?_of_lt (h : bytes.length < frameSize) : request? ⟨bytes, ending⟩ = none := by
  rw [request?, Stream.take, if_neg (Nat.not_le_of_lt h)]

theorem request?_of_error {f : MessageFault}
    (h : Request.ofFrame (bytes.take frameSize) = .error f) :
    request? ⟨bytes, ending⟩ = none := by
  by_cases hle : frameSize ≤ bytes.length
  · rw [request?_of_le hle, h]
    rfl
  · exact request?_of_lt (Nat.lt_of_not_le hle)

/-- A frame alone is a request if it holds one. -/
theorem request?_of_ofFrame (h : Request.ofFrame frame = .ok r) :
    request? ⟨frame, ending⟩ = some r := by
  have hlength := Request.length_of_ofFrame h
  rw [request?_of_le hlength.ge, List.take_of_length_le hlength.le, h]
  rfl

/-! ## What a session does -/

/-- A session sends back what becomes of its request. -/
theorem serve_of_request? (h : request? received = some r) :
    serve m isFree now (some source) received .answers =
      { sent := (m.handle isFree now r source .tcp).outcome.written
        mapper := (m.handle isFree now r source .tcp).mapper
        asked := (m.handle isFree now r source .tcp).asked } := by
  simp only [serve, h]

/-- A session without an address, without a request or without an answer changes
nothing, asks nothing and sends nothing. -/
theorem serve_of_failure {source : Option Endpoint} {owner : Owner}
    (h : source = none ∨ request? received = none ∨ owner ≠ .answers) :
    serve m isFree now source received owner = { mapper := m } := by
  unfold serve
  split
  · rename_i source r hr
    rcases h with h | h | h
    · cases h
    · rw [hr] at h
      cases h
    · exact absurd rfl h
  · rfl

end Session

namespace Mapper

variable {m : Mapper} {isFree : Vacancy} {now : Nat} {source : Endpoint} {r : Request}
  {channel : Channel} {bytes : Bytes}

/-! ## Datagrams -/

/-- A datagram that is not as long as a frame holds no request. -/
theorem receive_of_length_ne (h : bytes.length ≠ frameSize) :
    m.receive isFree now bytes source = { mapper := m } := by
  cases hr : Request.ofFrame bytes with
  | error fault => exact receive_of_fault hr
  | ok r => exact absurd (Request.length_of_ofFrame hr) h

/-- A request about names that the names do not answer is ignored. -/
theorem handle_of_about_names (h : r.IsAboutNames)
    (ha : m.directory.answer? m.host isFree r source = none) :
    m.handle isFree now r source channel = m.ignored := by
  cases hop : r.opcode with
  | register | unregister =>
    simp only [handle, hop, change]
    split
    · rfl
    · split
      · rfl
      · simp_all [Directory.answer?]
  | lookup =>
    simp only [handle, hop, lookup]
    split
    · rfl
    · simp_all [Directory.answer?]
  | _ => simp [Request.IsAboutNames, hop] at h

/-- A request about names is handled alike in a session and in a datagram, which
leaves the reply in the outbox. -/
theorem receive_of_about_names (m : Mapper) (isFree : Vacancy) (now : Nat) (source : Endpoint)
    (hr : Request.ofFrame bytes = .ok r) (h : r.IsAboutNames) :
    let handled := m.handle isFree now r source .tcp
    let reply := handled.outcome.written
    handled.mapper = { m with directory := handled.mapper.directory } ∧
      m.receive isFree now bytes source =
        { mapper := { handled.mapper with
            outbox := if reply = [] then m.outbox else m.outbox.post source reply }
          asked := handled.asked } := by
  intro handled reply
  cases ha : m.directory.answer? m.host isFree r source with
  | some a =>
    have htcp : handled = m.answered a := handle_of_answer ha
    have hudp : m.handle isFree now r source .udp = m.answered a := handle_of_answer ha
    have hout : (m.handle isFree now r source .udp).outcome = .reply (Reply.port a.port) := by
      rw [hudp]
      rfl
    have hreply : reply = Reply.port a.port := by
      change handled.outcome.written = _
      rw [htcp]
      rfl
    have hne : reply ≠ [] := by
      rw [hreply]
      exact List.cons_ne_nil _ _
    rw [receive_of_reply hr hout, hudp, if_neg hne, hreply, htcp]
    exact ⟨rfl, rfl⟩
  | none =>
    have htcp : handled = m.ignored := handle_of_about_names h ha
    have hudp : m.handle isFree now r source .udp = m.ignored := handle_of_about_names h ha
    have hout : (m.handle isFree now r source .udp).outcome = .close := by
      rw [hudp]
      rfl
    have hreply : reply = [] := by
      change handled.outcome.written = _
      rw [htcp]
      rfl
    rw [receive_of_close hr hout, hudp, if_pos hreply, htcp]
    exact ⟨rfl, rfl⟩

/-- A datagram that asks for a list is dropped. -/
theorem receive_of_about_list (m : Mapper) (isFree : Vacancy) (now : Nat) (source : Endpoint)
    (hr : Request.ofFrame bytes = .ok r) (h : r.opcode = .servers ∨ r.opcode = .names) :
    m.receive isFree now bytes source = { mapper := m } := by
  have hudp : m.handle isFree now r source .udp = m.ignored := by
    rcases h with hop | hop <;> simp only [handle, hop, list]
  have hout : (m.handle isFree now r source .udp).outcome = .close := by
    rw [hudp]
    rfl
  rw [receive_of_close hr hout, hudp]
  rfl

end Mapper

/-! ## Sessions and datagrams -/

namespace Session

/-- A session sends what becomes of the request in its first 264 bytes, changes and
asks what it does, and takes no notice of anything after them. Without such a
request, without an address, or without an answer from the owner of the mapper, it
does nothing at all, and neither does a datagram that is no frame.

If the frame is to register, to look up or to withdraw a name, a session and a
datagram from the same source change the same names and nothing else, and ask about
the same ports; what the session sends is what the datagram leaves in the outbox for
its source. If the frame asks for a list, neither changes anything, and only the
session is answered. -/
theorem agrees_with_datagram (m : Mapper) (isFree : Vacancy) (now : Nat) :
    (∀ source bytes ending r, frameSize ≤ bytes.length →
      Request.ofFrame (bytes.take frameSize) = .ok r →
        serve m isFree now (some source) ⟨bytes, ending⟩ .answers =
          { sent := (m.handle isFree now r source .tcp).outcome.written
            mapper := (m.handle isFree now r source .tcp).mapper
            asked := (m.handle isFree now r source .tcp).asked }) ∧
    (∀ source bytes ending owner,
      bytes.length < frameSize ∨ (∃ f, Request.ofFrame (bytes.take frameSize) = .error f) ∨
          source = none ∨ owner ≠ .answers →
        serve m isFree now source ⟨bytes, ending⟩ owner = { mapper := m }) ∧
    (∀ source bytes,
      bytes.length ≠ frameSize ∨ (∃ f, Request.ofFrame bytes = .error f) →
        m.receive isFree now bytes source = { mapper := m }) ∧
    ∀ source frame ending r, Request.ofFrame frame = .ok r →
      let served := serve m isFree now (some source) ⟨frame, ending⟩ .answers
      let received := m.receive isFree now frame source
      (r.IsAboutNames →
        served.mapper = { m with directory := served.mapper.directory } ∧
          received.asked = served.asked ∧
          received.mapper = { served.mapper with
            outbox := if served.sent = [] then m.outbox else m.outbox.post source served.sent }) ∧
      (r.opcode = .servers →
        served = { sent := Reply.addresses m.neighbours.addresses, mapper := m } ∧
          received = { mapper := m }) ∧
      (r.opcode = .names →
        served = { sent := Reply.names m.directory.listing, mapper := m } ∧
          received = { mapper := m }) := by
  refine ⟨?_, ?_, ?_, ?_⟩
  · intro source bytes ending r hle hr
    apply serve_of_request?
    rw [request?_of_le hle, hr]
    rfl
  · intro source bytes ending owner h
    apply serve_of_failure
    rcases h with hlt | ⟨f, hf⟩ | h | h
    · exact .inr (.inl (request?_of_lt hlt))
    · exact .inr (.inl (request?_of_error hf))
    · exact .inl h
    · exact .inr (.inr h)
  · intro source bytes h
    rcases h with hne | ⟨f, hf⟩
    · exact Mapper.receive_of_length_ne hne
    · exact Mapper.receive_of_fault hf
  · intro source frame ending r hr served received
    have hserved : served = _ := serve_of_request? (request?_of_ofFrame hr)
    refine ⟨fun h => ?_, fun hop => ?_, fun hop => ?_⟩
    · obtain ⟨hframe, hreceived⟩ := m.receive_of_about_names isFree now source hr h
      rw [hserved]
      refine ⟨hframe, ?_, ?_⟩
      · exact congrArg Mapper.Received.asked hreceived
      · exact congrArg Mapper.Received.mapper hreceived
    · refine ⟨?_, m.receive_of_about_list isFree now source hr (.inl hop)⟩
      rw [hserved]
      simp only [Mapper.handle, hop, Mapper.list, Outcome.written]
    · refine ⟨?_, m.receive_of_about_list isFree now source hr (.inr hop)⟩
      rw [hserved]
      simp only [Mapper.handle, hop, Mapper.list, Outcome.written]

/-- A frame at the beginning of a stream and a datagram with that frame register the
same name; half a frame does nothing in either. -/
theorem registration_agrees :
    let m : Mapper := .start ⟨[Host.loopbackInterface]⟩ 538 {}
    let source : Endpoint := ⟨.localhost, 50000⟩
    let isFree : Vacancy := fun _ => true
    let r : Request := { opcode := .register, kindByte := 0x11, port := 4000, name := [0x61] }
    let served := serve m isFree 7 (some source) ⟨r.frame ++ [1, 2, 3], .stalled⟩ .answers
    let half := r.frame.take 132
    served.sent = Reply.port 4000 ∧ served.mapper.directory ≠ m.directory ∧
      (m.receive isFree 7 r.frame source).mapper =
        { served.mapper with outbox := m.outbox.post source (Reply.port 4000) } ∧
      serve m isFree 7 (some source) ⟨half, .closed⟩ .answers = { mapper := m } ∧
      m.receive isFree 7 half source = { mapper := m } := by
  intro m source isFree r served half
  obtain ⟨hserve, hfailure, hreceive, hagree⟩ := agrees_with_datagram m isFree 7
  have hr : Request.ofFrame r.frame = .ok r := Request.ofFrame_frame (by decide)
  have htake : (r.frame ++ [1, 2, 3]).take frameSize = r.frame := List.take_left' r.length_frame
  have hfirst : served = _ :=
    hserve source (r.frame ++ [1, 2, 3]) .stalled r (by decide +kernel) (by rw [htake, hr])
  obtain ⟨hnames, -, -⟩ := hagree source r.frame .closed r hr
  obtain ⟨-, -, hmapper⟩ := hnames (.inl rfl)
  rw [hmapper, hfirst]
  refine ⟨by decide +kernel, by decide +kernel, by decide +kernel, ?_, ?_⟩
  · exact hfailure (some source) half .closed .answers (.inl (by decide +kernel))
  · exact hreceive source half (.inl (by decide +kernel))

end Session

end PortMapper
