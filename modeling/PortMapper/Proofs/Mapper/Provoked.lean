import PortMapper.Proofs.Mapper.Naming
import PortMapper.Proofs.Request.Codec

/-!
# What a datagram provokes

Taking in a datagram may add others to the outbox (`Mapper.provoked`). Only a
datagram that holds a request, other than the answer to a probe, does so
(`Mapper.mayProvoke`); all others are inert (`Mapper.inert_of_not_mayProvoke`).
It adds at most one, which goes back to where the datagram comes from, is not
longer, and does not provoke anything itself (`Mapper.receive_cases`): over
UDP a daemon answers with a port, which is no request, or with the answer to a
probe.
-/

namespace PortMapper

namespace Mapper

/-- The datagrams that taking in a datagram adds to the outbox. -/
def provoked (m : Mapper) (isFree : Vacancy) (now : Nat) (bytes : Bytes) (source : Endpoint) :
    List Datagram :=
  (m.receive isFree now bytes source).mapper.outbox.queue.drop m.outbox.queue.length

/-- Whether no daemon ever answers some bytes, wherever they come from, and its
names stay as they are. -/
def Inert (bytes : Bytes) : Prop :=
  ∀ (m : Mapper) (isFree : Vacancy) (now : Nat) (source : Endpoint),
    (m.receive isFree now bytes source).mapper.outbox = m.outbox ∧
      (m.receive isFree now bytes source).mapper.directory = m.directory

/-- Whether bytes hold a request that is not the answer to a probe. -/
def mayProvoke (bytes : Bytes) : Bool :=
  match Request.ofFrame bytes with
  | .ok r => r.opcode != .probeReply
  | .error _ => false

variable {m : Mapper} {isFree : Vacancy} {now : Nat} {r : Request} {source : Endpoint}
  {channel : Channel} {bytes reply : Bytes}

/-! ## What provokes nothing -/

theorem mayProvoke_port (p : UInt32) : mayProvoke (Reply.port p) = false := by
  cases h : Request.ofFrame (Reply.port p) with
  | error fault => simp only [mayProvoke, h]
  | ok r => exact absurd (Request.length_of_ofFrame h) (by simp [Reply.port, frameSize])

theorem mayProvoke_probeReply (ours prober : Address) (others : List Address) :
    mayProvoke (Request.probeReply ours prober others).frame = false := by
  have hname := Request.length_name_probeReply ours prober others
  simp only [mayProvoke, Request.ofFrame_frame hname]
  rfl

/-- The answer to a probe is never answered. -/
theorem noteReply_outcome (m : Mapper) (now : Nat) (r : Request) (source : Endpoint)
    (channel : Channel) : (m.noteReply now r source channel).outcome = .close := by
  rw [noteReply]
  split
  · rfl
  · rfl

theorem inert_of_not_mayProvoke (h : mayProvoke bytes = false) : Inert bytes := by
  intro m isFree now source
  cases hr : Request.ofFrame bytes with
  | error fault =>
    rw [receive_of_fault hr]
    exact ⟨rfl, rfl⟩
  | ok r =>
    have hop : r.opcode = .probeReply := by simpa [mayProvoke, hr] using h
    have hout : (m.handle isFree now r source .udp).outcome = .close := by
      simp only [handle, hop, noteReply_outcome]
    have hanswer : m.directory.answer? m.host isFree r source = none := by
      simp only [Directory.answer?, hop]
    rw [receive_of_close hr hout]
    exact ⟨m.handle_outbox .., (handle_of_no_answer hanswer).1⟩

/-! ## What is provoked -/

/-- Over UDP, a request that is answered is not the answer to a probe, and is
answered with a port or with the answer to a probe. -/
theorem handle_reply (h : (m.handle isFree now r source .udp).outcome = .reply reply) :
    r.opcode ≠ .probeReply ∧
      ((∃ p, reply = Reply.port p) ∨ ∃ prober, reply = (m.probeReply prober).frame) := by
  cases hop : r.opcode with
  | register | unregister =>
    simp only [handle, hop, change] at h
    split at h
    · cases h
    · split at h <;> cases h
      exact ⟨by decide, .inl ⟨_, rfl⟩⟩
  | lookup =>
    simp only [handle, hop, lookup] at h
    split at h <;> cases h
    exact ⟨by decide, .inl ⟨_, rfl⟩⟩
  | servers | names =>
    simp only [handle, hop, list] at h
    cases h
  | probe =>
    simp only [handle, hop, probe] at h
    split at h <;> cases h
    exact ⟨by decide, .inr ⟨_, rfl⟩⟩
  | probeReply =>
    simp only [handle, hop, noteReply_outcome] at h
    cases h

/-- A datagram is not answered, or with one that is not longer and provokes
nothing. -/
theorem receive_cases (m : Mapper) (isFree : Vacancy) (now : Nat) (bytes : Bytes)
    (source : Endpoint) :
    (m.receive isFree now bytes source).mapper.outbox = m.outbox ∨
      mayProvoke bytes = true ∧ ∃ reply,
        (m.receive isFree now bytes source).mapper.outbox = m.outbox.post source reply ∧
          reply.length ≤ bytes.length ∧ mayProvoke reply = false := by
  cases hr : Request.ofFrame bytes with
  | error fault =>
    rw [receive_of_fault hr]
    exact .inl rfl
  | ok r =>
    cases hout : (m.handle isFree now r source .udp).outcome with
    | close =>
      rw [receive_of_close hr hout]
      exact .inl (m.handle_outbox ..)
    | reply reply =>
      obtain ⟨hop, hreply⟩ := handle_reply hout
      rw [receive_of_reply hr hout]
      refine .inr ⟨by simp [mayProvoke, hr, hop], reply, rfl, ?_⟩
      rw [Request.length_of_ofFrame hr]
      rcases hreply with ⟨p, rfl⟩ | ⟨prober, rfl⟩
      · exact ⟨by simp [Reply.port, frameSize], mayProvoke_port p⟩
      · exact ⟨(Request.length_frame _).le, mayProvoke_probeReply ..⟩

/-- What a datagram provokes is added to the outbox. It is nothing, or one
answer that provokes nothing, if the datagram may provoke anything. -/
theorem queue_receive (m : Mapper) (isFree : Vacancy) (now : Nat) (bytes : Bytes)
    (source : Endpoint) :
    (m.receive isFree now bytes source).mapper.outbox.queue =
        m.outbox.queue ++ m.provoked isFree now bytes source ∧
      (m.provoked isFree now bytes source = [] ∨
        mayProvoke bytes = true ∧ ∃ reply,
          m.provoked isFree now bytes source = [⟨source, reply, .reply⟩] ∧
            reply.length ≤ bytes.length ∧ mayProvoke reply = false) := by
  rw [provoked]
  rcases m.receive_cases isFree now bytes source with h | ⟨hmay, reply, h, hlength, hreply⟩
  · rw [h, List.drop_length, List.append_nil]
    exact ⟨rfl, .inl rfl⟩
  · rw [h, Outbox.queue_post, List.drop_left]
    exact ⟨rfl, .inr ⟨hmay, reply, rfl, hlength, hreply⟩⟩

end Mapper

end PortMapper
