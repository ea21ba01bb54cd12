import PortMapper.Mapper
import PortMapper.Stream

/-!
# Sessions

In a session a client sends one request over a connection, and gets the reply
or nothing. The first 264 bytes are the request, and what follows them is not
looked at. The session passes the request on to the owner of the mapper, which
may be gone, or go away without answering.
-/

namespace PortMapper

/-- What the owner of the mapper does with a request. -/
inductive Owner where
  | answers
  /-- It takes no requests any more. -/
  | gone
  /-- It takes the request, and drops it unhandled. -/
  | drops
deriving DecidableEq, Repr

namespace Session

/-- What a session came to, the mapper after it, and the ports that it asked
about. -/
structure Served where
  /-- The bytes handed over for writing. How many of them the client gets when
  writing fails, or takes too long, is for the connection (`Service.act`). -/
  sent : Bytes := []
  mapper : Mapper
  asked : List PortUse := []
deriving DecidableEq, Repr

/-- The request at the beginning of a stream. -/
def request? (received : Stream) : Option Request :=
  match received.take frameSize with
  | .error _ => none
  | .ok (frame, _) => (Request.ofFrame frame).toOption

/-- Serves a client, up to the writing of its reply. One without an IPv4
address is not served. -/
def serve (m : Mapper) (isFree : Vacancy) (now : Nat) (source : Option Endpoint)
    (received : Stream) (owner : Owner) : Served :=
  match source, request? received, owner with
  | some source, some request, .answers =>
    let h := m.handle isFree now request source .tcp
    { sent := h.outcome.written, mapper := h.mapper, asked := h.asked }
  | _, _, _ => { mapper := m }

end Session

end PortMapper
