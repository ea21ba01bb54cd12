import PortMapper.Client
import PortMapper.Session

/-!
# The network of a daemon

On the network of a daemon every frame that a client sends is served in a
session of its own (`Session.network`), so that the calls of the client are
what happens to the mapper.
-/

namespace PortMapper

/-- The network on which a client at `source` reaches the daemon of a mapper,
wherever it connects to. The client keeps its side of the connection open, and
the daemon closes the connection after the reply. -/
def Session.network (isFree : Vacancy) (now : Nat) (source : Endpoint) : Network Mapper :=
  fun _ frame m =>
    let served := Session.serve m isFree now (some source) ⟨frame, .stalled⟩ .answers
    (.received ⟨served.sent, .closed⟩, served.mapper)

end PortMapper
