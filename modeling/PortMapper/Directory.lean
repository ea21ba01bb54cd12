import PortMapper.MessageFault
import PortMapper.PortUse
import PortMapper.Reply

/-!
# The directory of names

A directory records for each name the port it is registered at. Its entries
are kept in the order of their names, so that `Directory.locate` finds a name
by bisection, and no name has more than one entry. A name is only taken over
from another port if that port is free. Operations that have to know that
answer with the ports they asked about.
-/

namespace PortMapper

/-- A name and the port it is registered at. -/
structure Registration where
  name : Bytes
  port : UInt32
  kind : PortKind
deriving DecidableEq, Repr

/-- What has to be free for a registration to be obsolete. -/
def Registration.use (r : Registration) : PortUse := ⟨r.port, r.kind.transport⟩

/-- The names registered on this host. -/
structure Directory where
  entries : Array Registration := #[]
deriving DecidableEq, Repr

namespace Directory

/-- Where a name is, or where it belongs. -/
inductive Place where
  | present (index : Nat) (entry : Registration)
  | absent (index : Nat)
deriving DecidableEq, Repr

/-- Looks for a name between two positions. -/
def locateIn (d : Directory) (name : Bytes) (lo hi : Nat) : Place :=
  if _h : lo < hi then
    let mid := (lo + hi) / 2
    match d.entries[mid]? with
    | none => .absent lo
    | some entry =>
      match compare entry.name name with
      | .lt => locateIn d name (mid + 1) hi
      | .eq => .present mid entry
      | .gt => locateIn d name lo mid
  else .absent lo
termination_by hi - lo

/-- The place of a name. -/
def locate (d : Directory) (name : Bytes) : Place := d.locateIn name 0 d.entries.size

/-- The answer to a change or a question: a port, or 0 for a refusal, the
directory after it, and the ports asked about. -/
structure Answer where
  port : UInt32
  directory : Directory
  asked : List PortUse := []
deriving DecidableEq, Repr

/-- Whether something may be registered: names have 1 to 255 bytes and ports
lie between 1 and 65535. -/
def acceptable (name : Bytes) (port : UInt32) : Bool :=
  !name.isEmpty && name.length ≤ maxNameLength && port != 0 && port ≤ maxPort

/-- Registers a name. One that is registered otherwise is taken over if the
port recorded for it is free. -/
def register (d : Directory) (isFree : Vacancy) (name : Bytes) (port : UInt32) (kind : PortKind) :
    Answer :=
  if !acceptable name port then ⟨0, d, []⟩
  else match d.locate name with
    | .absent i => ⟨port, ⟨d.entries.insertIdxIfInBounds i ⟨name, port, kind⟩⟩, []⟩
    | .present i entry =>
      if entry.port = port ∧ entry.kind = kind then ⟨port, d, []⟩
      else if isFree entry.use then
        ⟨port, ⟨d.entries.setIfInBounds i ⟨name, port, kind⟩⟩, [entry.use]⟩
      else ⟨0, d, [entry.use]⟩

/-- The entry of a name. -/
def get? (d : Directory) (name : Bytes) : Option Registration :=
  match d.locate name with
  | .present _ entry => some entry
  | .absent _ => none

/-- The port recorded for a name under exactly this kind, or 0. -/
def lookup (d : Directory) (name : Bytes) (kind : PortKind) : UInt32 :=
  match d.locate name with
  | .present _ entry => if entry.kind = kind then entry.port else 0
  | .absent _ => 0

/-- As `lookup`, but a TCP entry whose port is free is dropped and not
reported. That a UDP port is free says nothing about its holder. -/
def lookupLive (d : Directory) (isFree : Vacancy) (name : Bytes) (kind : PortKind) : Answer :=
  match d.locate name with
  | .absent _ => ⟨0, d, []⟩
  | .present i entry =>
    if entry.kind ≠ kind then ⟨0, d, []⟩
    else if entry.kind.transport = .udp then ⟨entry.port, d, []⟩
    else if isFree entry.use then ⟨0, ⟨d.entries.eraseIdxIfInBounds i⟩, [entry.use]⟩
    else ⟨entry.port, d, [entry.use]⟩

/-- Withdraws a name that is registered at exactly this port and kind, or
every such name if none is given. Answers with the port if there was one. -/
def withdraw (d : Directory) (name : Bytes) (port : UInt32) (kind : PortKind) : Answer :=
  if name.isEmpty then
    let kept := d.entries.filter fun e => !(e.port == port && e.kind == kind)
    ⟨if kept.size < d.entries.size then port else 0, ⟨kept⟩, []⟩
  else match d.locate name with
    | .absent _ => ⟨0, d, []⟩
    | .present i entry =>
      if entry.port = port ∧ entry.kind = kind then
        ⟨port, ⟨d.entries.eraseIdxIfInBounds i⟩, []⟩
      else ⟨0, d, []⟩

/-- The names and their kinds, in the order of the names. -/
def listing (d : Directory) : List Reply.Listed :=
  d.entries.toList.map fun e => ⟨e.name, e.kind⟩

/-- The number of names. -/
def size (d : Directory) : Nat := d.entries.size

end Directory

end PortMapper
