import PortMapper.Address
import PortMapper.MessageFault

/-!
# Replies

Replies are not framed. A port is sent in four bytes. A list of addresses is
sent after its number, a list of names after the number of bytes it takes;
the reader gets that number from a header of four bytes, checks it against a
limit, and then knows how many bytes to wait for.
-/

namespace PortMapper

namespace Reply

/-! ## Ports -/

/-- A port as a reply; 0 says that there is none. -/
def port (p : UInt32) : Bytes := word p

/-- Reads a port. -/
def readPort : Bytes → Except MessageFault UInt32
  | [a, b, c, d] => .ok (ofWord a b c d)
  | bytes => .error (.shortReply 4 bytes.length)

@[simp] theorem readPort_port (p : UInt32) : readPort (port p) = .ok p := by
  simp [port, readPort, word, ofWord_word]

/-! ## Addresses -/

/-- The most addresses that a reader accepts. -/
def maxAddresses : Nat := 65536

/-- A list of addresses as a reply. -/
def addresses (as : List Address) : Bytes :=
  word as.length.toUInt32 ++ Address.encodeAll as

/-- The number of addresses that a header announces. -/
def addressCount (a b c d : UInt8) : Except MessageFault Nat :=
  let count := (ofWord a b c d).toNat
  if maxAddresses < count then .error (.replyTooLarge count) else .ok count

/-- Reads the addresses that follow a header announcing `count` of them. -/
def readAddresses (body : Bytes) (count : Nat) : Except MessageFault (List Address) :=
  let expected := count * Address.size
  if body.length = expected then .ok (Address.decodeAll body)
  else .error (.shortReply expected body.length)

/-! ## Names -/

/-- A name listed with its kind. -/
structure Listed where
  name : Bytes
  kind : PortKind
deriving DecidableEq, Repr

/-- The most bytes of names that a reader accepts. -/
def maxNamesBytes : Nat := 16777216

/-- A name in a list: its length, its kind and its bytes. -/
def listed (e : Listed) : Bytes :=
  e.name.length.toUInt8 :: e.kind.toByte :: e.name

/-- The names of a list one after another. -/
def namesBody (es : List Listed) : Bytes := es.flatMap listed

/-- A list of names as a reply. -/
def names (es : List Listed) : Bytes :=
  word (namesBody es).length.toUInt32 ++ namesBody es

/-- The number of bytes that a header announces. -/
def namesLength (a b c d : UInt8) : Except MessageFault Nat :=
  let length := (ofWord a b c d).toNat
  if maxNamesBytes < length then .error (.replyTooLarge length) else .ok length

/-- Reads a list of names. The kind of an entry is looked at before the end
of its name. -/
def readNames : Bytes → Except MessageFault (List Listed)
  | [] => .ok []
  | [_] => .error .truncatedNames
  | length :: kindByte :: rest => do
    let kind ← PortKind.ofByte kindByte
    if rest.length < length.toNat then throw .truncatedNames
    let es ← readNames (rest.drop length.toNat)
    return ⟨rest.take length.toNat, kind⟩ :: es
termination_by bytes => bytes.length
decreasing_by simp; omega

end Reply

end PortMapper
