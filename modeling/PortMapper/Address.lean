import PortMapper.Bytes

/-!
# Addresses

An IPv4 address is a 32-bit number, most often handled as the four bytes it
has on the wire (`Address.octets`, `Address.ofOctets`). An endpoint is an
address with a port.
-/

namespace PortMapper

/-- An IPv4 address. -/
structure Address where
  bits : UInt32
deriving DecidableEq, Repr, Inhabited

namespace Address

/-- The address whose four bytes are `a.b.c.d`. -/
def ofOctets (a b c d : UInt8) : Address := ⟨ofWord a b c d⟩

/-- The four bytes of an address, as they are sent. -/
def octets (a : Address) : Bytes := word a.bits

/-- The address that stands for none in particular, `0.0.0.0`. -/
def unspecified : Address := ⟨0⟩

/-- The address of the loopback interface, `127.0.0.1`. -/
def localhost : Address := ofOctets 127 0 0 1

/-- Addresses of the network `127.0.0.0/8` never leave the host. -/
def isLoopback (a : Address) : Bool := a.bits >>> 24 == 127

/-- Size of an address in a payload, in bytes. -/
def size : Nat := 4

/-- The addresses written one after another. -/
def encodeAll (as : List Address) : Bytes := as.flatMap octets

/-- The addresses of a run of bytes; up to three bytes left at its end are
not looked at. -/
def decodeAll : Bytes → List Address
  | a :: b :: c :: d :: rest => ofOctets a b c d :: decodeAll rest
  | _ => []

@[simp] theorem length_octets (a : Address) : a.octets.length = size := rfl

@[simp] theorem octets_ofOctets (a b c d : UInt8) : (ofOctets a b c d).octets = [a, b, c, d] :=
  word_ofWord a b c d

@[simp] theorem encodeAll_nil : encodeAll [] = [] := rfl

@[simp] theorem encodeAll_cons (a : Address) (as : List Address) :
    encodeAll (a :: as) = a.octets ++ encodeAll as := rfl

@[simp] theorem length_encodeAll (as : List Address) :
    (encodeAll as).length = size * as.length := by
  induction as with
  | nil => rfl
  | cons a as ih => simp [ih, Nat.mul_succ, Nat.add_comm]

@[simp] theorem decodeAll_octets_append (a : Address) (rest : Bytes) :
    decodeAll (a.octets ++ rest) = a :: decodeAll rest := by
  simp [octets, word, decodeAll, ofOctets, ofWord_word]

/-- Addresses written one after another are read back. -/
@[simp] theorem decodeAll_encodeAll (as : List Address) : decodeAll (encodeAll as) = as := by
  induction as with
  | nil => rfl
  | cons a as ih => simp [ih]

end Address

/-- Where datagrams and connections come from and go to. -/
structure Endpoint where
  address : Address
  port : UInt16
deriving DecidableEq, Repr, Inhabited

end PortMapper
