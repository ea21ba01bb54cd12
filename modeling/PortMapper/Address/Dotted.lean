import PortMapper.Address
import PortMapper.Decimal

/-!
# Dotted addresses

An address is written as its four bytes in decimal with dots between them.
`Address.parse?` reads exactly what `Address.dotted` writes: each part has
one to three digits, no leading zero and a value below 256.
-/

namespace PortMapper

namespace Address

/-- The text of an address. -/
def dotted (a : Address) : List Char :=
  ['.'].intercalate (a.octets.map fun b => Decimal.text b.toNat)

/-- One part of a dotted address. -/
def octet? (cs : List Char) : Option UInt8 :=
  if cs = [] ∨ 3 < cs.length ∨ !cs.all Char.isDigit then none
  else if 1 < cs.length ∧ cs.head? = some '0' then none
  else
    let n := Nat.ofDigitChars 10 cs 0
    if n < 256 then some n.toUInt8 else none

/-- The address written as `cs`. -/
def parse? (cs : List Char) : Option Address :=
  match cs.splitOn '.' with
  | [a, b, c, d] => do return ofOctets (← octet? a) (← octet? b) (← octet? c) (← octet? d)
  | _ => none

/-- What is said of a text that is no address. -/
def invalidText : String := "invalid IPv4 address syntax"

end Address

instance : ToString Address := ⟨fun a => String.ofList a.dotted⟩

instance : ToString Endpoint := ⟨fun e => s!"{e.address}:{e.port}"⟩

end PortMapper
