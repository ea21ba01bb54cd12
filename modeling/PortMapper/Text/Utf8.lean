import PortMapper.Bytes

/-!
# UTF-8

Text is stored and sent in UTF-8. `Utf8.decode?` reads a text that is well
formed. `Utf8.decodeLossy` reads any bytes and puts the replacement character
for each ill-formed part, a part being as long as it could have been the
beginning of a character.
-/

namespace PortMapper.Utf8

/-- The bytes of a text. -/
def encode (cs : List Char) : Bytes := cs.flatMap String.utf8EncodeChar

/-- A character that has begun: how many bytes are to come, between what
bounds the next must be, and the bits so far. -/
structure Begun where
  missing : Nat
  least : UInt8 := 0x80
  greatest : UInt8 := 0xbf
  bits : Nat

/-- What the first byte of a character says. -/
inductive Lead where
  | character (c : Char)
  | begins (b : Begun)
  | illFormed

/-- Reads the first byte of a character. The bounds on the second byte keep
out code points that have a shorter form, surrogates, and those past the
last one. -/
def lead (b : UInt8) : Lead :=
  if b < 0x80 then .character (Char.ofNat b.toNat)
  else if b < 0xc2 then .illFormed
  else if b < 0xe0 then .begins { missing := 1, bits := b.toNat % 32 }
  else if b = 0xe0 then .begins { missing := 2, least := 0xa0, bits := 0 }
  else if b = 0xed then .begins { missing := 2, greatest := 0x9f, bits := 13 }
  else if b < 0xf0 then .begins { missing := 2, bits := b.toNat % 16 }
  else if b = 0xf0 then .begins { missing := 3, least := 0x90, bits := 0 }
  else if b < 0xf4 then .begins { missing := 3, bits := b.toNat % 8 }
  else if b = 0xf4 then .begins { missing := 3, greatest := 0x8f, bits := 4 }
  else .illFormed

/-- What is complete after the first byte of a character, and what has begun. -/
def start (b : UInt8) : List (Option Char) × Option Begun :=
  match lead b with
  | .character c => ([some c], none)
  | .begins p => ([], some p)
  | .illFormed => ([none], none)

/-- What is complete after a byte, with `none` for an ill-formed part, and what
has begun. A byte that does not continue a character may begin another. -/
def next : Option Begun → UInt8 → List (Option Char) × Option Begun
  | none, b => start b
  | some p, b =>
    if p.least ≤ b ∧ b ≤ p.greatest then
      let bits := 64 * p.bits + b.toNat % 64
      if p.missing = 1 then ([some (Char.ofNat bits)], none)
      else ([], some { missing := p.missing - 1, bits })
    else
      let (complete, begun) := start b
      (none :: complete, begun)

/-- The characters of some bytes, with `none` for each ill-formed part. -/
def characters : Option Begun → Bytes → List (Option Char)
  | none, [] => []
  | some _, [] => [none]
  | begun, b :: bs =>
    let (complete, begun) := next begun b
    complete ++ characters begun bs

/-- The text that bytes encode, if they are well formed. -/
def decode? (bs : Bytes) : Option (List Char) := (characters none bs).mapM id

/-- The text that bytes encode, with replacement characters. -/
def decodeLossy (bs : Bytes) : List Char := (characters none bs).map (·.getD '\uFFFD')

end PortMapper.Utf8
