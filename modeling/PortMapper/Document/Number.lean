import PortMapper.Document.Scan
import PortMapper.Document.Value

/-!
# Numbers in documents

Integers are written in decimal, with a sign if wanted, or in base 16, 8 or 2
after `0x`, `0o` or `0b`; they must fit in 64 bits with a sign. A fraction or
an exponent makes a float, and so do the names of infinity and of what is no
number. Single underscores may separate digits.
-/

namespace PortMapper.Document

/-! ## Digits -/

/-- Reads further digits, underscores between digits included. -/
def moreDigits (isDigit : Char → Bool) : List Char → List Char × List Char
  | '_' :: c :: cs =>
    if isDigit c then
      let (ds, rest) := moreDigits isDigit cs
      (c :: ds, rest)
    else ([], '_' :: c :: cs)
  | c :: cs =>
    if isDigit c then
      let (ds, rest) := moreDigits isDigit cs
      (c :: ds, rest)
    else ([], c :: cs)
  | [] => ([], [])

/-- Reads digits, of which there must be one. -/
def digits (isDigit : Char → Bool) : Reader (List Char)
  | [] => none
  | c :: cs =>
    if isDigit c then
      let (ds, rest) := moreDigits isDigit cs
      some (c :: ds, rest)
    else none

/-- The number written by digits of a base. -/
def digitsValue (base : Nat) (ds : List Char) : Nat :=
  ds.foldl (fun n c => base * n + digitValue c) 0

/-- Reads a sign: whether there is a minus. -/
def sign : List Char → Bool × List Char
  | '+' :: cs => (false, cs)
  | '-' :: cs => (true, cs)
  | cs => (false, cs)

/-- Reads decimal digits without leading zeros. -/
def wholeDigits : Reader (List Char)
  | '0' :: cs => some (['0'], cs)
  | cs => digits Char.isDigit cs

/-! ## Integers -/

/-- An integer, if it fits in 64 bits. -/
def integerValue? (n : Int) : Option Value :=
  if -0x8000000000000000 ≤ n ∧ n < 0x8000000000000000 then some (.integer n) else none

/-- Reads an integer in another base than ten. -/
def radixInteger (base : Nat) (isDigit : Char → Bool) : Reader Value := fun cs => do
  let (ds, rest) ← digits isDigit cs
  return (← integerValue? (digitsValue base ds), rest)

/-- Reads an integer. -/
def integer : Reader Value
  | '0' :: 'x' :: cs => radixInteger 16 isHexDigit cs
  | '0' :: 'o' :: cs => radixInteger 8 (fun c => '0' ≤ c && c ≤ '7') cs
  | '0' :: 'b' :: cs => radixInteger 2 (fun c => c == '0' || c == '1') cs
  | cs => do
    let (negative, cs) := sign cs
    let (ds, rest) ← wholeDigits cs
    let n : Int := digitsValue 10 ds
    return (← integerValue? (if negative then -n else n), rest)

/-! ## Floats -/

/-- The least number that is nearer to `2 ^ 1024` than to any float below it,
or as near. -/
def floatLimit : Nat := 1 <<< 1024 - 1 <<< 970

/-- Whether `n * 10 ^ e` is too large for a float. The digits of `n` are
counted first, so that no power is large. -/
def exceedsFloats (n : Nat) (e : Int) : Bool :=
  if n = 0 then false
  else
    let magnitude : Int := (Nat.toDigits 10 n).length + e
    if magnitude < 300 then false
    else if 310 < magnitude then true
    else floatLimit * Nat.pow 10 (-e).toNat ≤ n * Nat.pow 10 e.toNat

/-- Reads a fraction, if there is one. -/
def fraction : Reader (List Char)
  | '.' :: cs => digits Char.isDigit cs
  | cs => some ([], cs)

/-- Reads an exponent, if there is one. -/
def exponent : Reader Int
  | c :: cs =>
    if c == 'e' || c == 'E' then do
      let (negative, cs) := sign cs
      let (ds, rest) ← digits Char.isDigit cs
      let n : Int := digitsValue 10 ds
      return (if negative then -n else n, rest)
    else some (0, c :: cs)
  | [] => some (0, [])

/-- Reads a float. A positive one must not be too large. -/
def float : Reader Value := fun cs => do
  let (negative, unsigned) := sign cs
  match literal "inf".toList unsigned <|> literal "nan".toList unsigned with
  | some rest => return (.float (cs.take (cs.length - rest.length)), rest)
  | none =>
    let (whole, afterWhole) ← wholeDigits unsigned
    let (part, afterPart) ← fraction afterWhole
    let (e, rest) ← exponent afterPart
    if rest.length = afterWhole.length then none
    if !negative && exceedsFloats (digitsValue 10 (whole ++ part)) (e - part.length) then none
    return (.float (cs.take (cs.length - rest.length)), rest)

end PortMapper.Document
