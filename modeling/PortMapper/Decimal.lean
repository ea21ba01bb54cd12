/-!
# Decimal numbers

Numbers in settings, environment variables and command lines are written in
decimal: `Decimal.text` writes one and `Decimal.read` reads one back, up to a
limit. A reader stops at the first fault from the left: a character that is
no digit, or a digit that takes the number past its limit.
-/

namespace PortMapper

/-- Why a text is no number. -/
inductive NumberFault where
  | empty
  | invalidDigit
  | tooLarge
deriving DecidableEq, Repr

/-- The wording of a fault. -/
def NumberFault.message : NumberFault → String
  | .empty => "cannot parse integer from empty string"
  | .invalidDigit => "invalid digit found in string"
  | .tooLarge => "number too large to fit in target type"

namespace Decimal

/-- The digits of a number, without leading zeros. -/
def text (n : Nat) : List Char := Nat.toDigits 10 n

/-- Continues reading a number of which `n` has been read. -/
def readDigits (limit : Nat) : Nat → List Char → Except NumberFault Nat
  | n, [] => .ok n
  | n, c :: cs =>
    if !c.isDigit then .error .invalidDigit
    else
      let m := 10 * n + (c.toNat - '0'.toNat)
      if limit < m then .error .tooLarge else readDigits limit m cs

/-- Reads a number of at most `limit`. A plus sign may stand before the
digits, and leading zeros do not matter. -/
def read (limit : Nat) : List Char → Except NumberFault Nat
  | [] => .error .empty
  | ['+'] => .error .invalidDigit
  | '+' :: cs => readDigits limit 0 cs
  | cs => readDigits limit 0 cs

end Decimal

end PortMapper
