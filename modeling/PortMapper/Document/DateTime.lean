import PortMapper.Document.Scan
import PortMapper.Document.Value

/-!
# Dates and times in documents

A date is `YYYY-MM-DD`, a time `HH:MM:SS` with a fraction if wanted, and a
date may be followed by a time, and that by an offset. The calendar counts:
the thirtieth of February is no date.
-/

namespace PortMapper.Document

/-- Reads two digits that make a number between two bounds. -/
def twoDigits (least greatest : Nat) : Reader Nat
  | a :: b :: cs =>
    if a.isDigit && b.isDigit then
      let n := 10 * digitValue a + digitValue b
      if least ≤ n ∧ n ≤ greatest then some (n, cs) else none
    else none
  | _ => none

/-- The number of days of a month. -/
def daysIn (year month : Nat) : Nat :=
  if month = 2 then
    if year % 4 = 0 ∧ (year % 100 ≠ 0 ∨ year % 400 = 0) then 29 else 28
  else if month ∈ [4, 6, 9, 11] then 30
  else 31

/-- Reads a date. -/
def date (cs : List Char) : Option (List Char) := do
  let (century, cs) ← twoDigits 0 99 cs
  let (year, cs) ← twoDigits 0 99 cs
  let cs ← literal ['-'] cs
  let (month, cs) ← twoDigits 1 12 cs
  let cs ← literal ['-'] cs
  let (day, cs) ← twoDigits 1 31 cs
  if day ≤ daysIn (100 * century + year) month then some cs else none

/-- Reads a time. A minute may have sixty-one seconds. -/
def time (cs : List Char) : Option (List Char) := do
  let (_, cs) ← twoDigits 0 23 cs
  let cs ← literal [':'] cs
  let (_, cs) ← twoDigits 0 59 cs
  let cs ← literal [':'] cs
  let (_, cs) ← twoDigits 0 60 cs
  match cs with
  | '.' :: c :: rest => if c.isDigit then some (rest.dropWhile Char.isDigit) else some cs
  | _ => some cs

/-- Reads the offset of a time, if there is one. -/
def offset : List Char → List Char
  | 'Z' :: cs => cs
  | 'z' :: cs => cs
  | c :: cs =>
    if c == '+' || c == '-' then
      let read := do
        let (_, cs) ← twoDigits 0 23 cs
        let cs ← literal [':'] cs
        let (_, cs) ← twoDigits 0 59 cs
        return cs
      read.getD (c :: cs)
    else c :: cs
  | [] => []

/-- Reads a date, a time, or a date and a time. -/
def dateTime : Reader Value := fun cs => do
  let rest ← match date cs with
    | none => time cs
    | some afterDate =>
      match afterDate with
      | c :: later =>
        if c == 'T' || c == 't' || c == ' ' then
          match time later with
          | some afterTime => some (offset afterTime)
          | none => some afterDate
        else some afterDate
      | [] => some []
  return (.dateTime (cs.take (cs.length - rest.length)), rest)

end PortMapper.Document
