import PortMapper.Document.DateTime
import PortMapper.Document.Number
import PortMapper.Document.Quoted
import PortMapper.Document.Table

/-!
# Reading documents

`Document.read?` gives the table that a text describes, line by line: a key
with its value, a header, a comment or nothing. Values nest, up to a depth
that is part of the format.
-/

namespace PortMapper.Document

/-! ## Keys -/

/-- Reads a single key. -/
def simpleKey : Reader (List Char)
  | '"' :: cs => basicRest cs
  | '\'' :: cs => literalRest cs
  | cs =>
    match cs.takeWhile isBare with
    | [] => none
    | key => some (key, cs.dropWhile isBare)

/-- How deeply tables and arrays nest. -/
def depthLimit : Nat := 80

/-- Reads keys with dots between them, at most `fuel`. -/
def dottedKey : (fuel : Nat) → Reader (List (List Char))
  | 0, _ => none
  | fuel + 1, cs => do
    let (key, rest) ← simpleKey (skipBlanks cs)
    match skipBlanks rest with
    | '.' :: rest =>
      let (keys, rest) ← dottedKey fuel rest
      return (key :: keys, rest)
    | rest => return ([key], rest)

/-- Reads a key. One that would nest too deeply is none. -/
def key : Reader (List (List Char)) := dottedKey (depthLimit - 1)

/-! ## Values -/

/-- Reads a value that has no parts. -/
def scalar (cs : List Char) : Option (Value × List Char) :=
  match cs with
  | '"' :: _ | '\'' :: _ => (quoted cs).map fun (text, rest) => (.string text, rest)
  | 't' :: _ => (literal "true".toList cs).map (Value.boolean true, ·)
  | 'f' :: _ => (literal "false".toList cs).map (Value.boolean false, ·)
  | _ => dateTime cs <|> float cs <|> integer cs

/-- Reads the rest of an array, up to its closing bracket. -/
def arrayRest (value : Reader Value) : (fuel : Nat) → Reader (List Value)
  | 0, _ => none
  | fuel + 1, cs =>
    match skipLines false cs with
    | ']' :: rest => some ([], rest)
    | cs => do
      let (v, rest) ← value cs
      match skipLines false rest with
      | ',' :: rest =>
        let (vs, rest) ← arrayRest value fuel rest
        return (v :: vs, rest)
      | ']' :: rest => return ([v], rest)
      | _ => none

/-- Reads a key and its value. -/
def pair (value : Reader Value) : Reader (List (List Char) × Value) := fun cs => do
  let (path, rest) ← key cs
  let (v, rest) ← value (skipBlanks (← literal ['='] rest))
  return ((path, v), rest)

/-- Reads the rest of a table in braces, up to its closing brace. -/
def bracesRest (value : Reader Value) : (fuel : Nat) → Reader (List (List (List Char) × Value))
  | 0, _ => none
  | fuel + 1, cs => do
    let (p, rest) ← pair value cs
    match skipBlanks rest with
    | ',' :: rest =>
      let (ps, rest) ← bracesRest value fuel rest
      return (p :: ps, rest)
    | '\x7d' :: rest => return ([p], rest)
    | _ => none

/-- Reads a value that nests at most `depth` deep. -/
def value : (depth : Nat) → Reader Value
  | 0, cs => scalar cs
  | depth + 1, cs =>
    match cs with
    | '[' :: rest => do
      let (vs, rest) ← arrayRest (value depth) rest.length rest
      return (.array vs, rest)
    | '\x7b' :: rest =>
      match skipBlanks rest with
      | '\x7d' :: rest => some (.table .braces [], rest)
      | rest => do
        let (ps, rest) ← bracesRest (value depth) rest.length rest
        return (← braces ps, rest)
    | _ => scalar cs

/-! ## Documents -/

/-- A document as far as it has been read. -/
structure Progress where
  entries : Entries := []
  /-- The path of the table opened last. -/
  opened : List (List Char) := []

namespace Progress

/-- Sets a key in the table opened last. -/
def set (p : Progress) (path : List (List Char)) (v : Value) : Option Progress := do
  let (parents, key) ← splitLast? path
  let entries ← Entries.within false (Entries.set parents key v) p.opened .header p.entries
  return { p with entries }

/-- Opens a table, or the next table of an array. -/
def openHeader (p : Progress) (element : Bool) (path : List (List Char)) : Option Progress := do
  let (parents, key) ← splitLast? path
  let entries ← if element then p.entries.openElement parents key
    else p.entries.openTable parents key
  return { entries, opened := path }

end Progress

/-- Reads one line, which begins with neither blanks nor a line end. -/
def line (p : Progress) (cs : List Char) : Option (Progress × List Char) :=
  match cs with
  | '#' :: _ => (lineRest cs).map (p, ·)
  | '[' :: '[' :: rest => do
    let (path, rest) ← key rest
    let rest ← lineRest (← literal [']', ']'] rest)
    return (← p.openHeader true path, rest)
  | '[' :: rest => do
    let (path, rest) ← key rest
    let rest ← lineRest (← literal [']'] rest)
    return (← p.openHeader false path, rest)
  | _ => do
    let ((path, v), rest) ← pair (value (depthLimit - 1)) cs
    return (← p.set path v, ← lineRest rest)

/-- Reads lines, at most `fuel`, up to the end of the document. -/
def lines : (fuel : Nat) → Progress → List Char → Option Progress
  | 0, _, _ => none
  | fuel + 1, p, cs =>
    match skipBlanks cs with
    | [] => some p
    | '\n' :: rest => lines fuel p rest
    | '\r' :: '\n' :: rest => lines fuel p rest
    | cs => do
      let (p, rest) ← line p cs
      lines fuel p rest

/-- Drops a byte order mark. -/
def dropMark : List Char → List Char
  | '\uFEFF' :: cs => cs
  | cs => cs

/-- The table that a document describes. -/
def read? (cs : List Char) : Option Entries :=
  (lines (cs.length + 1) {} (dropMark cs)).map (·.entries)

end PortMapper.Document
