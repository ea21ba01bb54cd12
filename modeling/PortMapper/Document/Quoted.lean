import PortMapper.Document.Scan

/-!
# Quoted text

Strings stand in double quotes, where a backslash starts an escape, or in
single quotes, where it does not. Three quotes in a row make a string of
several lines: a line end right after them is dropped, up to two quotes may
stand inside, and in double quotes a backslash at the end of a line drops
all blanks and line ends up to the next other character.
-/

namespace PortMapper.Document

/-- The character of a code point given in hexadecimal digits. -/
def codePoint? (digits : List Char) : Option Char :=
  if !digits.all isHexDigit then none
  else
    let n := digits.foldl (fun n c => 16 * n + digitValue c) 0
    if h : n.isValidChar then some (Char.ofNatAux n h) else none

/-- The character of a one-letter escape. -/
def escaped? : Char → Option Char
  | 'b' => some '\x08'
  | 't' => some '\t'
  | 'n' => some '\n'
  | 'f' => some '\x0c'
  | 'r' => some '\r'
  | '"' => some '"'
  | '\\' => some '\\'
  | _ => none

/-- Reads the rest of a string in double quotes. -/
def basicRest : Reader (List Char)
  | [] => none
  | '"' :: cs => some ([], cs)
  | '\\' :: 'u' :: a :: b :: c :: d :: cs => do
    let x ← codePoint? [a, b, c, d]
    let (text, rest) ← basicRest cs
    return (x :: text, rest)
  | '\\' :: 'U' :: a :: b :: c :: d :: e :: f :: g :: h :: cs => do
    let x ← codePoint? [a, b, c, d, e, f, g, h]
    let (text, rest) ← basicRest cs
    return (x :: text, rest)
  | '\\' :: c :: cs => do
    let x ← escaped? c
    let (text, rest) ← basicRest cs
    return (x :: text, rest)
  | c :: cs => do
    if !isPlain c then none
    let (text, rest) ← basicRest cs
    return (c :: text, rest)

/-- Reads the rest of a string in single quotes. -/
def literalRest (cs : List Char) : Option (List Char × List Char) :=
  match cs.dropWhile fun c => isPlain c && c != '\'' with
  | '\'' :: rest => some (cs.takeWhile fun c => isPlain c && c != '\'', rest)
  | _ => none

/-- Reads the rest of a string in three double quotes; `skipping` tells that
blanks and line ends are dropped. -/
def basicLinesRest (skipping : Bool) : Reader (List Char)
  | [] => none
  | '"' :: '"' :: '"' :: '"' :: '"' :: cs => some (['"', '"'], cs)
  | '"' :: '"' :: '"' :: '"' :: cs => some (['"'], cs)
  | '"' :: '"' :: '"' :: cs => some ([], cs)
  | '\r' :: '\n' :: cs =>
    if skipping then basicLinesRest true cs
    else do
      let (text, rest) ← basicLinesRest false cs
      return ('\n' :: text, rest)
  | '\\' :: 'u' :: a :: b :: c :: d :: cs => do
    let x ← codePoint? [a, b, c, d]
    let (text, rest) ← basicLinesRest false cs
    return (x :: text, rest)
  | '\\' :: 'U' :: a :: b :: c :: d :: e :: f :: g :: h :: cs => do
    let x ← codePoint? [a, b, c, d, e, f, g, h]
    let (text, rest) ← basicLinesRest false cs
    return (x :: text, rest)
  | '\\' :: c :: cs =>
    if (lineEnd (skipBlanks (c :: cs))).isSome && (skipBlanks (c :: cs)) != [] then
      basicLinesRest true (c :: cs)
    else do
      let x ← escaped? c
      let (text, rest) ← basicLinesRest false cs
      return (x :: text, rest)
  | c :: cs =>
    if skipping && (isBlank c || c == '\n') then basicLinesRest true cs
    else do
      if !(isPlain c || c == '\n') then none
      let (text, rest) ← basicLinesRest false cs
      return (c :: text, rest)

/-- Reads the rest of a string in three single quotes. -/
def literalLinesRest : Reader (List Char)
  | [] => none
  | '\'' :: '\'' :: '\'' :: '\'' :: '\'' :: cs => some (['\'', '\''], cs)
  | '\'' :: '\'' :: '\'' :: '\'' :: cs => some (['\''], cs)
  | '\'' :: '\'' :: '\'' :: cs => some ([], cs)
  | '\r' :: '\n' :: cs => do
    let (text, rest) ← literalLinesRest cs
    return ('\n' :: text, rest)
  | c :: cs => do
    if !(isPlain c || c == '\n') then none
    let (text, rest) ← literalLinesRest cs
    return (c :: text, rest)

/-- Drops a line end. -/
def dropLineEnd : List Char → List Char
  | '\n' :: cs => cs
  | '\r' :: '\n' :: cs => cs
  | cs => cs

/-- Reads a string. -/
def quoted : Reader (List Char)
  | '"' :: '"' :: '"' :: cs => basicLinesRest false (dropLineEnd cs)
  | '"' :: cs => basicRest cs
  | '\'' :: '\'' :: '\'' :: cs => literalLinesRest (dropLineEnd cs)
  | '\'' :: cs => literalRest cs
  | _ => none

/-- Writes a text in double quotes. -/
def quote (text : List Char) : List Char :=
  '"' :: (text.flatMap fun c => match c with
    | '"' => ['\\', '"']
    | '\\' => ['\\', '\\']
    | '\n' => ['\\', 'n']
    | '\r' => ['\\', 'r']
    | '\x08' => ['\\', 'b']
    | '\x0c' => ['\\', 'f']
    | c => if isPlain c then [c] else
      ['\\', 'u', '0', '0', (c.toNat / 16).digitChar, (c.toNat % 16).digitChar]) ++ ['"']

end PortMapper.Document
