import Switchboard.Text.Scan

/-!
# TOML text

Blanks, comments, keys and strings. Strings come in four forms: with escapes between double
quotes, literally between single quotes, and both again between triple quotes, where the text may
run over several lines. At the end of such a text up to two quotes belong to it.

A line ends with a line feed, before which there may be a carriage return; inside a text both
forms are a line feed.
-/

namespace Switchboard.Toml

open Scan

/-- The double quote. -/
def doubleQuote : Char := '\x22'

/-- The single quote. -/
def singleQuote : Char := '\x27'

/-- The backslash, with which an escape begins. -/
def backslash : Char := '\x5c'

/-- Whether a character is a blank within a line. -/
def isBlank (c : Char) : Bool :=
  c = ' ' || c = '\t'

/-- Whether a character may stand in a comment: no control character but the tab. -/
def isPrintable (c : Char) : Bool :=
  c = '\t' || (0x20 ≤ c.toNat && c.toNat ≠ 0x7F)

/-- The characters after any blanks. -/
def skipBlanks (cs : List Char) : List Char :=
  cs.dropWhile isBlank

/-- The end of a line. -/
def newline : Scan Unit
  | '\n' :: rest => some ((), rest)
  | '\r' :: '\n' :: rest => some ((), rest)
  | _ => none

/-- The end of a line or of the whole text. -/
def lineEnd (cs : List Char) : Option (List Char) :=
  match cs with
  | [] => some []
  | _ => (newline cs).map Prod.snd

/-- The characters after a comment, if there is one here. -/
def skipComment (cs : List Char) : List Char :=
  match cs with
  | '#' :: rest => rest.dropWhile isPrintable
  | _ => cs

/-- Blanks, a comment or not, and the end of the line. -/
def restOfLine (cs : List Char) : Option (List Char) :=
  lineEnd (skipComment (skipBlanks cs))

/-- Whether a carriage return is followed by a line feed; the two are one end of a line. -/
def isPaired (c : Char) (rest : List Char) : Bool :=
  c = '\r' && rest.head? = some '\n'

/-- The characters after any blanks, ends of lines and comments. The flag says whether a comment has
begun, which goes on to the end of its line. -/
def skipLayoutFrom : (commented : Bool) → List Char → List Char
  | _, [] => []
  | commented, c :: rest =>
    if c = '\n' || isPaired c rest then skipLayoutFrom false rest
    else if commented then
      if isPrintable c then skipLayoutFrom true rest else c :: rest
    else if c = '#' then skipLayoutFrom true rest
    else if isBlank c then skipLayoutFrom false rest
    else c :: rest

/-- The characters after any blanks, ends of lines and comments. -/
def skipLayout (cs : List Char) : List Char :=
  skipLayoutFrom false cs

/-- The number of characters that are blanks and ends of lines, added to a number. -/
def gapWidth (n : Nat) : List Char → Nat
  | [] => n
  | c :: rest =>
    if isBlank c || c = '\n' || isPaired c rest then gapWidth (n + 1) rest else n

/-- A character written with so many hexadecimal digits after a letter, and the number of characters
that this takes. -/
def codePoint? (count : Nat) (cs : List Char) : Option (Char × Nat) :=
  let digits := cs.take count
  let n := number 16 digits
  if digits.length = count ∧ digits.all (isDigit 16) ∧ n.isValidChar then
    some (Char.ofNat n, count + 1)
  else none

/-- What follows a backslash, as the character that it stands for and the number of characters that
it takes. -/
def escape? : List Char → Option (Char × Nat)
  | 'b' :: _ => some ('\x08', 1)
  | 't' :: _ => some ('\t', 1)
  | 'n' :: _ => some ('\n', 1)
  | 'f' :: _ => some ('\x0c', 1)
  | 'r' :: _ => some ('\r', 1)
  | 'u' :: rest => codePoint? 4 rest
  | 'U' :: rest => codePoint? 8 rest
  | c :: _ => if c = doubleQuote ∨ c = backslash then some (c, 1) else none
  | [] => none

/-- A text with escapes up to its closing quote; `read` holds what has been read, in reverse, and so
many characters after that have been `seen` as part of an escape. -/
def escapedText (read : List Char) : (seen : Nat) → Scan String
  | _, [] => none
  | seen + 1, _ :: rest => escapedText read seen rest
  | 0, c :: rest =>
    if c = doubleQuote then some (String.ofList read.reverse, rest)
    else if c = backslash then
      match escape? rest with
      | some (d, width) => escapedText (d :: read) width rest
      | none => none
    else if isPrintable c then escapedText (c :: read) 0 rest
    else none

/-- A text without escapes up to its closing quote. -/
def literalText : Scan String := fun cs =>
  let (front, rest) := span (fun c => isPrintable c && c ≠ singleQuote) cs
  match char singleQuote rest with
  | some (_, rest) => some (String.ofList front, rest)
  | none => none

/-- The width of what follows a backslash at the end of a line: blanks, the end of the line, and all
blanks and ends of lines after it. -/
def continuation? (cs : List Char) : Option Nat :=
  (newline (skipBlanks cs)).map fun _ => gapWidth 0 cs

/-- A text over several lines up to its closing quotes, with escapes or without. What has been
`read` is in reverse, and so many characters after it have been `seen` already. -/
def longText (quote : Char) (escapes : Bool) (read : List Char) : (seen : Nat) → Scan String
  | _, [] => none
  | seen + 1, _ :: rest => longText quote escapes read seen rest
  | 0, c :: rest =>
    let quotes := ((c :: rest).takeWhile (· = quote)).length
    if 3 ≤ quotes then
      let closing := min quotes 5
      some (String.ofList (List.replicate (closing - 3) quote ++ read).reverse,
        (c :: rest).drop closing)
    else if escapes ∧ c = backslash then
      match continuation? rest, escape? rest with
      | some width, _ => longText quote escapes read width rest
      | none, some (d, width) => longText quote escapes (d :: read) width rest
      | none, none => none
    else if isPaired c rest then longText quote escapes read 0 rest
    else if c = '\n' || isPrintable c then longText quote escapes (c :: read) 0 rest
    else none

/-- A text over several lines; an end of line right after the opening quotes is no part of it. -/
def longTextAfterOpening (quote : Char) (escapes : Bool) : Scan String := fun cs =>
  let body := match newline cs with
    | some (_, rest) => rest
    | none => cs
  longText quote escapes [] 0 body

/-- A string on one line. -/
def shortString : Scan String
  | [] => none
  | c :: rest =>
    if c = doubleQuote then escapedText [] 0 rest
    else if c = singleQuote then literalText rest
    else none

/-- A string in any of its four forms. -/
def anyString : Scan String := fun cs =>
  let opening (quote : Char) : Option (List Char) :=
    if [quote, quote, quote].isPrefixOf cs then some (cs.drop 3) else none
  match opening doubleQuote, opening singleQuote with
  | some rest, _ => longTextAfterOpening doubleQuote true rest
  | none, some rest => longTextAfterOpening singleQuote false rest
  | none, none => shortString cs

/-- Whether a character may stand in a key without quotes. -/
def isBareKey (c : Char) : Bool :=
  c.isAlphanum || c = '-' || c = '_'

/-- One part of a key. -/
def simpleKey : Scan String := fun cs =>
  match shortString cs with
  | some result => some result
  | none =>
    let (front, rest) := span isBareKey cs
    if front.isEmpty then none else some (String.ofList front, rest)

/-- The greatest depth to which values and keys may be nested. -/
def nestingLimit : Nat := 79

/-- The parts of a key, with dots between and blanks around each of them. -/
def keyWithin : (room : Nat) → Scan (List String)
  | 0, _ => none
  | room + 1, cs =>
    match simpleKey (skipBlanks cs) with
    | none => none
    | some (part, rest) =>
      match skipBlanks rest with
      | '.' :: rest => (keyWithin room rest).map fun (parts, rest) => (part :: parts, rest)
      | rest => some ([part], rest)

/-- A key, dotted or not. -/
def key : Scan (List String) :=
  keyWithin nestingLimit

end Switchboard.Toml
