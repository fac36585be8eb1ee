import Switchboard.Connection.Endpoint
import Switchboard.Text.Scan

/-!
# Socket addresses

The text of an IP address with a port: `1.2.3.4:80`, or `[2001:db8::1]:80` with brackets and an
optional scope number after `%`. The parts of a dotted address have no leading zeros. The last two
groups of a colon address may be dotted, and one `::` stands for the groups left out, at least one.

A colon address is written in its shortest form: lower case, no leading zeros, and `::` for the
first of its longest runs of two or more zero groups. An address that wraps a dotted one after
`::ffff:` keeps the dots.
-/

namespace Switchboard

/-- An IP address: four bytes, or eight groups of sixteen bits. -/
inductive IpAddress
  | dotted (parts : List Nat)
  | colons (groups : List Nat)
  deriving Repr, DecidableEq

/-- An address with a port. -/
structure SocketAddress where
  ip : IpAddress
  port : Nat
  deriving Repr, DecidableEq

namespace SocketAddress

open Scan

/-- At least one decimal digit, as a number up to a bound. -/
def decimal (bound : Nat) : Scan Nat := fun cs =>
  let (front, rest) := span (isDigit 10) cs
  if front = [] then none else (numberUpTo? 10 bound front).map fun n => (n, rest)

/-- A part of a dotted address. -/
def part : Scan Nat := fun cs =>
  let (front, rest) := span (isDigit 10) cs
  let leadingZero := front.head? = some '0' ∧ front.length > 1
  if front ≠ [] ∧ front.length ≤ 3 ∧ ¬leadingZero ∧ number 10 front ≤ 255 then
    some (number 10 front, rest)
  else none

/-- A part that follows another one. -/
def furtherPart : Scan Nat := fun cs => do
  let (_, rest) ← char '.' cs
  part rest

/-- Four parts with dots between. -/
def dotted : Scan (List Nat) := fun cs => do
  let (a, cs) ← part cs
  let (b, cs) ← furtherPart cs
  let (c, cs) ← furtherPart cs
  let (d, cs) ← furtherPart cs
  some ([a, b, c, d], cs)

/-- A group of a colon address: one to four hexadecimal digits. -/
def group : Scan Nat := fun cs =>
  let (front, rest) := span (isDigit 16) cs
  if front ≠ [] ∧ front.length ≤ 4 then some (number 16 front, rest) else none

/-- Let a colon go before what is scanned, unless it is the first. -/
def separated {α : Type} (first : Bool) (scan : Scan α) : Scan α := fun cs =>
  if first then scan cs
  else do
    let (_, rest) ← char ':' cs
    scan rest

/-- As many groups as there are, up to a number. A dotted address counts as two and is the last. The
flag says whether there was one. -/
def groups : (room : Nat) → (first : Bool) → List Char → (List Nat × Bool) × List Char
  | 0, _, cs => (([], false), cs)
  | room + 1, first, cs =>
    match if 1 ≤ room then separated first dotted cs else none with
    | some (parts, rest) =>
      match parts with
      | [a, b, c, d] => (([a * 256 + b, c * 256 + d], true), rest)
      | _ => (([], false), cs)
    | none =>
      match separated first group cs with
      | some (g, rest) =>
        let ((more, wrapped), rest) := groups room false rest
        ((g :: more, wrapped), rest)
      | none => (([], false), cs)

/-- The eight groups of a colon address. -/
def colons : Scan (List Nat) := fun cs =>
  let ((head, wrapped), rest) := groups 8 true cs
  if head.length = 8 then some (head, rest)
  else if wrapped then none
  else do
    let (_, rest) ← char ':' rest
    let (_, rest) ← char ':' rest
    let ((tail, _), rest) := groups (7 - head.length) true rest
    some (head ++ List.replicate (8 - head.length - tail.length) 0 ++ tail, rest)

/-- A colon and a port. -/
def portAfterColon : Scan Nat := fun cs => do
  let (_, rest) ← char ':' cs
  decimal 65535 rest

/-- The rest of the text after a scope, if there is one. -/
def skipScope (cs : List Char) : List Char :=
  match char '%' cs with
  | some (_, rest) =>
    match decimal greatest32 rest with
    | some (_, rest) => rest
    | none => cs
  | none => cs

/-- A dotted address with a port. -/
def dottedWithPort : Scan SocketAddress := fun cs => do
  let (parts, cs) ← dotted cs
  let (port, cs) ← portAfterColon cs
  some (⟨.dotted parts, port⟩, cs)

/-- A colon address in brackets, with a port. -/
def colonsWithPort : Scan SocketAddress := fun cs => do
  let (_, cs) ← char '[' cs
  let (groups, cs) ← colons cs
  let (_, cs) ← char ']' (skipScope cs)
  let (port, cs) ← portAfterColon cs
  some (⟨.colons groups, port⟩, cs)

/-- The address that a whole text denotes. -/
def parse? (text : String) : Option SocketAddress :=
  let whole (scanned : Option (SocketAddress × List Char)) : Option SocketAddress :=
    match scanned with
    | some (address, []) => some address
    | _ => none
  whole (dottedWithPort text.toList) <|> whole (colonsWithPort text.toList)

end SocketAddress

namespace IpAddress

/-- A number in lower-case hexadecimal digits. -/
def hex (n : Nat) : String :=
  String.ofList (Nat.toDigits 16 n)

/-- Texts with a separator between. -/
def joined (separator : String) (texts : List String) : String :=
  separator.intercalate texts

/-- The position and the length of the first of the longest runs of zeros. -/
def longestZeros (groups : List Nat) : Nat × Nat :=
  let runs := (List.range groups.length).map fun i =>
    (i, ((groups.drop i).takeWhile (· = 0)).length)
  runs.foldl (fun best run => if run.2 > best.2 then run else best) (0, 0)

/-- The shortest form of a colon address. -/
def compressed (groups : List Nat) : String :=
  let (start, length) := longestZeros groups
  if length > 1 then
    joined ":" ((groups.take start).map hex) ++ "::" ++
      joined ":" ((groups.drop (start + length)).map hex)
  else joined ":" (groups.map hex)

/-- The text of an address. -/
def text : IpAddress → String
  | dotted parts => joined "." (parts.map toString)
  | colons [0, 0, 0, 0, 0, 0xFFFF, a, b] =>
    "::ffff:" ++ joined "." ([a / 256, a % 256, b / 256, b % 256].map toString)
  | colons groups => compressed groups

end IpAddress

/-- The endpoint of a socket address; the host is the text of the address. -/
def SocketAddress.endpoint (a : SocketAddress) : Endpoint :=
  ⟨a.ip.text, a.port⟩

end Switchboard
