/-!
# Slices

Parts of a text by their place in its UTF-8 bytes. A place may fall inside a character, and then
there is no such part.
-/

namespace Switchboard.Text

/-- The number of bytes of a text. -/
def width : List Char → Nat
  | [] => 0
  | c :: rest => c.utf8Size + width rest

/-- A text without its first bytes; `none` if these end inside a character. -/
def drop? (bytes : Nat) (cs : List Char) : Option (List Char) :=
  if bytes = 0 then some cs
  else
    match cs with
    | [] => none
    | c :: rest => if c.utf8Size ≤ bytes then drop? (bytes - c.utf8Size) rest else none

/-- The first bytes of a text; `none` if these end inside a character. -/
def take? (bytes : Nat) (cs : List Char) : Option (List Char) :=
  if bytes = 0 then some []
  else
    match cs with
    | [] => none
    | c :: rest =>
      if c.utf8Size ≤ bytes then (take? (bytes - c.utf8Size) rest).map (c :: ·) else none

/-- The part of a text from one place in its bytes to another; `none` if one of these is inside a
character. -/
def slice? (start stop : Nat) (cs : List Char) : Option (List Char) :=
  (drop? start cs).bind (take? (stop - start))

end Switchboard.Text
