/-!
# Line folding

The lines of a scalar are joined when it is read. A single break becomes a
space, a break followed by empty lines becomes as many line feeds as there
are empty lines, and blanks around a break are dropped. Characters that come
from an escape are fixed: folding neither drops nor joins them. A break that
is escaped is a joint, which leaves nothing behind.
-/

namespace MarkupSchema.Yaml

/-- A character of a scalar before folding. -/
inductive Glyph where
  | free (c : Char)
  | fixed (c : Char)
  | joint
  deriving DecidableEq, Repr

/-- Where folding stands: after some blanks of a line, held in reverse, or in
a gap between lines, which is soft when its first break was a plain one. -/
inductive Held where
  | blanks (reversed : List Char)
  | gap (soft : Bool) (emptyLines : Nat)

/-- What a place comes to once a character follows or the scalar ends. -/
def Held.text : Held → List Char
  | .blanks reversed => reversed.reverse
  | .gap soft n => if soft && n == 0 then [' '] else List.replicate n '\n'

/-- The place after one more blank. -/
def Held.blank (c : Char) : Held → Held
  | .blanks reversed => .blanks (c :: reversed)
  | .gap soft n => .gap soft n

/-- The place after one more break. -/
def Held.lineFeed : Held → Held
  | .blanks _ => .gap true 0
  | .gap soft n => .gap soft (n + 1)

/-- Folds glyphs from a place on. -/
def foldFrom : Held → List Glyph → List Char
  | held, [] => held.text
  | held, .joint :: gs => held.text ++ foldFrom (.gap false 0) gs
  | held, .fixed c :: gs => held.text ++ c :: foldFrom (.blanks []) gs
  | held, .free c :: gs =>
      if c = '\n' then foldFrom held.lineFeed gs
      else if c = ' ' ∨ c = '\t' then foldFrom (held.blank c) gs
      else held.text ++ c :: foldFrom (.blanks []) gs

/-- The text of a scalar. -/
def fold (glyphs : List Glyph) : String := String.ofList (foldFrom (.blanks []) glyphs)

example : foldFrom (.blanks []) ("a  \n  b\n\nc".toList.map .free) = "a b\nc".toList := by
  decide +kernel

example :
    foldFrom (.blanks []) [.free 'a', .fixed ' ', .joint, .free ' ', .free 'b'] = "a b".toList := by
  decide +kernel

end MarkupSchema.Yaml
