import MarkupSchema.Yaml.Fold
import MarkupSchema.Yaml.Placed

/-!
# Quoted scalars

Between single quotes, a quote is written twice and nothing else is special.
Between double quotes, a backslash starts an escape. Reading starts after the
opening quote and answers with the glyphs up to the closing one and the text
after it, or with nothing when there is no closing quote, an escape is none,
or a line does not reach as far right as it has to.

The first word of a line has to reach a column, unless an escaped break is
the reason why the line is a new one. A closing quote may stand anywhere.
-/

namespace MarkupSchema.Yaml

/-- What the digits of an escape stand for. -/
inductive Numeral where
  /-- A code point. -/
  | point
  /-- A unit of sixteen bits: a code point, or the first half of one. -/
  | unit
  /-- The second half of a code point, after its first half. -/
  | half (high : Nat)
  deriving DecidableEq, Repr

/-- What may follow a backslash. -/
inductive Escape where
  | char (c : Char)
  /-- So many hexadecimal digits. -/
  | digits (count : Nat) (numeral : Numeral)
  | joint
  deriving DecidableEq, Repr

/-- The escape a character stands for. -/
def escape? : Char → Option Escape
  | '0' => some (.char '\x00')
  | 'a' => some (.char '\x07')
  | 'b' => some (.char '\x08')
  | 't' | '\t' => some (.char '\t')
  | 'n' => some (.char '\n')
  | 'v' => some (.char '\x0b')
  | 'f' => some (.char '\x0c')
  | 'r' => some (.char '\r')
  | 'e' => some (.char '\x1b')
  | ' ' => some (.char ' ')
  | '"' => some (.char '"')
  | '/' => some (.char '/')
  | '\\' => some (.char '\\')
  | 'N' => some (.char '\u0085')
  | '_' => some (.char '\u00a0')
  | 'L' => some (.char '\u2028')
  | 'P' => some (.char '\u2029')
  | 'x' => some (.digits 2 .point)
  | 'u' => some (.digits 4 .unit)
  | 'U' => some (.digits 8 .point)
  | '\n' => some .joint
  | _ => none

/-- The value of a hexadecimal digit of either case. -/
def hexDigit? (c : Char) : Option Nat :=
  if c.isDigit then some (c.toNat - '0'.toNat)
  else if 'a' ≤ c ∧ c ≤ 'f' then some (c.toNat - 'a'.toNat + 10)
  else if 'A' ≤ c ∧ c ≤ 'F' then some (c.toNat - 'A'.toNat + 10)
  else none

/-- The character with a code point, if there is one. -/
def charOf? (point : Nat) : Option Char :=
  if point.isValidChar then some (Char.ofNat point) else none

/-- What a number in an escape comes to. -/
inductive Coded where
  | char (c : Char)
  | high (unit : Nat)
  deriving DecidableEq, Repr

/-- What a number stands for. The halves of a code point come in order and
next to each other. -/
def Numeral.decode? (value : Nat) : Numeral → Option Coded
  | .point => (charOf? value).map .char
  | .unit =>
      if 0xD800 ≤ value ∧ value < 0xDC00 then some (.high value)
      else (charOf? value).map .char
  | .half high =>
      if 0xDC00 ≤ value ∧ value < 0xE000 then
        (charOf? (0x10000 + 0x400 * (high - 0xD800) + (value - 0xDC00))).map .char
      else none

/-- Puts a glyph before what is read after it. -/
def consGlyph (g : Glyph) (read : List Glyph × List Placed) : List Glyph × List Placed :=
  (g :: read.1, read.2)

/-- How far right the lines of a quoted scalar have to reach. -/
structure Reach where
  /-- The least column of a tab. -/
  tab : Nat
  /-- The least column of a word. -/
  word : Nat
  deriving DecidableEq, Repr

/-- Whether a quoted scalar cannot go on with this character: a line starts
with it that falls short or that could divide documents, or the text is at
its end. -/
def breaksQuoted (quote : Char) (reach : Reach) (text : List Placed) : Bool :=
  let p := here text
  let least := if p.char = '\t' then reach.tab else reach.word
  p.char == endMark || (p.column == 0 && isMarker text) ||
    (p.leads && decide (p.column < least) && p.char != ' ' && p.char != '\n' && p.char != quote)

/-- Reads up to the closing single quote. -/
def singleQuoted (reach : Reach) : List Placed → Option (List Glyph × List Placed)
  | [] => none
  | p :: rest =>
      if breaksQuoted '\x27' reach (p :: rest) then none
      else if p.char = '\x27' then
        match rest with
        | [] => some ([], [])
        | q :: rest' =>
            if q.char = '\x27' then
              (singleQuoted reach rest').map (consGlyph (.fixed '\x27'))
            else some ([], q :: rest')
      else (singleQuoted reach rest).map (consGlyph (.free p.char))

/-- Where reading between double quotes stands. -/
inductive Within where
  | text
  /-- In the gap after a break that is escaped. -/
  | joined
  | escape
  /-- Inside a number with at least one digit to come. -/
  | digits (missing value : Nat) (numeral : Numeral)
  /-- After the first half of a code point. -/
  | halved (high : Nat)
  /-- After the backslash before the second half. -/
  | halfEscape (high : Nat)
  deriving DecidableEq, Repr

/-- Reads up to the closing double quote. -/
def doubleQuoted (reach : Reach) : Within → List Placed → Option (List Glyph × List Placed)
  | _, [] => none
  | .text, p :: rest =>
      if breaksQuoted '"' reach (p :: rest) then none
      else if p.char = '"' then some ([], rest)
      else if p.char = '\\' then doubleQuoted reach .escape rest
      else (doubleQuoted reach .text rest).map (consGlyph (.free p.char))
  | .joined, p :: rest =>
      if breaksQuoted '"' { reach with word := 0 } (p :: rest) then none
      else if p.char = '"' then some ([], rest)
      else if p.char = '\\' then doubleQuoted reach .escape rest
      else
        let next := if isGap p.char then .joined else .text
        (doubleQuoted reach next rest).map (consGlyph (.free p.char))
  | .escape, p :: rest =>
      match escape? p.char with
      | none => none
      | some (.char c) => (doubleQuoted reach .text rest).map (consGlyph (.fixed c))
      | some .joint => (doubleQuoted reach .joined rest).map (consGlyph .joint)
      | some (.digits count numeral) => doubleQuoted reach (.digits (count - 1) 0 numeral) rest
  | .digits missing value numeral, p :: rest =>
      match hexDigit? p.char with
      | none => none
      | some digit =>
          match missing with
          | missing' + 1 =>
              doubleQuoted reach (.digits missing' (16 * value + digit) numeral) rest
          | 0 =>
              match numeral.decode? (16 * value + digit) with
              | none => none
              | some (.char c) => (doubleQuoted reach .text rest).map (consGlyph (.fixed c))
              | some (.high unit) => doubleQuoted reach (.halved unit) rest
  | .halved high, p :: rest =>
      if p.char = '\\' then doubleQuoted reach (.halfEscape high) rest else none
  | .halfEscape high, p :: rest =>
      if p.char = 'u' then doubleQuoted reach (.digits 3 0 (.half high)) rest else none

example :
    (singleQuoted ⟨0, 0⟩ (place "it\x27\x27s\x27 x".toList)).map Prod.fst =
      some [.free 'i', .free 't', .fixed '\x27', .free 's'] := by
  decide +kernel

example :
    (doubleQuoted ⟨0, 0⟩ .text (place "\\x41\\n\" x".toList)).map Prod.fst =
      some [.fixed 'A', .fixed '\n'] := by
  decide +kernel

example :
    (doubleQuoted ⟨0, 0⟩ .text (place "\\uD83D\\uDE00\"".toList)).map Prod.fst =
      some [.fixed '😀'] := by
  decide +kernel

end MarkupSchema.Yaml
