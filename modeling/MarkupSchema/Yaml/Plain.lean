import MarkupSchema.Yaml.Fold
import MarkupSchema.Yaml.Placed

/-!
# Plain scalars

A plain scalar has neither quotes nor an indicator. It goes on over lines
that stand further right than what it belongs to, up to a colon with a gap
after it, a comment with a gap before it, or, inside brackets, one of their
marks. Blanks and breaks at its end are no part of it.

A tab may not take the place of the spaces that a line needs, except on a
line with nothing or only a comment on it.
-/

namespace MarkupSchema.Yaml

/-- The characters no plain scalar starts with. The first line holds those
that mean something else, the second those that mean nothing. -/
def isIndicator (c : Char) : Bool :=
  isBracketMark c || c == '#' || c == '&' || c == '*' || c == '\x27' || c == '"' ||
    c == '!' || c == '%' || c == '@' || c == '\x60'

/-- Whether a word ends before this character. -/
def endsWord (bracketed : Bool) (text : List Placed) : Bool :=
  let c := first text
  let next := second text
  isGap c || (bracketed && isBracketMark c) ||
    (c == ':' && (isGap next || (bracketed && isBracketMark next)))

/-- Whether a hyphen stands alone before a mark of the brackets around it,
where it is neither a word nor the start of an item. -/
def isStrayDash (bracketed : Bool) (text : List Placed) : Bool :=
  bracketed && first text == '-' && isBracketMark (second text)

/-- Where reading a plain scalar stands. -/
inductive Among where
  | word
  | gap
  /-- After a tab that falls short. -/
  | margin
  /-- In a comment after such a tab. -/
  | comment
  deriving DecidableEq, Repr

/-- Whether no word of a plain scalar stands here, after a gap. -/
def endsPlain (bracketed : Bool) (least : Nat) (text : List Placed) : Bool :=
  let p := here text
  (!bracketed && decide (p.column < least)) || (p.column == 0 && isMarker text) || p.char == '#' ||
    endsWord bracketed text

/-- The characters of a plain scalar with the gap after it, and the text from
there on. -/
def plainRun (bracketed : Bool) (least : Nat) :
    Among → List Placed → Option (List Char × List Placed)
  | _, [] => some ([], [])
  | among, p :: rest =>
      let take (next : Among) : Option (List Char × List Placed) :=
        (plainRun bracketed least next rest).map fun run => (p.char :: run.1, run.2)
      if p.char = endMark then some ([], p :: rest)
      else if p.char = '\n' then take .gap
      else
        match among with
        | .comment => plainRun bracketed least .comment rest
        | .margin =>
            if p.char = '#' then plainRun bracketed least .comment rest
            else if isSpace p.char then plainRun bracketed least .margin rest
            else none
        | .gap =>
            if p.char = '\t' ∧ p.leads ∧ p.column < least then
              plainRun bracketed least .margin rest
            else if isSpace p.char then take .gap
            else if endsPlain bracketed least (p :: rest) then some ([], p :: rest)
            else if isStrayDash bracketed (p :: rest) then none
            else take .word
        | .word =>
            if isSpace p.char then take .gap
            else if endsWord bracketed (p :: rest) then some ([], p :: rest)
            else take .word

/-- Reads a plain scalar, which holds at least one character. Inside brackets
its first line, too, has to stand far enough to the right. -/
def plainScalar? (bracketed : Bool) (least : Nat) (text : List Placed) :
    Option (String × List Placed) :=
  let p := here text
  if (bracketed && decide (p.column < least)) || endsWord bracketed text ||
      isStrayDash bracketed text then none
  else
    (plainRun bracketed least .word text).map fun run =>
      (fold ((run.1.reverse.dropWhile isGap).reverse.map .free), run.2)

example : (plainScalar? false 0 (place "a:b  # c".toList)).map Prod.fst = some "a:b" := by
  decide +kernel

example : (plainScalar? true 0 (place "a, b".toList)).map Prod.fst = some "a" := by decide +kernel

example : (plainScalar? false 1 (place "a\n\tb".toList)).map Prod.fst = none := by decide +kernel

end MarkupSchema.Yaml
