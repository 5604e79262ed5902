import MarkupSchema.Yaml.BlockText
import MarkupSchema.Yaml.Layout
import MarkupSchema.Yaml.Plain
import MarkupSchema.Yaml.Quoted

/-!
# Dividing a text into tokens

One step for each kind of word. A step answers with the layout after the
word, or with nothing where the text cannot be divided. A token is handed on
as soon as it is settled that it is no key, and no further step is taken
before that is asked for; so a fault takes with it only the tokens that still
wait.
-/

namespace MarkupSchema.Yaml

namespace Layout

/-! ### Brackets -/

/-- An opening bracket. They nest to a depth of 255. -/
def openBracket? (isList : Bool) (s : Layout) : Option Layout := do
  let s := s.propose.withMargin
  if 255 ≤ s.brackets.length then none
  else
    let inside : Layout :=
      { s with
        text := s.text.tail
        brackets := { isList, outside := s.candidate } :: s.brackets
        candidate := none
        keyAllowed := true }
    let s ← inside.skipLine?
    return s.push [if isList then .openList else .openMap]

/-- A closing bracket. Whether it matches is not asked here. A colon right
after it needs no gap if there are more brackets around. -/
def closeBracket? (isList : Bool) (s : Layout) : Option Layout := do
  let s ← s.retract?
  match s.brackets with
  | [] => none
  | bracket :: brackets =>
      let inside := if isList then s.closePair else s
      let outside : Layout :=
        { inside with
          text := s.text.tail
          brackets
          candidate := bracket.outside
          keyAllowed := false }
      let s ← outside.skipLine?
      let adjacent := if s.bracketed then some s.place.index else s.adjacent
      return push [if isList then .closeList else .closeMap] { s with adjacent }

/-- A comma. -/
def comma? (s : Layout) : Option Layout := do
  let s ← ((← s.retract?).allowKey true).closePair |>.withText s.text.tail |>.skipLine?
  return s.push [.comma]

/-! ### Items and entries -/

/-- A hyphen with a gap after it. -/
def dash? (s : Layout) : Option Layout := do
  let column := s.place.column
  if s.bracketed ∨ !s.keyAllowed then none
  else
    let entered := (s.enter column s.nextNumber .lines).withText s.text.tail
    let s ← entered.skipLine?
    let blanks := entered.text.takeWhile fun p => isSpace p.char
    let tabbed := blanks.any fun p => p.char == '\t'
    if tabbed ∧ first s.text = '-' ∧ isGap (second s.text) then none
    else
      let c := first s.text
      let s := if c = '\n' ∨ isBracketMark c then s.withMargin else s
      return ((← s.retract?).allowKey true).push [.dash]

/-- A question mark with a gap after it, which announces a key of any kind.
There is no tab in the gap. -/
def question? (s : Layout) : Option Layout := do
  if !s.bracketed ∧ !s.keyAllowed then none
  else
    let entered := (s.enter s.place.column s.nextNumber .entries).openPair s.nextNumber
    let rest := dropLines false s.text.tail
    if s.text.tail.length = rest.length ∨ first rest = '\t' then none
    else return ((← entered.retract?).allowKey !s.bracketed).withText rest |>.push [.key]

/-- A colon after a key. The key stands on the line of the colon where it
makes a single entry of a list. -/
def keyed? (candidate : Candidate) (line : Nat) (s : Layout) : Option Layout :=
  let inList := s.brackets.head?.any fun bracket => bracket.isList
  if inList ∧ candidate.place.line < line then none
  else
    let s := (s.insert candidate.number .key).openPair candidate.number
    let s := s.enter candidate.place.column candidate.number .entries
    some ((push [.value] { s.withMargin with candidate := none }).allowKey false)

/-- A colon without a key before it. -/
def keyless? (column : Nat) (s : Layout) : Option Layout :=
  if !s.bracketed ∧ !s.keyAllowed then none
  else
    let s := (s.openPair s.nextNumber).enter column s.nextNumber .entries
    some ((s.withMargin.push [.value]).allowKey !s.bracketed)

/-- A colon. Blanks after it that hold no space are followed by neither a
word nor a hyphen. -/
def value? (s : Layout) : Option Layout := do
  let colon := s.place
  let after := s.withText s.text.tail
  let blanks := after.text.takeWhile fun p => isSpace p.char
  let s ← if first after.text = '\t' then after.skipLine? else some after
  let c := first s.text
  let spaced := blanks.any fun p => p.char == ' '
  if first after.text = '\t' ∧ !spaced ∧ (c = '-' ∨ c.isAlphanum ∨ c = '_') then none
  else
    match s.candidate with
    | some candidate => s.keyed? candidate colon.line
    | none => s.keyless? colon.column

/-! ### Scalars and names -/

/-- An anchor or an alias. -/
def name? (token : String → Token) (s : Layout) : Option Layout :=
  let inName (p : Placed) : Bool :=
    !isGap p.char && !isBracketMark p.char && p.char != '\ufeff'
  let name := s.text.tail.takeWhile inName
  if name.isEmpty then none
  else
    let s := s.propose.allowKey false |>.withText (s.text.tail.dropWhile inName)
    some (s.push [token (String.ofList (name.map Placed.char))])

/-- Whether a text may stand after a quoted scalar that starts on a line. -/
def mayFollowQuoted (bracketed : Bool) (line : Nat) (text : List Placed) : Bool :=
  let p := here text
  isLineEnd p.char || (p.char == ':' && (bracketed || p.line == line)) ||
    (bracketed && (p.char == ',' || p.char == ']' || p.char == '\x7d'))

/-- A quoted scalar. A colon right after it needs no gap. -/
def quoted? (read : Reach → List Placed → Option (List Glyph × List Placed)) (s : Layout) :
    Option Layout := do
  let line := s.place.line
  let s := s.propose.allowKey false
  let reach : Reach :=
    { tab := s.indent.least, word := if s.bracketed then 0 else s.indent.beyond }
  let (glyphs, rest) ← read reach s.text.tail
  let s ← (s.withText rest).skipLine?
  if !mayFollowQuoted s.bracketed line s.text then none
  else
    let s ← s.nextWord?
    return push [.scalar .quoted (fold glyphs)] { s with adjacent := some s.place.index }

/-- A block text. -/
def block? (folded : Bool) (s : Layout) : Option Layout := do
  let s := s.propose.allowKey true
  let indent := s.indent.withoutMargin
  let (text, rest) ← blockText? folded indent.inner s.text.tail
  return push [.scalar .block text] { s with indent, text := rest }

/-- A plain scalar. A key may start after it if it is followed by a new
line. -/
def plain? (s : Layout) : Option Layout := do
  let s := s.propose
  let indent := s.indent.withoutMargin
  let (text, rest) ← plainScalar? s.bracketed indent.inner s.text
  return push [.scalar .plain text] { s with indent, text := rest, keyAllowed := (here rest).leads }

/-! ### The document as a whole -/

/-- A line that begins or ends a document, which is never inside brackets. -/
def marker? (token : Token) (s : Layout) : Option Layout := do
  if s.bracketed then none
  else
    let s ← s.leaveAll.retract?
    return (s.allowKey false).withText (s.text.drop 3) |>.push [token]

/-- A line that ends a document, on which only a comment may follow. -/
def documentEnd? (s : Layout) : Option Layout := do
  let s ← (← s.marker? .documentEnd).skipLine?
  if isLineEnd (first s.text) then return s else none

/-- The end of the text, where no bracket may be open. -/
def finish? (s : Layout) : Option Layout := do
  if s.bracketed then none else return (← s.retract?).leaveAll.push [.finish]

/-- Whether a colon that stands here comes after a key although there is no
gap after it. With a bracket after it, it has to touch the key. -/
def closeColon? (s : Layout) : Option Bool :=
  let next := second s.text
  let touches := s.adjacent == some s.place.index
  if !s.bracketed ∨ !(touches || isBracketMark next) then some false
  else if !touches ∧ (next = '[' ∨ next = '\x7b') then none
  else some true

/-- The step for a word. -/
def word? (s : Layout) : Option Layout := do
  let spaced := isGap (second s.text)
  match first s.text with
  | '[' => s.openBracket? true
  | '\x7b' => s.openBracket? false
  | ']' => s.closeBracket? true
  | '\x7d' => s.closeBracket? false
  | ',' => s.comma?
  | '-' => if spaced then s.dash? else s.plain?
  | '?' => if spaced then s.question? else s.plain?
  | ':' => if spaced || (← s.closeColon?) then s.value? else s.plain?
  | '*' => s.name? .alias
  | '&' => s.name? .anchor
  | '\x27' => s.quoted? singleQuoted
  | '"' => s.quoted? fun reach => doubleQuoted reach .text
  | '|' => if s.bracketed then s.plain? else s.block? false
  | '>' => if s.bracketed then s.plain? else s.block? true
  | c => if isIndicator c then none else s.plain?

/-- Whether the next word may stand further left than others may: a mark of
the brackets around it. -/
def mayStandOut (s : Layout) : Bool :=
  let c := first s.text
  s.bracketed && (c == ',' || c == ']' || c == '\x7d')

/-- Whether a comment has cut a plain scalar short: the next word stands on
the line below, where but for the comment it would belong to the scalar. -/
def cutsPlain (comment next : Layout) : Bool :=
  first comment.text == '#' && !comment.place.leads && !comment.bracketed &&
    next.place.line == comment.place.line + 1 &&
    !endsPlain false comment.indent.inner next.text

/-- The next step. -/
def step? (s : Layout) : Option Layout := do
  let next ← s.nextWord?
  let s ← if cutsPlain s next then none else next.expire?
  let column := s.place.column
  let s := s.leave column
  if s.place.char = endMark then s.finish?
  else if column = 0 ∧ isTriple '-' s.text then s.marker? .documentStart
  else if column = 0 ∧ isTriple '.' s.text then s.documentEnd?
  else if column < s.indent.least ∧ !s.mayStandOut then none
  else s.word?

/-- Whether the token that comes next may still turn out to be a key. -/
def waits (s : Layout) : Bool :=
  (s.candidate.toList ++ s.brackets.filterMap Bracket.outside).any fun candidate =>
    candidate.number == s.delivered

/-- Hands on the token that comes next. -/
def handOn? (s : Layout) : Option (Token × Layout) :=
  match s.queue with
  | [] => none
  | token :: queue =>
      if s.waits then none else some (token, { s with queue, delivered := s.delivered + 1 })

/-- The tokens from a layout on. The number of steps is bounded. -/
def tokens (fuel : Nat) (s : Layout) : List Token :=
  match fuel with
  | 0 => [.fault]
  | fuel + 1 =>
      match s.expire? with
      | none => [.fault]
      | some s =>
          match s.handOn? with
          | some (.finish, _) => [.finish]
          | some (token, s) => token :: s.tokens fuel
          | none =>
              match s.step? with
              | none => [.fault]
              | some s => s.tokens fuel

end Layout

/-- The tokens of a text. No character needs more than eight steps, so they
never run out. -/
def tokensOf (text : String) : List Token :=
  let placed := place (unifyBreaks text.toList)
  Layout.tokens (8 * (placed.length + 1)) { text := placed }

example :
    tokensOf "- a: [1]" =
      [.lines, .dash, .entries, .key, .scalar .plain "a", .value, .openList, .scalar .plain "1",
        .closeList, .outdent, .outdent, .finish] := by
  decide +kernel

example : tokensOf "a: [b" = [.entries, .key, .scalar .plain "a", .value, .openList, .fault] := by
  decide +kernel

end MarkupSchema.Yaml
