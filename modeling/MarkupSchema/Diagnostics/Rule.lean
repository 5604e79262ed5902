import MarkupSchema.Diagnostics.Span
import MarkupSchema.Diagnostics.Template
import MarkupSchema.Text.Blank

/-!
# Rules

Four of the validator's codes can be put in other words. For each of them a
rule says which characters delimit the tokens of the validator's message, and
into which template the tokens go. A token is the trimmed text of a span.

A rule can also be written as a search pattern: the class of its opening
characters, the shortest run of anything on one line, and the class of its
closing characters.
-/

namespace MarkupSchema.Diagnostics

/-- The rules, named for what is wrong in the checked document. -/
inductive Rule where
  /-- Text where only elements may stand. -/
  | strayText
  /-- An attribute whose value is not among those listed. -/
  | badValue
  /-- An attribute the tag does not have. -/
  | unknownAttribute
  /-- An element at a place where others are expected. -/
  | misplacedElement
  deriving DecidableEq, Repr

namespace Rule

/-- All rules, in the order of the table. -/
def all : List Rule := [.strayText, .badValue, .unknownAttribute, .misplacedElement]

/-- The text of the code a rule is for. -/
def code : Rule → String
  | .strayText => "1843"
  | .badValue => "1840"
  | .unknownAttribute => "1866"
  | .misplacedElement => "1871"

/-- The characters that open a token. -/
def openers : Rule → List Char
  | .strayText | .unknownAttribute => ['"']
  | .badValue => ['\x7b', '|', '"']
  | .misplacedElement => ['(', '|', '"']

/-- The characters that close a token. -/
def closers : Rule → List Char
  | .strayText | .unknownAttribute => ['"']
  | .badValue => ['"', '|', '\x7d']
  | .misplacedElement => ['"', '|', ')']

/-- The message of a rule. -/
def template : Rule → Template
  | .strayText =>
      [.words "Plain text content inside \"", .place 0, .words "\" isn't allowed"]
  | .badValue =>
      [.words "Tag \"", .place 0, .words "\" doesn't support \"", .place 3,
        .words "\" value on \"", .place 1, .words "\" attribute, only ", .place 4,
        .words " are accepted"]
  | .unknownAttribute =>
      [.words "Tag \"", .place 0, .words "\" has no attribute \"", .place 1, .words "\""]
  | .misplacedElement =>
      [.words "Tag \"", .place 0, .words "\" is not allowed here, only \"", .place 1,
        .words "\" are accepted"]

/-- The rule for a code. -/
def ofCode? (text : String) : Option Rule := all.find? fun rule => rule.code == text

/-- Whether a character opens a token. -/
def opens (rule : Rule) (c : Char) : Bool := rule.openers.contains c

/-- Whether a character closes a token. -/
def closes (rule : Rule) (c : Char) : Bool := rule.closers.contains c

/-- The tokens of a message, from left to right. -/
def tokens (rule : Rule) (message : List Char) : List (List Char) :=
  (spans rule.opens rule.closes message).map Text.trim

/-- The message of a rule, filled with tokens. -/
def phrase (rule : Rule) (tokens : List (List Char)) : String :=
  String.ofList (rule.template.fill tokens)

/-- A class of characters in a search pattern. Brackets and braces are
written after a backslash. -/
def classPattern : List Char → List Char
  | [c] => [c]
  | cs =>
      '[' :: (cs.flatMap fun c =>
        if c.isAlphanum || c == '"' || c == '|' then [c] else ['\\', c]) ++ [']']

/-- The rule written as a search pattern. -/
def pattern (rule : Rule) : String :=
  String.ofList (classPattern rule.openers ++ "(.*?)".toList ++ classPattern rule.closers)

/-- Different rules are for different codes. -/
theorem code_inj {a b : Rule} (h : a.code = b.code) : a = b := by
  cases a <;> cases b <;> simp_all [code]

@[simp] theorem ofCode?_code (rule : Rule) : ofCode? rule.code = some rule := by
  cases rule <;> decide

theorem ofCode?_eq_some_iff {text : String} {rule : Rule} :
    ofCode? text = some rule ↔ rule.code = text := by
  constructor
  · intro h
    simpa using List.find?_some h
  · rintro rfl
    exact ofCode?_code rule

/-- No rule's delimiters include a line feed. -/
theorem opens_lineFeed (rule : Rule) : rule.opens '\n' = false := by cases rule <;> decide

theorem closes_lineFeed (rule : Rule) : rule.closes '\n' = false := by cases rule <;> decide

/-- A quote delimits for every rule, on either side. -/
theorem opens_quote (rule : Rule) : rule.opens '"' = true := by cases rule <;> decide

theorem closes_quote (rule : Rule) : rule.closes '"' = true := by cases rule <;> decide

end Rule

/-- Codes whose records are left out of reports: the language tolerates what
they complain about. -/
def skippedCodes : List String := ["1824"]

/-- Whether records with this code are left out of reports. -/
def isSkipped (text : String) : Bool := skippedCodes.contains text

end MarkupSchema.Diagnostics
