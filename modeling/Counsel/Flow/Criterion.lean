import Counsel.Decimal.Numeral
import Counsel.Flow.Basic
import Counsel.Text.Pattern

/-!
Criteria: the expressions by which a node with several questions decides where to go, such as
`max(year, month) <= 2`. The names in the brackets are those of answers; the greatest of the
answers is compared with a number.
-/

namespace Counsel

/-- How two numbers are compared. -/
inductive Comparison where
  | atMost
  | below
  | atLeast
  | above
  | equal
  deriving DecidableEq, Repr

namespace Comparison

open Decimal (Binary64)

/-- Whether a comparison of two numbers holds; none holds of what is not a number. -/
def holds (c : Comparison) (x y : Binary64) : Bool :=
  match c with
  | .atMost => x.le y
  | .below => x.lt y
  | .atLeast => y.le x
  | .above => y.lt x
  | .equal => x.eq y

/-- The comparisons, each before those whose symbols its own begins with. -/
def all : List Comparison := [.atMost, .atLeast, .equal, .below, .above]

def symbol : Comparison → List Char
  | .atMost => ['<', '=']
  | .below => ['<']
  | .atLeast => ['>', '=']
  | .above => ['>']
  | .equal => ['=', '=']

/-- The comparison of a symbol. -/
def ofSymbol? (s : List Char) : Option Comparison := all.find? (·.symbol = s)

end Comparison

/-- A criterion: the greatest answer under some names, compared with a number. -/
structure Criterion where
  keys : List String
  comparison : Comparison
  threshold : Decimal.Binary64
  deriving DecidableEq, Repr

namespace Criterion

open Decimal (Binary64)

/-- The names between commas, without those that are blank. -/
def readKeys (body : List Char) : List String :=
  ((Text.splitAtMark ',' body).map fun piece => String.ofList (Text.trimChars piece)).filter
    (· ≠ "")

/-- A number with an optional minus sign and an optional fraction, in the digits of any script. -/
def numberPattern : Text.Pattern :=
  let digits := .atLeastOne Text.isDecimal
  .sequence [.perhaps (.literal ['-']), digits, .perhaps (.sequence [.literal ['.'], digits])]

/-- `max(`, what stands before the first `)`, a comparison and a number, with blanks around the
comparison and at the end. The groups are what stands in the brackets, the comparison and the
number. -/
def pattern : Text.Pattern :=
  .sequence
    [.literal "max(".toList, .group (.many (· ≠ ')')), .literal [')'], .many Text.isBlank,
      .group (.oneOf (Comparison.all.map Comparison.symbol)), .many Text.isBlank,
      .group numberPattern, .many Text.isBlank]

/-- The criterion that what the pattern captured makes: it needs a name, and a number that can be
read. -/
def ofGroups? : List (List Char) → Option Criterion
  | [body, symbol, number] => do
      let keys := readKeys body
      let threshold ← if keys = [] then none else Decimal.readNumeral number
      let comparison ← Comparison.ofSymbol? symbol
      pure ⟨keys, comparison, threshold⟩
  | _ => none

/-- The criterion a text denotes: `max(`, names, `)`, a comparison and a number, with blanks at the
ends and around the comparison. -/
def parse? (s : String) : Option Criterion :=
  (pattern.captures? (Text.trimChars s.toList)).bind ofGroups?

/-- The number an answer denotes; nothing said counts as zero. -/
def answerNumber (answers : Answers) (key : String) : Except FlowError Binary64 :=
  match answers.get? key with
  | none => .ok (.zero false)
  | some .null => .ok (.zero false)
  | some (.number n) => .ok n.toBinary
  | some (.text s) =>
      match Decimal.readNumeral (Text.trimChars s.toList) with
      | some x => .ok x
      | none => .error (.notANumber key (Json.Value.text s).toText)
  | some v => .error (.notANumber key v.toText)

/-- The greatest of a start and the answers under some names. -/
def greatest (answers : Answers) (start : Binary64) : List String → Except FlowError Binary64
  | [] => .ok start
  | key :: rest => do
      let x ← answerNumber answers key
      greatest answers (start.max x) rest

/-- Whether the answers meet a criterion. -/
def eval (c : Criterion) (answers : Answers) : Except FlowError Bool := do
  let x ← greatest answers (.infinite true) c.keys
  pure (c.comparison.holds x c.threshold)

/-- Whether the answers meet the criterion that a text denotes. -/
def evalText (s : String) (answers : Answers) : Except FlowError Bool :=
  match parse? s with
  | some c => c.eval answers
  | none => .error (.unsupportedExpression s)

end Criterion
end Counsel
