import DepositGate.Number.FloatText
import DepositGate.Record.Mismatch

/-!
# Faults of JSON texts

What can be wrong with a JSON text or with the value that it holds, where, and how it is worded.
-/

namespace DepositGate.Json

inductive Cause where
  | endInArray
  | endInObject
  | endInString
  | endInValue
  | expectedColon
  | expectedCommaOrBracket
  | expectedCommaOrBrace
  | expectedIdentifier
  | expectedValue
  | invalidEscape
  | invalidNumber
  | numberOutOfRange
  | invalidCodePoint
  | controlCharacter
  | keyNotString
  | loneSurrogate
  | endOfEscape
  | trailingComma
  | trailingCharacters
  | tooDeep
  | mismatch (m : Record.Mismatch)

/-- Numbers from `10 ^ -5` up to `10 ^ 16` are shown without an exponent. -/
def floatLayout : Number.FloatLayout := ⟨some (-5, 15), "inf", "NaN"⟩

def Cause.message : Cause → String
  | endInArray => "EOF while parsing a list"
  | endInObject => "EOF while parsing an object"
  | endInString => "EOF while parsing a string"
  | endInValue => "EOF while parsing a value"
  | expectedColon => "expected `:`"
  | expectedCommaOrBracket => "expected `,` or `]`"
  | expectedCommaOrBrace => "expected `,` or `\x7d`"
  | expectedIdentifier => "expected ident"
  | expectedValue => "expected value"
  | invalidEscape => "invalid escape"
  | invalidNumber => "invalid number"
  | numberOutOfRange => "number out of range"
  | invalidCodePoint => "invalid unicode code point"
  | controlCharacter => "control character (\\u0000-\\u001F) found while parsing a string"
  | keyNotString => "key must be a string"
  | loneSurrogate => "lone leading surrogate in hex escape"
  | endOfEscape => "unexpected end of hex escape"
  | trailingComma => "trailing comma"
  | trailingCharacters => "trailing characters"
  | tooDeep => "recursion limit exceeded"
  | mismatch m => m.message (Number.floatText floatLayout)

/-- A cause and its place, given by the number of bytes from there to the end of the text. -/
structure Fault where
  cause : Cause
  remaining : Nat

namespace Fault

def before (rest : List UInt8) (cause : Cause) : Fault :=
  ⟨cause, rest.length⟩

def next (rest : List UInt8) (cause : Cause) : Fault :=
  ⟨cause, rest.length - 1⟩

/-- The line and the column of a fault in a text: the lines are counted from one, and the column is the
number of bytes of the line up to the place. -/
def position (text : List UInt8) (f : Fault) : Nat × Nat :=
  let behind := text.take (text.length - f.remaining)
  (behind.count 0x0A + 1, (behind.reverse.takeWhile (· != 0x0A)).length)

def message (text : List UInt8) (f : Fault) : String :=
  let (line, column) := f.position text
  f.cause.message ++ s!" at line {line} column {column}"

end Fault

/-- A function that reads from the front of a byte list and returns what is left of it. -/
abbrev Reader (α : Type) := List UInt8 → Except Fault (α × List UInt8)

end DepositGate.Json
