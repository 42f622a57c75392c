/-! # What is wrong with a malformed document

Documents are read from left to right, and the first problem is the one that counts.

* `Malformed` lists the problems that a text can have as JSON, whatever it is meant to describe.
* `Fault` is the problem at one place under the two ways of reading: a value that is wanted is
  read more strictly than one that is only passed over.
-/

namespace WireSchema

/-- A problem of a text as JSON. -/
inductive Malformed where
  | endInValue
  | endInText
  | endInList
  | endInObject
  | expectedValue
  | expectedLiteral
  | expectedColon
  | expectedCommaOrBracket
  | expectedCommaOrBrace
  | keyNotText
  | trailingComma
  | trailingCharacters
  | invalidNumber
  | numberOutOfRange
  | controlCharacter
  | invalidEscape
  | loneSurrogate
  | unfinishedPair
  deriving DecidableEq, Repr

namespace Malformed

def message : Malformed → String
  | endInValue => "EOF while parsing a value"
  | endInText => "EOF while parsing a string"
  | endInList => "EOF while parsing a list"
  | endInObject => "EOF while parsing an object"
  | expectedValue => "expected value"
  | expectedLiteral => "expected ident"
  | expectedColon => "expected `:`"
  | expectedCommaOrBracket => "expected `,` or `]`"
  | expectedCommaOrBrace => "expected `,` or `\x7d`"
  | keyNotText => "key must be a string"
  | trailingComma => "trailing comma"
  | trailingCharacters => "trailing characters"
  | invalidNumber => "invalid number"
  | numberOutOfRange => "number out of range"
  | controlCharacter => "control character (\\u0000-\\u001F) found while parsing a string"
  | invalidEscape => "invalid escape"
  | loneSurrogate => "lone leading surrogate in hex escape"
  | unfinishedPair => "unexpected end of hex escape"

end Malformed

/-- A place where a value cannot be read on, as it is reported when the value is wanted and
    when it is only passed over. -/
structure Fault where
  wanted : Malformed
  passedOver : Malformed
  deriving DecidableEq, Repr

/-- A fault that is reported in the same way under both readings. -/
def Fault.plain (problem : Malformed) : Fault := ⟨problem, problem⟩

end WireSchema
