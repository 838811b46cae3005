/-
# StartSignal.Json.Error -- what is wrong with a text that is not JSON

Two kinds: the text ends too early (`Unfinished`), or a character stands where it
cannot (`SyntaxError`).
-/

namespace StartSignal.Json

inductive Unfinished where
  | value
  | list
  | object
  | string
deriving DecidableEq, Repr

/-- Why a character cannot stand where it does. -/
inductive SyntaxError where
  | expectedValue
  | expectedWord
  | expectedColon
  | expectedCommaOrBracket
  | expectedCommaOrBrace
  | keyMustBeString
  | trailingComma
  | trailingCharacters
  | invalidNumber
  | numberOutOfRange
  | invalidEscape
  | unfinishedPair
  | loneSurrogate
  | controlCharacter
  | tooDeep
deriving DecidableEq, Repr

inductive ParseError where
  | unfinished (u : Unfinished)
  | syntaxError (e : SyntaxError)
deriving DecidableEq, Repr

def Unfinished.message : Unfinished → String
  | .value => "EOF while parsing a value"
  | .list => "EOF while parsing a list"
  | .object => "EOF while parsing an object"
  | .string => "EOF while parsing a string"

def SyntaxError.message : SyntaxError → String
  | .expectedValue => "expected value"
  | .expectedWord => "expected ident"
  | .expectedColon => "expected `:`"
  | .expectedCommaOrBracket => "expected `,` or `]`"
  | .expectedCommaOrBrace => "expected `,` or `\x7d`"
  | .keyMustBeString => "key must be a string"
  | .trailingComma => "trailing comma"
  | .trailingCharacters => "trailing characters"
  | .invalidNumber => "invalid number"
  | .numberOutOfRange => "number out of range"
  | .invalidEscape => "invalid escape"
  | .unfinishedPair => "unexpected end of hex escape"
  | .loneSurrogate => "lone leading surrogate in hex escape"
  | .controlCharacter => "control character (\\u0000-\\u001F) found while parsing a string"
  | .tooDeep => "recursion limit exceeded"

def ParseError.message : ParseError → String
  | .unfinished u => u.message
  | .syntaxError e => e.message

end StartSignal.Json
