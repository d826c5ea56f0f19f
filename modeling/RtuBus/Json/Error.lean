import RtuBus.Json.Value
import RtuBus.Text.Printable

/-! # Errors of reading and decoding JSON

An error is a fault and, for errors in a text, the place where it was found: the line
(counting from one) and the column, which counts the bytes since the start of the line. A
fault is either malformed text or text that is well formed but does not have the expected
shape; `Fault.message` holds the wording of both.
-/

namespace RtuBus

namespace Json

/-- Why a text is not well-formed JSON. -/
inductive Malformed where
  | eofInList
  | eofInObject
  | eofInString
  | eofInValue
  | expectedColon
  | expectedListCommaOrEnd
  | expectedObjectCommaOrEnd
  | expectedIdent
  | expectedValue
  | invalidEscape
  | invalidNumber
  | numberOutOfRange
  | controlCharacter
  | keyMustBeAString
  | loneSurrogate
  | trailingComma
  | trailingCharacters
  | unexpectedEndOfHexEscape
  | recursionLimitExceeded
  deriving Repr, DecidableEq

namespace Malformed

/-- The wording of a syntax fault. -/
def message : Malformed → String
  | eofInList => "EOF while parsing a list"
  | eofInObject => "EOF while parsing an object"
  | eofInString => "EOF while parsing a string"
  | eofInValue => "EOF while parsing a value"
  | expectedColon => "expected `:`"
  | expectedListCommaOrEnd => "expected `,` or `]`"
  | expectedObjectCommaOrEnd => "expected `,` or `\x7d`"
  | expectedIdent => "expected ident"
  | expectedValue => "expected value"
  | invalidEscape => "invalid escape"
  | invalidNumber => "invalid number"
  | numberOutOfRange => "number out of range"
  | controlCharacter => "control character (\\u0000-\\u001F) found while parsing a string"
  | keyMustBeAString => "key must be a string"
  | loneSurrogate => "lone leading surrogate in hex escape"
  | trailingComma => "trailing comma"
  | trailingCharacters => "trailing characters"
  | unexpectedEndOfHexEscape => "unexpected end of hex escape"
  | recursionLimitExceeded => "recursion limit exceeded"

end Malformed

/-- Lower-case hexadecimal digits of a number, without leading zeros. -/
def hexLower (n : Nat) : List Char :=
  if n < 16 then [Hex.digit false n] else hexLower (n / 16) ++ [Hex.digit false (n % 16)]
termination_by n
decreasing_by omega

/-- One character of a string shown in a message. -/
def showChar (c : Char) : List Char :=
  if c = '"' then ['\\', '"']
  else if c = '\\' then ['\\', '\\']
  else if c = '\n' then ['\\', 'n']
  else if c = '\r' then ['\\', 'r']
  else if c = '\t' then ['\\', 't']
  else if c.toNat = 0 then ['\\', '0']
  else if Printable.shows c then [c]
  else ['\\', 'u', '\x7b'] ++ hexLower c.toNat ++ ['\x7d']

def showString (s : String) : String :=
  String.ofList ('"' :: s.toList.flatMap showChar ++ ['"'])

/-- What a decoder found instead of what it expected. -/
inductive Unexpected where
  | bool (b : Bool)
  | unsigned (n : Nat)
  | signed (n : Int)
  | float (x : Binary.Finite)
  | str (s : String)
  | unit
  | seq
  | map
  deriving Repr

namespace Unexpected

/-- How the found thing is named in a message. -/
def message : Unexpected → String
  | bool b => "boolean `" ++ toString b ++ "`"
  | unsigned n => "integer `" ++ toString n ++ "`"
  | signed n => "integer `" ++ toString n ++ "`"
  | float x => "floating point `" ++ numberLayout.finite Binary.double x ++ "`"
  | str s => "string " ++ showString s
  | unit => "null"
  | seq => "sequence"
  | map => "map"

end Unexpected

namespace Number

/-- A number as a found thing. -/
def unexpected : Number → Unexpected
  | nat n => .unsigned n
  | neg n => .signed (-(n : Int))
  | float x => .float x

end Number

namespace Value

/-- A value as a found thing. -/
def unexpected : Value → Unexpected
  | null => .unit
  | bool b => .bool b
  | num n => n.unexpected
  | str s => .str s
  | arr _ => .seq
  | obj _ => .map

end Value

/-- Names in backquotes: one, two joined by "or", or "one of" a list. -/
def oneOf : List String → String
  | [a] => "`" ++ a ++ "`"
  | [a, b] => "`" ++ a ++ "` or `" ++ b ++ "`"
  | names => "one of " ++ ", ".intercalate (names.map fun n => "`" ++ n ++ "`")

/-- Why reading or decoding failed. -/
inductive Fault where
  | malformed (code : Malformed)
  | invalidType (found : Unexpected) (expected : String)
  | invalidValue (found : Unexpected) (expected : String)
  | invalidLength (len : Nat) (expected : String)
  | unknownVariant (name : String) (expected : List String)
  | missingField (name : String)
  | duplicateField (name : String)
  deriving Repr

namespace Fault

/-- The wording of a fault. -/
def message : Fault → String
  | malformed code => code.message
  | invalidType f e => "invalid type: " ++ f.message ++ ", expected " ++ e
  | invalidValue f e => "invalid value: " ++ f.message ++ ", expected " ++ e
  | invalidLength n e => "invalid length " ++ toString n ++ ", expected " ++ e
  | unknownVariant n [] => "unknown variant `" ++ n ++ "`, there are no variants"
  | unknownVariant n names => "unknown variant `" ++ n ++ "`, expected " ++ oneOf names
  | missingField n => "missing field `" ++ n ++ "`"
  | duplicateField n => "duplicate field `" ++ n ++ "`"

end Fault

/-- A place in a text: line from one, column in bytes from the start of the line. -/
structure Position where
  line : Nat
  column : Nat
  deriving Repr, DecidableEq

/-- The place of byte index `i` in `text`. -/
def Position.ofIndex (text : ByteArray) (i : Nat) : Position :=
  let before := (text.extract 0 i).toList
  let lineStart := before.length - (before.reverse.takeWhile (· != 10)).length
  ⟨before.count 10 + 1, i - lineStart⟩

/-- A fault, with its place when it was found in a text. -/
structure Error where
  fault : Fault
  position : Option Position := none
  deriving Repr

namespace Error

/-- The text of an error: the fault, then its place if it has one. -/
def message (e : Error) : String :=
  match e.position with
  | some p => e.fault.message ++ " at line " ++ toString p.line ++ " column " ++ toString p.column
  | none => e.fault.message

end Error

end Json

end RtuBus
