import DidMessaging.Json.Value
import DidMessaging.Text.Quoted

namespace DidMessaging.Json

inductive Found where
  | null
  | flag (value : Bool)
  | number (value : Number)
  | text (value : String)
  | list
  | object
  deriving DecidableEq, Repr

def Found.name : Found → String
  | .null => "null"
  | .flag value => s!"boolean `{String.ofList (flagChars value)}`"
  | .number (.real isNegative d) =>
    s!"floating point `{String.ofList (Number.real isNegative d).chars}`"
  | .number n => s!"integer `{String.ofList n.chars}`"
  | .text value => s!"string {Text.quoted value}"
  | .list => "sequence"
  | .object => "map"

inductive Fault where
  | endInValue
  | endInText
  | endInObject
  | endInList
  | expectedValue
  | expectedLiteral
  | expectedColon
  | expectedCommaOrBrace
  | expectedCommaOrBracket
  | nameNotText
  | trailingComma
  | trailingText
  | invalidNumber
  | numberTooLarge
  | invalidEscape
  | brokenPair
  | loneSurrogate
  | controlCharacter
  | tooDeep
  | wrongKind (found : Found) (wanted : String)
  | wrongValue (found : Found) (wanted : String)
  | missingMember (name : String)
  | repeatedMember (name : String)
  | missingElement (index : Nat) (record : String) (size : Nat)
  | unknownChoice (found : String) (choices : List String)
  | noVariant (union : String)
  deriving DecidableEq, Repr

def elementCount (n : Nat) : String :=
  if n = 1 then "1 element" else s!"{n} elements"

def alternatives : List String → String
  | [] => ""
  | [only] => s!"`{only}`"
  | [first, second] => s!"`{first}` or `{second}`"
  | names => "one of " ++ ", ".intercalate (names.map fun name => s!"`{name}`")

def Fault.message : Fault → String
  | .endInValue => "EOF while parsing a value"
  | .endInText => "EOF while parsing a string"
  | .endInObject => "EOF while parsing an object"
  | .endInList => "EOF while parsing a list"
  | .expectedValue => "expected value"
  | .expectedLiteral => "expected ident"
  | .expectedColon => "expected `:`"
  | .expectedCommaOrBrace => "expected `,` or `\x7d`"
  | .expectedCommaOrBracket => "expected `,` or `]`"
  | .nameNotText => "key must be a string"
  | .trailingComma => "trailing comma"
  | .trailingText => "trailing characters"
  | .invalidNumber => "invalid number"
  | .numberTooLarge => "number out of range"
  | .invalidEscape => "invalid escape"
  | .brokenPair => "unexpected end of hex escape"
  | .loneSurrogate => "lone leading surrogate in hex escape"
  | .controlCharacter => "control character (\\u0000-\\u001F) found while parsing a string"
  | .tooDeep => "recursion limit exceeded"
  | .wrongKind found wanted => s!"invalid type: {found.name}, expected {wanted}"
  | .wrongValue found wanted => s!"invalid value: {found.name}, expected {wanted}"
  | .missingMember name => s!"missing field `{name}`"
  | .repeatedMember name => s!"duplicate field `{name}`"
  | .missingElement index record size =>
    s!"invalid length {index}, expected struct {record} with {elementCount size}"
  | .unknownChoice found choices =>
    s!"unknown variant `{found}`, expected {alternatives choices}"
  | .noVariant union => s!"data did not match any variant of untagged enum {union}"

end DidMessaging.Json
