import DidMessaging.Text.Hex
import DidMessaging.Text.Utf8

namespace DidMessaging.Url

def percentByte (byte : UInt8) : List Char :=
  let digit (value : Nat) : Char := (Text.Hex.digit value).toUpper
  ['%', digit (byte.toNat / 16), digit (byte.toNat % 16)]

def percentChar (c : Char) : List Char := (String.utf8EncodeChar c).flatMap percentByte

def encodeChar (hidden : Char → Bool) (c : Char) : List Char :=
  if hidden c then percentChar c else [c]

def encode (hidden : Char → Bool) (s : List Char) : List Char := s.flatMap (encodeChar hidden)

def isUnshowable (c : Char) : Bool := c.toNat ≤ 32 || 127 ≤ c.toNat || ['"', '<', '>'].contains c

def hiddenInFragment (c : Char) : Bool := isUnshowable c || c = '\x60'

def hiddenInQuery (c : Char) : Bool := isUnshowable c || ['#', '\''].contains c

def hiddenInPath (c : Char) : Bool :=
  isUnshowable c || ['\x60', '#', '?', '{', '}'].contains c

def hiddenInUser (c : Char) : Bool :=
  hiddenInPath c || ['/', ':', ';', '=', '@', '[', '\\', ']', '^', '|'].contains c

/-- The bytes that percent-encoded text stands for; a `%` without two digits is itself. -/
def decode : List Char → List UInt8
  | [] => []
  | '%' :: a :: b :: s =>
    match Text.Hex.value? a, Text.Hex.value? b with
    | some high, some low => UInt8.ofNat (high * 16 + low) :: decode s
    | _, _ => 37 :: decode (a :: b :: s)
  | c :: s => String.utf8EncodeChar c ++ decode s

def formByte (byte : UInt8) : List Char :=
  let c := Char.ofNat byte.toNat
  if c.isAlphanum || ['*', '-', '.', '_'].contains c then [c]
  else if c = ' ' then ['+']
  else percentByte byte

def formText (s : String) : List Char := (Text.utf8 s).flatMap formByte

def formQuery (pairs : List (String × String)) : String :=
  String.ofList <| List.intercalate ['&'] <| pairs.map fun (name, value) =>
    formText name ++ '=' :: formText value

end DidMessaging.Url
