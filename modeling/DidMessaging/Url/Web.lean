import DidMessaging.Url.Host

namespace DidMessaging.Url

inductive Scheme where
  | http
  | https
  | ws
  | wss
  deriving DecidableEq, Repr

def Scheme.name : Scheme → List Char
  | .http => ['h', 't', 't', 'p']
  | .https => ['h', 't', 't', 'p', 's']
  | .ws => ['w', 's']
  | .wss => ['w', 's', 's']

def Scheme.ofName? (name : List Char) : Option Scheme :=
  [Scheme.http, .https, .ws, .wss].find? fun scheme => scheme.name = name

def Scheme.defaultPort : Scheme → Nat
  | .http | .ws => 80
  | .https | .wss => 443

def Scheme.socket : Scheme → Scheme
  | .http | .ws => .ws
  | .https | .wss => .wss

structure WebUrl where
  scheme : Scheme
  user : List Char := []
  password : List Char := []
  host : Host
  port : Option Nat := none
  path : List (List Char) := [[]]
  query : Option (List Char) := none
  fragment : Option (List Char) := none
  deriving DecidableEq, Repr

namespace WebUrl

def isSlash (c : Char) : Bool := c = '/' || c = '\\'

def tidy (s : List Char) : List Char :=
  let outer (c : Char) : Bool := c.toNat ≤ 32
  let trimmed := ((s.dropWhile outer).reverse.dropWhile outer).reverse
  trimmed.filter fun c => c ≠ '\t' ∧ c ≠ '\n' ∧ c ≠ '\r'

def splitScheme (s : List Char) : Option (Scheme × List Char) := do
  let isSchemeChar (c : Char) : Bool := c.isAlphanum || ['+', '-', '.'].contains c
  match s.dropWhile isSchemeChar with
  | ':' :: rest =>
    let scheme ← Scheme.ofName? ((s.takeWhile isSchemeChar).map Char.toLower)
    return (scheme, rest)
  | _ => none

def splitUser (authority : List Char) : Option (List Char) × List Char :=
  match Text.splitAt (· = '@') authority with
  | [] => (none, authority)
  | [only] => (none, only)
  | parts => (some (List.intercalate ['@'] parts.dropLast), parts.getLast?.getD [])

def userOf (info : Option (List Char)) : List Char × List Char :=
  let info := info.getD []
  let user := info.takeWhile (· ≠ ':')
  (encode hiddenInUser user, encode hiddenInUser (info.drop (user.length + 1)))

def splitPort (s : List Char) : List Char × Option (List Char) :=
  let bracketed := if s.head? = some '[' then s.takeWhile (· ≠ ']') else []
  let rest := s.drop bracketed.length
  match rest.dropWhile (· ≠ ':') with
  | [] => (s, none)
  | _ :: port => (bracketed ++ rest.takeWhile (· ≠ ':'), some port)

def portOf (scheme : Scheme) : Option (List Char) → Option (Option Nat)
  | none => some none
  | some [] => some none
  | some digits =>
    if digits.all Char.isDigit then
      let port := Nat.ofDigitChars 10 digits 0
      if 65535 < port then none
      else if port = scheme.defaultPort then some none
      else some (some port)
    else none

def dots : List Char → Option Nat
  | [] => some 0
  | '.' :: s => (dots s).map (· + 1)
  | '%' :: '2' :: 'e' :: s => (dots s).map (· + 1)
  | '%' :: '2' :: 'E' :: s => (dots s).map (· + 1)
  | _ => none

/-- Goes down the segments of a path; one dot stays, two dots go up again. -/
def descend (path : List (List Char)) : List (List Char) → List (List Char)
  | [] => path
  | segment :: segments =>
    let isLast := segments.isEmpty
    match dots segment with
    | some 1 => descend (if isLast then path ++ [[]] else path) segments
    | some 2 => descend (if isLast then path.dropLast ++ [[]] else path.dropLast) segments
    | _ => descend (path ++ [encode hiddenInPath segment]) segments

def pathOf (s : List Char) : List (List Char) :=
  match s with
  | [] => [[]]
  | _ :: s => descend [] (Text.splitAt isSlash s)

def splitMark (mark : Char) (s : List Char) : List Char × Option (List Char) :=
  match s.dropWhile (· ≠ mark) with
  | [] => (s, none)
  | _ :: rest => (s.takeWhile (· ≠ mark), some rest)

def parse (s : String) : Option WebUrl := do
  let (scheme, rest) ← splitScheme (tidy s.toList)
  let rest := rest.dropWhile isSlash
  let isEnd (c : Char) : Bool := isSlash c || c = '?' || c = '#'
  let (info, address) := splitUser (rest.takeWhile fun c => !isEnd c)
  let (user, password) := userOf info
  let (hostText, portText) := splitPort address
  let host ← Host.parse hostText
  let port ← portOf scheme portText
  let (rest, fragment) := splitMark '#' (rest.dropWhile fun c => !isEnd c)
  let (path, query) := splitMark '?' rest
  return {
    scheme, user, password, host, port
    path := pathOf path
    query := query.map (encode hiddenInQuery)
    fragment := fragment.map (encode hiddenInFragment) }

def userText (url : WebUrl) : List Char :=
  if url.user.isEmpty && url.password.isEmpty then []
  else if url.password.isEmpty then url.user ++ ['@']
  else url.user ++ ':' :: url.password ++ ['@']

def marked (mark : Char) : Option (List Char) → List Char
  | none => []
  | some s => mark :: s

def text (url : WebUrl) : String := String.ofList <|
  url.scheme.name ++ [':', '/', '/'] ++ url.userText ++ url.host.text ++
    marked ':' (url.port.map (Nat.toDigits 10)) ++
    url.path.flatMap (fun segment => '/' :: segment) ++
    marked '?' url.query ++ marked '#' url.fragment

def socket (url : WebUrl) : WebUrl := { url with scheme := url.scheme.socket }

end WebUrl

end DidMessaging.Url
