import ScreenFlow.Fault
import ScreenFlow.Http.Host
import ScreenFlow.Number.Whole
import ScreenFlow.Text.Base64

namespace ScreenFlow

/-! Addresses of resources. An address is read in parts, each of which is brought into the form in
which it is sent; a relative one continues the path of a base. -/

structure Address where
  scheme : List Char
  user : List Char
  host : List Char
  service : Option Int
  path : List Char
  query : Option (List Char)
  fragment : Option (List Char)
  deriving DecidableEq, Repr

namespace Address

open Http

/-! ## Parts -/

def maxLength : Nat := 65536

def hasControl (text : List Char) : Bool :=
  text.any fun character => character < ' ' || character = '\x7f'

def inScheme (character : Char) : Bool :=
  character.isAlphanum || character = '+' || character = '.' || character = '-'

def splitScheme (text : List Char) : List Char × List Char :=
  let scheme := text.takeWhile inScheme
  match text.dropWhile inScheme with
  | ':' :: rest =>
      if scheme.head?.all Char.isAlpha then (scheme, rest) else ([], text)
  | _ => ([], text)

def splitAuthority : List Char → List Char × List Char
  | '/' :: '/' :: rest =>
      let inside (character : Char) : Bool :=
        character ≠ '/' && character ≠ '?' && character ≠ '#'
      (rest.takeWhile inside, rest.dropWhile inside)
  | text => ([], text)

def splitPath (text : List Char) : List Char × Option (List Char) × Option (List Char) :=
  let (before, fragment) :=
    (text.takeWhile (· ≠ '#'),
      if text.contains '#' then some ((text.dropWhile (· ≠ '#')).drop 1) else none)
  let query :=
    if before.contains '?' then some ((before.dropWhile (· ≠ '?')).drop 1) else none
  (before.takeWhile (· ≠ '?'), query, fragment)

def splitUser (authority : List Char) : List Char × List Char :=
  if authority.contains '@' then
    let after := (authority.reverse.takeWhile (· ≠ '@')).reverse
    (authority.take (authority.length - after.length - 1), after)
  else ([], authority)

def splitHost (text : List Char) : List Char × List Char :=
  if text.head? = some '[' && text.contains ']' then
    let after := (text.reverse.takeWhile (· ≠ ']')).reverse
    (text.take (text.length - after.length), after)
  else (text.takeWhile (· ≠ ':'), text.dropWhile (· ≠ ':'))

def usualServices : List (String × Int) :=
  [("ftp", 21), ("http", 80), ("https", 443), ("ws", 80), ("wss", 443)]

/-- The number of the service at a host, after a colon. The usual one of a scheme counts as none. -/
def service? (scheme text : List Char) : Option (Option Int) := do
  let numeral := if text.head? = some ':' then text.drop 1 else text
  if numeral.isEmpty then return none
  else
    let service ← Whole.read? 10 numeral
    return if usualServices.contains (String.ofList scheme, service) then none else some service

/-- The steps of a path without those that stay or step back. The first step is never taken back. -/
def withoutDots (path : List Char) : List Char :=
  let steps := path.splitOn '/'
  if steps.contains ['.'] || steps.contains ['.', '.'] then
    let kept := steps.foldl (fun kept step =>
      if step = ['.'] then kept
      else if step = ['.', '.'] then
        if kept = [] || kept = [[]] then kept else kept.dropLast
      else kept ++ [step]) []
    ['/'].intercalate kept
  else path

def inQuery : Char → Bool := Percent.visibleExcept "\"#<>"

def inPath : Char → Bool := Percent.visibleExcept "\"#<>?\x60\x7b\x7d"

def inUser : Char → Bool := Percent.visibleExcept "\"#<>?\x60\x7b\x7d/;=@[\\]^|"

def inFragment : Char → Bool := Percent.visibleExcept "\"<>\x60"

def isAbsolute (address : Address) : Bool := !address.scheme.isEmpty && !address.host.isEmpty

/-- An address from its parts as they were given. A path after a host begins with a slash, and
without a host and a scheme it begins neither with two slashes nor with a colon. -/
def ofParts (scheme authority path : List Char) (query fragment : Option (List Char)) :
    Except Fault Address := do
  let (user, rest) := splitUser authority
  let (host, rest) := splitHost rest
  let user := Percent.quote inUser user
  let host ← orFault .malformedAddress (Host.normal? host)
  let service ← orFault .malformedAddress (service? scheme rest)
  let hasAuthority := !user.isEmpty || !host.isEmpty || service.isSome
  let hasScheme := !scheme.isEmpty
  if hasAuthority && !path.isEmpty && path.head? ≠ some '/' then .error .malformedAddress
  else if !hasScheme && !hasAuthority && ("//".toList.isPrefixOf path || path.head? = some ':') then
    .error .malformedAddress
  else
    return {
      scheme := scheme.map Char.toLower
      user, host, service
      path := Percent.quote inPath (if hasScheme || hasAuthority then withoutDots path else path)
      query := query.map (Percent.quote inQuery)
      fragment := fragment.map (Percent.quote inFragment) }

def read (text : String) : Except Fault Address := do
  let characters := text.toList
  if hasControl characters || maxLength < characters.length then .error .malformedAddress
  else
    let (scheme, rest) := splitScheme characters
    let (authority, rest) := splitAuthority rest
    let (path, query, fragment) := splitPath rest
    ofParts scheme authority path query fragment

/-! ## Writing -/

def authority (address : Address) : List Char :=
  (if address.user.isEmpty then [] else address.user ++ ['@']) ++
    (if address.host.contains ':' then '[' :: (address.host ++ [']']) else address.host) ++
    address.service.elim [] fun service => ':' :: (toString service).toList

def target (address : Address) : List Char :=
  (if address.path.isEmpty then ['/'] else address.path) ++
    address.query.elim [] fun query => '?' :: query

def text (address : Address) : String :=
  String.ofList (
    (if address.scheme.isEmpty then [] else address.scheme ++ [':']) ++
      (if address.authority.isEmpty then [] else '/' :: '/' :: address.authority) ++
      address.path ++ (address.query.elim [] fun query => '?' :: query) ++
      address.fragment.elim [] fun fragment => '#' :: fragment)

def beginsWithScheme (text : String) : Bool :=
  let inside (character : Char) : Bool := character ≠ ':' && character ≠ '/'
  let characters := text.toList
  !(characters.takeWhile inside).isEmpty && (characters.dropWhile inside).head? = some ':'

/-- How the user of an address proves who it is: with its name and its password, which follows a
colon. Nobody is there if both are empty. -/
def authorization (address : Address) : Option String :=
  let name := Percent.unquote (address.user.takeWhile (· ≠ ':'))
  let password := Percent.unquote ((address.user.dropWhile (· ≠ ':')).drop 1)
  if name.isEmpty && password.isEmpty then none
  else
    let digits := Text.Base64.encode (Text.Utf8.encode (name ++ ":" ++ password))
    some ("Basic " ++ String.ofList digits)

/-! ## Joining -/

def replace (address : Address) (path : List Char) (query : Option (List Char)) :
    Except Fault Address :=
  let parts := [address.scheme, address.authority, path] ++ query.toList ++ address.fragment.toList
  if parts.any fun part => maxLength < part.length then .error .malformedAddress
  else ofParts address.scheme address.authority path query address.fragment

def withTarget (address : Address) (target : List Char) : Except Fault Address :=
  address.replace (target.takeWhile (· ≠ '?'))
    (if target.contains '?' then some ((target.dropWhile (· ≠ '?')).drop 1) else none)

def asBase (address : Address) : Except Fault Address :=
  if address.target.getLast? = some '/' then .ok address
  else address.withTarget (address.target ++ ['/'])

/-- An address given as a text: an absolute one stands for itself, and any other continues the path
of the base, from which slashes at its head do not lead away. -/
def join (base : Address) (relative : String) : Except Fault Address := do
  let address ← read relative
  if address.isAbsolute then return address
  else base.withTarget (base.target ++ address.target.dropWhile (· = '/'))

def withQuery (address : Address) (entries : List (String × String)) : Except Fault Address :=
  address.replace address.path (some (Percent.form entries))

def joinText (base relative : String) : Except Fault String := do
  return ((← (← (← read base).asBase).join relative).text)

example : joinText "https://h.test/v1/" "/a b?c" = .ok "https://h.test/v1/a%20b?c" := by
  decide +kernel
example : joinText "HTTP://H.test:80" "../x" = .ok "http://h.test/x" := by decide +kernel
example : joinText "https://h.test/" "a\nb" = .error .malformedAddress := by decide +kernel

end Address

end ScreenFlow
