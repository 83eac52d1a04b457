import Diffusion.Url.Address
import Diffusion.Url.Domain
import Diffusion.Url.Path

/-!
URLs in their normal form.

A URL is read from any text that has one: blanks around it and line breaks inside do not count, and
where the scheme is one of the web, slashes may be left out, doubled or turned around.
-/

namespace Diffusion

/-- A URL. Its texts are escaped as they are written. -/
structure Url where
  /-- The scheme in small letters. -/
  scheme : String
  user : String
  password : Option String
  /-- The host, empty where it is left open. Without it the path is all there is. -/
  host : Option String
  /-- The number of a service at the host, where it is not the usual one. -/
  service : Option Nat
  path : Url.Path
  query : Option String
  fragment : Option String
deriving DecidableEq, Repr

namespace Url

/-- The usual number of a service at a host. -/
def usualService? : String → Option Nat
  | "http" | "ws" => some 80
  | "https" | "wss" => some 443
  | "ftp" => some 21
  | _ => none

/-- Whether a scheme is one of the web, so that its URLs lead to a host. -/
def isWebScheme (scheme : String) : Bool := (usualService? scheme).isSome

/-- The name and the password of the user as they are written before a host. -/
def userText (url : Url) : String :=
  if url.user.isEmpty && url.password.isNone then ""
  else url.user ++ (match url.password with
    | some password => ":" ++ password
    | none => "") ++ "@"

/-- The part between the scheme and the path. A path that starts with two slashes gets a dot
before it, since it would be taken for a host. -/
def authorityText (url : Url) : String :=
  match url.host with
  | none => if url.path.text.startsWith "//" then "/." else ""
  | some host => "//" ++ url.userText ++ host ++ (match url.service with
    | some service => ":" ++ toString service
    | none => "")

def text (url : Url) : String :=
  url.scheme ++ ":" ++ url.authorityText ++ url.path.text ++ after "?" url.query ++
    after "#" url.fragment
where
  after (sign : String) : Option String → String
    | some text => sign ++ text
    | none => ""

def hasHost (url : Url) : Bool := url.host.any fun host => !host.isEmpty

/-- The scheme in small letters, with what follows its colon. -/
def scheme? (cs : List Char) : Option (String × List Char) :=
  match cutAt ':' cs with
  | (c :: name, some rest) =>
    if c.isAlpha && name.all (fun c => c.isAlphanum || "+-.".toList.contains c) then
      some (String.ofList ((c :: name).map Char.toLower), rest)
    else none
  | _ => none

/-- A host in brackets: an address of eight groups. -/
def bracketed? (cs : List Char) : Option String := do
  guard (cs.getLast? = some ']')
  return "[" ++ EightGroups.text (← EightGroups.ofText? cs.dropLast) ++ "]"

/-- A host of the web: an address, or a domain in its plain form. -/
def webHost? (cs : List Char) : Option String :=
  match cs with
  | '[' :: rest => bracketed? rest
  | _ => do
    let domain ← Domain.plain? (← unescape? cs)
    if domain.isEmpty then none
    else if FourBytes.isMeant domain then FourBytes.text <$> FourBytes.ofDomain? domain
    else some (String.ofList domain)

/-- A host of any other kind: an address in brackets, or a text of its own. -/
def otherHost? (cs : List Char) : Option String :=
  match cs with
  | '[' :: rest => bracketed? rest
  | _ =>
    if cs.any "\x00\t\n\r #/:<>?@[\\]^|".toList.contains then none
    else some (escape isUnprintable cs)

/-- The host at the start of a text, up to a colon outside brackets, and the rest. -/
def splitHost (inside : Bool) : List Char → List Char × List Char
  | [] => ([], [])
  | c :: rest =>
    if c = ':' ∧ !inside then ([], c :: rest)
    else
      let (host, after) := splitHost (c = '[' || inside && c ≠ ']') rest
      (c :: host, after)

/-- The number of a service after a colon: at most the largest word of sixteen bits. What follows
the digits belongs to the path, which has to start with a slash of either kind. -/
def service? (cs : List Char) : Option (Option Nat × List Char) := do
  match cs with
  | ':' :: rest =>
    let digits := rest.takeWhile Char.isDigit
    let after := rest.dropWhile Char.isDigit
    let n ← digitsValue? 10 digits
    guard (n ≤ 65535 && (after.isEmpty || after.head? = some '\\'))
    return (if digits.isEmpty then none else some n, after)
  | after => return (none, after)

/-- The name and the password before the last at sign, without an empty password. -/
def userOf (cs : List Char) : String × Option String :=
  let (user, password) := cutAt ':' cs
  (escape escapedInUser user,
    (password.filter (!·.isEmpty)).map (escape escapedInUser))

/-- The URL with a host whose text follows the two slashes, up to its query. A user needs a host,
and so does the number of a service. A host of the web is not left open. -/
def withAuthority? (scheme : String) (cs : List Char) (hasMore : Bool) : Option Url := do
  let web := isWebScheme scheme
  let authority := cs.takeWhile (!isSlash web ·)
  let path := cs.dropWhile (!isSlash web ·)
  let (info, hostAndService) := cutAtLast '@' authority
  if info = some [] ∧ hostAndService.isEmpty ∧ (hasMore ∨ !path.isEmpty) then none
  let (user, password) := userOf (info.getD [])
  let (hostText, rest) := splitHost false hostAndService
  let host ← if hostText.isEmpty then (if web then none else some "")
    else if web then webHost? hostText else otherHost? hostText
  if host.isEmpty ∧ (!rest.isEmpty ∨ !user.isEmpty ∨ password.isSome) then none
  let (service, after) ← service? rest
  let path := after ++ path
  let path := match path with
    | [] => if web then [""] else []
    | c :: rest => segments web false (if isSlash web c then rest else path)
  return {
    scheme, user, password, host
    service := if service = usualService? scheme then none else service
    path := .rooted path, query := none, fragment := none }

/-- The URL of a file, whose text follows the scheme, up to its query. A drive is never on another
host. -/
def ofFile? (cs : List Char) : Option Url := do
  let (host, path) ← match cs with
    | a :: b :: rest =>
      if isSlash true a && isSlash true b then
        let hostText := rest.takeWhile (!isSlash true ·)
        if hostText.isEmpty || isDrive hostText then some ("", rest)
        else
          let host ← webHost? hostText
          some (if host = "localhost" then "" else host, rest.dropWhile (!isSlash true ·))
      else some ("", cs)
    | _ => some ("", cs)
  let raw := match path with
    | c :: rest => if isSlash true c then rest else path
    | [] => []
  let names := segments true true raw
  let onDrive := names.head?.any fun name => isDrive name.toList
  let names := names.dropWhile String.isEmpty
  return {
    scheme := "file", user := "", password := none, host := some (if onDrive then "" else host)
    service := none, path := .rooted (if names.isEmpty then [""] else names)
    query := none, fragment := none }

/-- The URL without a host, whose text follows the scheme, up to its query. -/
def withoutAuthority (scheme : String) (cs : List Char) : Url :=
  let path := match cs with
    | '/' :: rest => .rooted (segments false false rest)
    | _ => .plain (escape isUnprintable cs)
  { scheme, user := "", password := none, host := none, service := none, path
    query := none, fragment := none }

/-- The URL that a text has, if it has one. -/
def parse? (text : String) : Option Url := do
  let inner := (text.toList.dropWhile (·.toNat ≤ 0x20)).reverse.dropWhile (·.toNat ≤ 0x20)
  let cs := inner.reverse.filter fun c => !"\t\n\r".toList.contains c
  let (scheme, rest) ← scheme? cs
  let (rest, fragment) := cutAt '#' rest
  let (rest, query) := cutAt '?' rest
  let web := isWebScheme scheme
  let hasMore := query.isSome || fragment.isSome
  let url ←
    if scheme = "file" then ofFile? rest
    else if web then withAuthority? scheme (rest.dropWhile (isSlash true)) hasMore
    else match rest with
      | '/' :: '/' :: rest => withAuthority? scheme rest hasMore
      | _ => some (withoutAuthority scheme rest)
  return { url with
    query := query.map (escape (escapedInQuery (web || scheme = "file")))
    fragment := fragment.map (escape escapedInFragment) }

end Url

end Diffusion
