import MetaLedger.Remote.Host

/-!
# Where it is safe to subscribe

A subscription is opened over an encrypted connection, or to this machine. Only as much of a URL is
looked at as tells the two apart: its scheme and its host, and whether it is a URL at all. There are
three kinds of URLs: those of the web, which always have a host, those of files, whose host is the
machine they are on, and all others.
-/

namespace MetaLedger.Remote

/-- The scheme of a URL in small letters, and its host, if it has one. -/
structure UrlOrigin where
  scheme : String
  host : Option Host
deriving DecidableEq

namespace UrlOrigin

/-- A text without the blanks and controls around it, and without breaks in it. -/
def trimmed (url : String) : List Char :=
  let start := url.toList.dropWhile (· ≤ ' ')
  (start.reverse.dropWhile (· ≤ ' ')).reverse.filter fun c => c ≠ '\t' && c ≠ '\n' && c ≠ '\r'

/-- The scheme in small letters, and what stands behind its colon. -/
def scheme? (text : List Char) : Option (String × List Char) :=
  let scheme := text.takeWhile fun c => c.isAlphanum || ['+', '-', '.'].contains c
  match text.drop scheme.length with
  | ':' :: rest =>
    if scheme.head?.any Char.isAlpha then some (String.ofList (scheme.map Char.toLower), rest)
    else none
  | _ => none

/-- The schemes of the web. -/
def webSchemes : List String := ["http", "https", "ws", "wss", "ftp"]

def isSlash (c : Char) : Bool := c = '/' || c = '\\'

/-- What ends the part of a URL that names a place. -/
def endsPlace (c : Char) : Bool := c = '/' || c = '?' || c = '#'

/-! ## Users, hosts and numbers -/

/-- What stands before the colon behind a host; colons between brackets belong to the host. -/
def hostText (bracketed : Bool) : List Char → List Char
  | [] => []
  | c :: rest =>
    if c = ':' && !bracketed then []
    else c :: hostText (if c = '[' then true else if c = ']' then false else bracketed) rest

/-- What stands behind a host: nothing, or a colon with a number of 16 bits or nothing. A backslash
ends the number. -/
def isEndpoint : List Char → Bool
  | [] => true
  | ':' :: rest =>
    ((Text.number? 10 (rest.takeWhile (· ≠ '\\'))).filter (· < 65536)).isSome
  | _ => false

/-- A place in a URL. -/
structure Place where
  /-- What stands before the last at sign, if there is one. -/
  user : Option (List Char)
  host : List Char
  /-- What stands behind the host. -/
  endpoint : List Char
  /-- The place ends the URL. -/
  isLast : Bool

/-- The parts of a place that ends the URL if `isLast`. -/
def placeOf (isLast : Bool) (text : List Char) : Place :=
  let place := (text.reverse.takeWhile (· ≠ '@')).reverse
  let host := hostText false place
  { user := if text.contains '@' then some (text.take (text.length - place.length - 1)) else none
    host
    endpoint := place.drop host.length
    isLast }

/-- The host of a URL of the web. -/
def webHost? (rest : List Char) : Option Host :=
  let text := (rest.dropWhile isSlash).takeWhile fun c => !(endsPlace c || c = '\\')
  let place := placeOf false text
  if isEndpoint place.endpoint then Host.ofWeb? place.host else none

/-- The host of any other URL with a place, if the place is a sound one. It may be without a host only
if there is neither a user nor a number; an empty user without a password counts as none, unless
nothing is between the at sign and what follows the place. -/
def otherHost? (rest : List Char) : Option (Option Host) :=
  let text := rest.takeWhile fun c => !endsPlace c
  let place := placeOf (text.length = rest.length) text
  if place.host.isEmpty then
    let isNobody := match place.user with
      | none | some [':'] => true
      | some [] => place.isLast
      | some _ => false
    if isNobody && place.endpoint.isEmpty then some none else none
  else if isEndpoint place.endpoint then (Host.ofOther? place.host).map some else none

/-! ## Files -/

/-- A letter with a colon or a bar names a drive. -/
def isDrive : List Char → Bool
  | [letter, mark] => letter.isAlpha && (mark = ':' || mark = '|')
  | _ => false

/-- The step of a path to where it is already. -/
def isHere (step : List Char) : Bool :=
  ["." , "%2e"].contains (String.ofList (step.map Char.toLower))

/-- The step of a path back. -/
def isBack (step : List Char) : Bool :=
  ["..", ".%2e", "%2e.", "%2e%2e"].contains (String.ofList (step.map Char.toLower))

/-- A path has a drive as its first step, where `depth` steps have been made. -/
def leadsToDrive (depth : Nat) : List (List Char) → Bool
  | [] => false
  | step :: rest =>
    if isBack step then leadsToDrive (depth - 1) rest
    else if isHere step then leadsToDrive depth rest
    else depth = 0 && isDrive step || leadsToDrive (depth + 1) rest

/-- The steps of a path behind its first slash. -/
def steps (rest : List Char) : List (List Char) :=
  let path := rest.takeWhile fun c => c ≠ '?' && c ≠ '#'
  Text.parts '/' ((path.drop 1).map fun c => if c = '\\' then '/' else c)

/-- The host of a file, if the URL is a sound one: none where the file is on this machine, or on a
drive. -/
def fileHost? : List Char → Option (Option Host)
  | first :: second :: rest =>
    if isSlash first && isSlash second then
      let text := rest.takeWhile fun c => !(endsPlace c || c = '\\')
      if text.isEmpty || isDrive text then some none
      else do
        let host ← Host.ofWeb? text
        if host = .domain "localhost".toList || leadsToDrive 0 (steps (rest.drop text.length)) then
          return none
        else return some host
    else some none
  | _ => some none

/-! ## Origins -/

/-- The origin of a URL. -/
def of? (url : String) : Option UrlOrigin := do
  let (scheme, rest) ← scheme? (trimmed url)
  if webSchemes.contains scheme then return ⟨scheme, some (← webHost? rest)⟩
  else if scheme = "file" then return ⟨scheme, ← fileHost? rest⟩
  else
    match rest with
    | '/' :: '/' :: rest => return ⟨scheme, ← otherHost? rest⟩
    | _ => return ⟨scheme, none⟩

/-- It is safe to subscribe there. -/
def isSafe (o : UrlOrigin) : Bool :=
  o.scheme = "wss" || o.scheme = "https" || o.host.any Host.isLoopback

end UrlOrigin

/-- Why nothing is subscribed to at a URL, if so: it is none, it is not a safe one, or it is not one
for subscriptions. -/
def urlRefusal? (url : String) : Option String :=
  match UrlOrigin.of? url with
  | none => some "Rpc error: RPC error: no URL of a node"
  | some origin =>
    if !origin.isSafe then some ("Rpc error: RPC error: insecure URL: " ++ url)
    else if origin.scheme = "ws" || origin.scheme = "wss" then none
    else some ("Rpc error: RPC error: no subscriptions under " ++ origin.scheme)

end MetaLedger.Remote
