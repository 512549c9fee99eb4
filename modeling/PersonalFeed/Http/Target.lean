import PersonalFeed.Http.Host

/-!
Targets of requests: a scheme, an authority behind two slashes, a path, a query and a fragment, all
but the path optional. A target with a scheme and a host is taken as it is; any other one is a path
below the root of the service. Steps in a path to the same or to the parent place are resolved
before escapes are.
-/

set_option autoImplicit false

namespace PersonalFeed.Http

inductive RequestFlaw where
  | target
  /-- A text has no form in bytes. -/
  | unencodable
  /-- A number of the body is not finite. -/
  | notFinite
  deriving DecidableEq, Repr

def encoded (codes : List Code) : Except RequestFlaw (List Char) :=
  match codes.mapM Code.char? with
  | some chars => .ok chars
  | none => .error .unencodable

def targetLimit : Nat := 65536

/-- Whether a target may be read: it is not too long, and all its ASCII characters show. -/
def isTarget (target : Text) : Bool :=
  target.length ≤ targetLimit &&
    target.codes.all fun code =>
      !(Text.isBetween '\x00' '\x1f' code || code == Code.char '\x7f')

structure Authority where
  user : List Code
  host : List Code
  port : List Code
  deriving DecidableEq, Repr

namespace Authority

/-- A row in front of the last mark, and what follows it; all of it follows if there is no mark. -/
def cutLast (mark : Code) (row : List Code) : List Code × List Code :=
  let last := (row.reverse.takeWhile (· ≠ mark)).reverse
  (row.take (row.length - last.length - 1), last)

/-- The user stands in front of the last sign for it, and the port behind the first colon that is
not between brackets. -/
def ofCodes (codes : List Code) : Authority :=
  let (user, rest) := cutLast (.char '@') codes
  let host :=
    if rest.head? = some (.char '[') ∧ rest.contains (.char ']') then
      rest.take (rest.length - (cutLast (.char ']') rest).2.length)
    else rest.takeWhile (· ≠ .char ':')
  let rest := rest.drop host.length
  ⟨user, host, if rest.head? = some (.char ':') then rest.drop 1 else rest⟩

def isEmpty (authority : Authority) : Bool :=
  authority.user.isEmpty && authority.host.isEmpty && authority.port.isEmpty

def check (authority : Authority) : Except RequestFlaw Unit := do
  let _ ← encoded authority.user
  if !Host.isValid authority.host then .error .target
  else if !authority.port.isEmpty && !Host.isPort authority.port then .error .target
  else .ok ()

end Authority

structure Target where
  scheme : List Code
  authority : Authority
  path : List Code
  query : List Code
  fragment : List Code
  deriving DecidableEq, Repr

/-- Walk a path: one dot stays where it is, and two go back, though not beyond the root. -/
def resolveSteps (walked : List (List Char)) : List (List Char) → List (List Char)
  | [] => walked.reverse
  | step :: rest =>
    if step = ['.'] then resolveSteps walked rest
    else if step = ['.', '.'] then
      resolveSteps (if walked = [[]] then walked else walked.drop 1) rest
    else resolveSteps (step :: walked) rest

def resolvePath (path : List Char) : List Char :=
  ['/'].intercalate (resolveSteps [] (splitAt '/' path))

namespace Target

/-- A scheme, which ends at a colon, and what follows it: letters, digits and a few signs behind a
letter, or nothing at all. -/
def splitScheme (codes : List Code) : List Code × List Code :=
  let (scheme, rest) := cut (.char ':') codes
  let isScheme := match scheme with
    | [] => true
    | first :: more => Text.isPlainLetter first && more.all fun code =>
      Text.isPlainLetter code || Text.isPlainDigit code ||
        ("+.-".toList.map Code.char).contains code
  if codes.contains (.char ':') && isScheme then (scheme, rest) else ([], codes)

def splitAuthority : List Code → List Code × List Code
  | .char '/' :: .char '/' :: rest =>
    (rest.takeWhile (· ≠ .char '/'), rest.dropWhile (· ≠ .char '/'))
  | path => ([], path)

def ofCodes (codes : List Code) : Target :=
  let (rest, fragment) := cut (.char '#') codes
  let (rest, query) := cut (.char '?') rest
  let (scheme, rest) := splitScheme rest
  let (authority, path) := splitAuthority rest
  ⟨scheme, .ofCodes authority, path, query, fragment⟩

def isBare (target : Target) : Bool := target.scheme.isEmpty && target.authority.isEmpty

def isAbsolute (target : Target) : Bool :=
  !target.scheme.isEmpty && !target.authority.host.isEmpty

def isAmbiguous (path : List Code) : Bool :=
  path.take 2 = [.char '/', .char '/'] || path.head? = some (.char ':')

def checkLength (lengths : List Nat) : Except RequestFlaw Unit :=
  if lengths.all (· ≤ targetLimit) then .ok () else .error .target

def located (target : Target) : Except RequestFlaw (List Char × List Char) := do
  target.authority.check
  if target.isBare && isAmbiguous target.path then .error .target
  else
    -- The last flaws of a target: parts without a form in bytes, then parts that are too long.
    let path ← encoded target.path
    let query ← encoded target.query
    let _ ← encoded target.fragment
    let path := if target.isBare then path else resolvePath path
    if target.isAbsolute then return (if path.isEmpty then ['/'] else path, query)
    else
      let path := '/' :: path.dropWhile (· == '/')
      checkLength [escapedLength pathEscapes path, escapedLength queryEscapes query]
      return (resolvePath path, query)

/-- Whether the name of the service has a form in bytes: a zone of an address is sent as it is. -/
def isNamed (target : Target) : Bool :=
  !target.isAbsolute || !Host.isBracketed target.authority.host ||
    target.authority.host.all Text.isAscii

end Target

end PersonalFeed.Http
