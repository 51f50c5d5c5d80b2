import NetworkTuning.Web.Host

/-!
# Web addresses

An address begins with a scheme. The schemes of the web call for a host, with any number of slashes
in between; other schemes have a host only after two slashes, and without any slash they have
nothing that a relative address could be resolved against. Files have a host between two slashes and
the next one. The path is resolved as it is read: a lone dot goes nowhere, and two dots go back.
-/

namespace NetworkTuning.Web

/-- What an address has behind its host: steps that lead somewhere, or a text without steps. -/
inductive Path where
  | steps (names : List String)
  | solid (text : String)
  deriving Repr, DecidableEq, Inhabited

/-- A user's name and password as an address shows them. -/
structure Credentials where
  user : String
  password : String
  deriving Repr, DecidableEq, Inhabited

/-- An address. What stands after its path does not count. -/
structure Address where
  scheme : String
  credentials : Option Credentials := none
  host : Option Host := none
  /-- The port, if it is not the usual one of the scheme. -/
  port : Option Nat := none
  path : Path
  deriving Repr, DecidableEq, Inhabited

/-- The schemes that call for a host, and their usual ports. -/
def webSchemes : List (String × Nat) :=
  [("http", 80), ("https", 443), ("ws", 80), ("wss", 443), ("ftp", 21)]

/-- The usual port of a scheme. -/
def usualPort? (scheme : String) : Option Nat :=
  (webSchemes.find? fun s => s.1 = scheme).map Prod.snd

/-- Whether a scheme calls for a host. -/
def isWeb (scheme : String) : Bool := (usualPort? scheme).isSome

/-- Whether a character separates the steps of a path in an address of a scheme. -/
def isSlash (scheme : String) (c : Char) : Bool :=
  c = '/' || (c = '\\' && (isWeb scheme || scheme = "file"))

/-- Whether a character ends the path. -/
def endsPath (c : Char) : Bool := c = '?' || c = '#'

/-- Whether a text is the letter of a drive. -/
def isDrive (cs : List Char) : Bool :=
  match cs with
  | [letter, sign] => letter.isAlpha && (sign = ':' || sign = '|')
  | _ => false

/-- A step of a path with the escapes of dots undone, if all of it is dots. -/
def dots? (step : String) : Option Nat :=
  let plain := ((step.replace "%2e" ".").replace "%2E" ".").toList
  if plain = ['.'] then some 1 else if plain = ['.', '.'] then some 2 else none

/-- A path one step back. The letter of a drive is not left. -/
def stepBack (names : List String) : List String :=
  if (names.getLast?.map fun name => isDrive name.toList).getD false then names else names.dropLast

/-- A path with steps taken one after the other; the last one leads to something even if it goes
nowhere or back. -/
def walk (names : List String) : List String → List String
  | [] => names
  | [step] =>
    match dots? step with
    | some 1 => names ++ [""]
    | some _ => stepBack names ++ [""]
    | none => names ++ [step]
  | step :: rest =>
    match dots? step with
    | some 1 => walk names rest
    | some _ => walk (stepBack names) rest
    | none => walk (names ++ [step]) rest

/-- The steps that a text consists of. -/
def stepsOf (scheme : String) (cs : List Char) : List String :=
  (Text.splitAll (isSlash scheme) cs).map fun step => String.ofList (escape pathSpecials step)

/-- The path that a text behind its first slash is, up to what ends it. -/
def pathOfText (scheme : String) (cs : List Char) : List String :=
  walk [] (stepsOf scheme (cs.takeWhile fun c => !endsPath c))

/-- The path of a file, and whether it begins with the letter of a drive. Empty steps at its start
do not count. -/
def filePath (cs : List Char) : List String × Bool :=
  let steps := stepsOf "file" (cs.takeWhile fun c => !endsPath c)
  let (steps, drive) := match steps with
    | step :: rest =>
      if isDrive step.toList then (String.ofList (step.toList.take 1 ++ [':']) :: rest, true)
      else (steps, false)
    | [] => ([], false)
  let names := (walk [] steps).dropWhile String.isEmpty
  (if names.isEmpty then [""] else names, drive)

/-- A host and the text after its colon, which must not stand between brackets. -/
def splitPort : Bool → List Char → List Char × Option (List Char)
  | _, [] => ([], none)
  | false, ':' :: rest => ([], some rest)
  | inside, c :: rest =>
    let inside := if c = '[' then true else if c = ']' then false else inside
    let (host, port) := splitPort inside rest
    (c :: host, port)

/-- The number that a port is, if it is not the usual one, and what follows its digits, which can
only be a path that begins with a backslash. -/
def readPort (scheme : String) (cs : List Char) :
    Except AddressError (Option Nat × List Char) :=
  let digits := cs.takeWhile Char.isDigit
  let rest := cs.dropWhile Char.isDigit
  let number := (Decimal.digitsValue? 0 digits).getD 0
  if 65536 ≤ number ∨ (rest ≠ [] ∧ rest.head? ≠ some '\\') then .error .badPort
  else .ok (if digits.isEmpty ∨ usualPort? scheme = some number then none else some number, rest)

/-- The text before the last `@` and the text after it. -/
def splitUser? (cs : List Char) : Option (List Char × List Char) :=
  if cs.contains '@' then
    let reversed := cs.reverse
    some (((reversed.dropWhile (· ≠ '@')).drop 1).reverse, (reversed.takeWhile (· ≠ '@')).reverse)
  else none

/-- A user's name and password, unless both are empty. -/
def credentials? (cs : List Char) : Option Credentials :=
  let shown (part : List Char) : String := String.ofList (escape userSpecials part)
  let user := shown (cs.takeWhile (· ≠ ':'))
  let password := shown ((cs.dropWhile (· ≠ ':')).drop 1)
  if user.isEmpty ∧ password.isEmpty then none else some ⟨user, password⟩

/-- The address that a text after the slashes in front of the host denotes. -/
def readAuthority (scheme : String) (cs : List Char) : Except AddressError Address := do
  let inAuthority (c : Char) : Bool :=
    !(c = '/' || endsPath c || (isWeb scheme && c = '\\'))
  let authority := cs.takeWhile inAuthority
  let rest := cs.dropWhile inAuthority
  let (userText, hostText) := (splitUser? authority).getD ([], authority)
  if userText.isEmpty ∧ hostText ≠ authority ∧ hostText.isEmpty ∧ !rest.isEmpty then
    .error .emptyHost
  let credentials := credentials? userText
  let (name, portText) := splitPort false hostText
  if name.isEmpty ∧ (isWeb scheme ∨ portText.isSome) then .error .emptyHost
  let host ← if isWeb scheme then Host.ofDomain name else Host.ofAnything name
  let (port, after) ← readPort scheme (portText.getD [])
  if name.isEmpty ∧ credentials.isSome then .error .emptyHost
  let path := match after ++ rest with
    | c :: text =>
      if isSlash scheme c then pathOfText scheme text
      else if isWeb scheme ∨ !endsPath c then pathOfText scheme (c :: text)
      else []
    | [] => if isWeb scheme then [""] else []
  return { scheme, credentials, host := some host, port, path := .steps path }

/-- The address that a text after the scheme of files denotes. -/
def readFileAddress (cs : List Char) : Except AddressError Address := do
  let slash := isSlash "file"
  let (host, text) ← match cs with
    | a :: b :: rest =>
      if slash a && slash b then
        let inHost (c : Char) : Bool := !(slash c || endsPath c)
        let name := rest.takeWhile inHost
        if isDrive name ∨ name.isEmpty then .ok (none, rest)
        else match ← Host.ofDomain name with
          | .name "localhost" => .ok (none, rest.dropWhile inHost)
          | host =>
            let text := rest.dropWhile inHost
            .ok (some host, if (text.head?.map slash).getD false then text.drop 1 else text)
      else .ok (none, if slash a then b :: rest else cs)
    | [a] => .ok (none, if slash a then [] else [a])
    | [] => .ok (none, [])
  let (path, drive) := filePath text
  return {
    scheme := "file"
    host := some (if drive then .name "" else host.getD (.name ""))
    path := .steps path }

/-- The scheme of a text, in small letters, and the text after its colon. -/
def scheme? (cs : List Char) : Option (String × List Char) :=
  let isInner (c : Char) : Bool := c.isAlphanum || c = '+' || c = '-' || c = '.'
  match cs with
  | c :: _ =>
    if c.isAlpha then
      match cs.dropWhile isInner with
      | ':' :: rest => some (String.ofList ((cs.takeWhile isInner).map Char.toLower), rest)
      | _ => none
    else none
  | [] => none

namespace Address

/-- The address that a text denotes. Blanks and control characters around it do not count, nor do
line ends and tabs inside. -/
def ofText (text : String) : Except AddressError Address := do
  let isOuter (c : Char) : Bool := c.toNat ≤ 0x20
  let outer := ((text.toList.dropWhile isOuter).reverse.dropWhile isOuter).reverse
  let cs := outer.filter fun c => c ≠ '\t' ∧ c ≠ '\n' ∧ c ≠ '\r'
  match scheme? cs with
  | none => .error .noScheme
  | some (scheme, rest) =>
    if scheme = "file" then readFileAddress rest
    else if isWeb scheme then readAuthority scheme (rest.dropWhile (isSlash scheme))
    else
      match rest with
      | '/' :: '/' :: rest => readAuthority scheme rest
      | '/' :: rest => return { scheme, path := .steps (pathOfText scheme rest) }
      | rest =>
        let text := escape [] (rest.takeWhile fun c => !endsPath c)
        return { scheme, path := .solid (String.ofList text) }

/-- The address of another name in the same place, if the address has a path of steps. -/
def sibling? (name : String) (a : Address) : Option Address :=
  match a.path with
  | .solid _ => none
  | .steps names =>
    let atDrive := a.scheme = "file" ∧
      (names.getLast?.map fun n => isDrive n.toList && n.endsWith ":").getD false
    some { a with path := .steps ((if atDrive then names else names.dropLast) ++ [name]) }

/-- The address without credentials, if these are text. -/
def anonymous (a : Address) : Address :=
  let isText (s : String) : Bool := (Text.decode? (unescape s.toList)).isSome
  match a.credentials with
  | some c =>
    if isText c.user ∧ (!c.user.isEmpty ∨ isText c.password) then { a with credentials := none }
    else a
  | none => a

/-- How credentials are written. -/
def credentialsText : Option Credentials → String
  | none => ""
  | some c => (if c.password.isEmpty then c.user else c.user ++ ":" ++ c.password) ++ "@"

/-- How an address is written. Without a host, a path whose first step is empty has a dot in front,
so that the step is not taken for a host. -/
def text (a : Address) : String :=
  let authority := match a.host with
    | none => ""
    | some host =>
      "//" ++ credentialsText a.credentials ++ host.text ++
        (match a.port with
          | some port => s!":{port}"
          | none => "")
  let path := match a.path with
    | .solid text => text
    | .steps names =>
      let dot := match a.host, names with
        | none, "" :: _ :: _ => "/."
        | _, _ => ""
      dot ++ String.join (names.map fun name => "/" ++ name)
  a.scheme ++ ":" ++ authority ++ path

end Address

end NetworkTuning.Web
