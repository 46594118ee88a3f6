/-!
# Request targets

What a request asks for: a path and a query, with a scheme and an authority in front when the target
is absolute.

* `Target.read` reads a target and says what is wrong with one that is none.
* `Target.text` writes it; a fragment is not kept.
-/

namespace GraphServe.Http

/-- What a request asks for. -/
structure Target where
  scheme?    : Option String := none
  authority? : Option String := none
  path       : String := "/"
  query?     : Option String := none
deriving DecidableEq, Inhabited, Repr

namespace Target

/-- What is wrong with a text that is no target. -/
inductive Fault where
  | empty
  | tooLong
  | schemeTooLong
  | character
  | authority
  | format
deriving DecidableEq, Repr

/-- The wording of a fault. -/
def Fault.message : Fault → String
  | .empty         => "empty string"
  | .tooLong       => "uri too long"
  | .schemeTooLong => "scheme too long"
  | .character     => "invalid uri character"
  | .authority     => "invalid authority"
  | .format        => "invalid format"

/-- A character that a path may hold as it is. -/
def isPathChar (c : Char) : Bool :=
  c.isAlphanum || 0x80 ≤ c.toNat || "!$%&'()*+,-./:;=@[\\]^_|~\"\x7b\x7d".toList.contains c

/-- A character that a query may hold as it is. -/
def isQueryChar (c : Char) : Bool := c == '?' || c == '`' || (c != '"' && isPathChar c)

/-- A character that an authority may hold. -/
def isAuthorityChar (c : Char) : Bool := c.isAlphanum || "!$&'()*+,-.:;=@[]_~".toList.contains c

/-- Whether a character ends an authority. -/
def endsAuthority (c : Char) : Bool := c == '/' || c == '?' || c == '#'

/-- A path and a query; what follows a `#` is dropped. -/
def readPath (origin : Target) (text : List Char) : Except Fault Target :=
  let text := text.takeWhile (· ≠ '#')
  let path := text.takeWhile (· ≠ '?')
  let query := text.drop path.length
  if !path.all isPathChar || !(query.drop 1).all isQueryChar then .error .character
  else
    .ok { origin with
      path := if path.isEmpty then "/" else String.ofList path
      query? := if query.isEmpty then none else some (String.ofList (query.drop 1)) }

/-- What of an authority was met so far. -/
structure Host where
  /-- The colons after the last `@` and bracket. -/
  colons  : Nat := 0
  opened  : Bool := false
  closed  : Bool := false
  /-- Something is escaped after the last `@` and bracket. -/
  escaped : Bool := false
  /-- The last character is an `@`. -/
  bare    : Bool := false

/-- How many colons may stand in a row of numbers. -/
def maxColons : Nat := 8

/-- Meet one more character of an authority.  Brackets stand once and enclose the host; what stands
before an `@` names a user and is forgotten. -/
def Host.next (h : Host) (c : Char) : Except Fault Host :=
  let h' := { h with bare := false }
  match c with
  | ':' =>
      if maxColons ≤ h.colons then .error .authority
      else .ok { h' with colons := h.colons + 1 }
  | '[' => if h.escaped || h.opened then .error .authority else .ok { h' with opened := true }
  | ']' =>
      if !h.opened || h.closed then .error .authority
      else .ok { h' with closed := true, colons := 0, escaped := false }
  | '@' => .ok { h with colons := 0, escaped := false, bare := true }
  | '%' => .ok { h' with escaped := true }
  | c   => if isAuthorityChar c then .ok h' else .error .character

/-- Whether an authority may end here: its brackets are closed, one colon at most stands before a
port, something follows an `@`, and no host is escaped. -/
def Host.isComplete (h : Host) : Bool :=
  h.opened == h.closed && h.colons ≤ 1 && !h.bare && !h.escaped

/-- The authority at the start of a text, with what follows it. -/
def readAuthority (text : List Char) : Except Fault (List Char × List Char) := do
  let authority := text.takeWhile (!endsAuthority ·)
  let host ← authority.foldlM Host.next {}
  if host.isComplete then return (authority, text.drop authority.length)
  else throw .authority

/-- The longest scheme. -/
def maxScheme : Nat := 64

/-- The scheme at the start of a text, with what follows `://`; the common ones are written in small
letters. -/
def readScheme? (text : List Char) : Except Fault (Option (String × List Char)) :=
  let isSchemeChar (c : Char) : Bool := c.isAlphanum || "+-.~".toList.contains c
  let scheme := text.takeWhile isSchemeChar
  match text.drop scheme.length with
  | ':' :: '/' :: '/' :: rest =>
      let small := String.ofList (scheme.map Char.toLower)
      if small = "http" ∨ small = "https" then .ok (some (small, rest))
      else if maxScheme < scheme.length then .error .schemeTooLong
      else .ok (some (String.ofList scheme, rest))
  | _                         => .ok none

/-- Reads a target. -/
def read (text : String) : Except Fault Target :=
  match text.toList with
  | []         => .error .empty
  | ['*']      => .ok { path := "*" }
  | '/' :: _   =>
      if 65534 < text.utf8ByteSize then .error .tooLong else readPath {} text.toList
  | all        =>
      if 65534 < text.utf8ByteSize then .error .tooLong
      else
        match readScheme? all with
        | .error fault => throw fault
        | .ok none => do
            let (authority, rest) ← readAuthority all
            if rest.isEmpty then
              return { authority? := some (String.ofList authority), path := "" }
            else throw (if all.length = 1 then .character else .format)
        | .ok (some (scheme, rest)) => do
            let (authority, rest) ← readAuthority rest
            if authority.isEmpty then throw .format
            readPath { scheme? := some scheme, authority? := some (String.ofList authority) } rest

/-- The text of a target. -/
def text (t : Target) : String :=
  ((t.scheme?.map (· ++ "://")).getD "") ++ t.authority?.getD "" ++ t.path
    ++ ((t.query?.map ("?" ++ ·)).getD "")

end Target

end GraphServe.Http
