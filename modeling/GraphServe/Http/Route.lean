/-!
# Routes

A route is a pattern for the paths that a router answers.  Its text stands for itself; `{name}`
stands for what comes up to the next slash, and `{*name}` for all that remains.  A brace that is
written twice stands for itself.

* `Route.read` reads a pattern.
* `Route.fits` tells the paths that a route answers.
-/

namespace GraphServe.Http

/-- A part of a route. -/
inductive RoutePart where
  | char (c : Char)
  | segment
  | remainder
deriving DecidableEq, Repr

/-- A pattern for paths. -/
abbrev Route := List RoutePart

namespace Route

/-- Reads what is left of a pattern; `inside` tells that the name of a part is being passed. -/
def ofChars : (inside : Bool) → List Char → Route
  | _,     []                        => []
  | true,  c :: rest                 => ofChars (c ≠ '\x7d') rest
  | false, '\x7b' :: '\x7b' :: rest  => .char '\x7b' :: ofChars false rest
  | false, '\x7d' :: '\x7d' :: rest  => .char '\x7d' :: ofChars false rest
  | false, '\x7b' :: '*' :: rest     => .remainder :: ofChars true rest
  | false, '\x7b' :: rest            => .segment :: ofChars true rest
  | false, c :: rest                 => .char c :: ofChars false rest

/-- Reads a pattern. -/
def read (pattern : String) : Route := ofChars false pattern.toList

/-- Whether a route answers a path.  The last segment is not empty, and neither is what remains; a
segment that others follow may be. -/
def fits : Route → List Char → Bool
  | [],                path      => path.isEmpty
  | .char c :: rest,   d :: path => c == d && fits rest path
  | .char _ :: _,      []        => false
  | .segment :: rest,  path      =>
      let name := path.takeWhile (· ≠ '/')
      if rest.isEmpty then !path.isEmpty && name.length == path.length
      else fits rest (path.drop name.length)
  | .remainder :: _,   path      => !path.isEmpty

end Route

end GraphServe.Http
