import FlowAudit.Net.Endpoint
import FlowAudit.Url.Host

/-!
# URLs

A `Url` is an absolute URL in its normal form: the scheme and the host in lower case, characters
encoded that have to be, `.` and `..` resolved, and the port left out when it is that of the scheme.
`Url.render` writes it.
-/

namespace FlowAudit

/-- Who is addressed where; `host` is absent when nothing stands in its place. -/
structure Url.Authority where
  username : String := ""
  password : Option String := none
  host : Option Url.Host
  /-- The port, unless it is that of the scheme. -/
  port : Option Port := none
  deriving DecidableEq, Repr, Inhabited

/-- What follows the authority of a URL. -/
inductive Url.Path where
  /-- A text without inner structure, for a URL without authority whose path does not start with a
  slash. -/
  | plain (text : String)
  /-- Segments, each behind a slash. -/
  | segments (names : List String)
  deriving DecidableEq, Repr, Inhabited

/-- An absolute URL. Texts are encoded. -/
structure Url where
  scheme : String
  /-- What stands behind two slashes. -/
  authority : Option Url.Authority
  path : Url.Path
  query : Option String
  fragment : Option String
  deriving DecidableEq, Repr, Inhabited

namespace Url

/-! ### Schemes -/

/-- The kinds of scheme, which are read differently. -/
inductive SchemeKind where
  /-- A scheme whose URLs name a host. -/
  | special
  | file
  | other
  deriving DecidableEq, Repr, Inhabited

/-- The kind of a scheme. -/
def SchemeKind.of (scheme : String) : SchemeKind :=
  if ["http", "https", "ws", "wss", "ftp"].contains scheme then .special
  else if scheme = "file" then .file
  else .other

/-- The port of a scheme. -/
def defaultPort? (scheme : String) : Option Port :=
  if scheme = "http" || scheme = "ws" then some 80
  else if scheme = "https" || scheme = "wss" then some 443
  else if scheme = "ftp" then some 21
  else none

/-- Whether a scheme is one of web servers. -/
def isWeb (u : Url) : Bool :=
  u.scheme = "http" || u.scheme = "https"

/-! ### Parts -/

/-- The host. -/
def host? (u : Url) : Option Host :=
  u.authority.bind (·.host)

/-- The port, which is that of the scheme if none is written. -/
def port? (u : Url) : Option Port :=
  match u.authority.bind (·.port) with
  | some port => some port
  | none => defaultPort? u.scheme

/-- The URL without the name and the password of a user. -/
def withoutUser (u : Url) : Url :=
  { u with authority := u.authority.map fun a => { a with username := "", password := none } }

/-! ### Writing -/

/-- The name and the password of the user, in front of `@`. -/
def Authority.renderUser (a : Authority) : String :=
  match a.password with
  | some password => a.username ++ ":" ++ password ++ "@"
  | none => if a.username = "" then "" else a.username ++ "@"

/-- The text of an authority behind its slashes. -/
def Authority.render (a : Authority) : String :=
  let host := match a.host with
    | some host => host.render
    | none => ""
  let port := match a.port with
    | some port => ":" ++ toString port.toNat
    | none => ""
  a.renderUser ++ host ++ port

/-- The text of a path. -/
def Path.render : Path → String
  | .plain text => text
  | .segments names => String.join (names.map fun s => "/" ++ s)

/-- The text of what stands in front of the path: without authority, a start that keeps the path from
being taken for one. -/
def renderAuthority (u : Url) : String :=
  match u.authority with
  | some a => "//" ++ a.render
  | none =>
    match u.path with
    | .segments ("" :: _ :: _) => "/."
    | _ => ""

/-- The text of a part behind its mark. -/
def renderPart (mark : String) : Option String → String
  | some text => mark ++ text
  | none => ""

/-- The text of a URL. -/
def render (u : Url) : String :=
  u.scheme ++ ":" ++ u.renderAuthority ++ u.path.render ++ renderPart "?" u.query ++
    renderPart "#" u.fragment

end Url

end FlowAudit
