import FlowAudit.Text.Blank
import FlowAudit.Url.Basic

/-!
# Reading URLs

`Url.parse` reads an absolute URL as browsers do. Controls and blanks around it, and tabs and line
ends in it, do not count. Under special schemes a backslash is as good as a slash, and any number of
slashes may stand in front of the host. In a path `..` takes the segment before it away and `.` stands
for nothing; both may have their dots encoded.
-/

namespace FlowAudit.Url

/-! ### Splitting -/

/-- Whether a character at either end of the text does not count. -/
def isPadding (c : Char) : Bool :=
  c.toNat ≤ 0x20

/-- The characters of a text that count. -/
def significant (s : List Char) : List Char :=
  let trimmed := ((s.dropWhile isPadding).reverse.dropWhile isPadding).reverse
  trimmed.filter fun c => c ≠ '\t' && c ≠ '\n' && c ≠ '\r'

/-- Whether a character may stand in a scheme behind the first one. -/
def isSchemeChar (c : Char) : Bool :=
  c.isAlphanum || c = '+' || c = '-' || c = '.'

/-- The scheme in front of a colon, and what follows it. -/
def splitScheme? (s : List Char) : Option (String × List Char) := do
  let (scheme, rest) := s.span isSchemeChar
  if !(scheme.head?.any Char.isAlpha) then none
  return (String.ofList (scheme.map Char.toLower), ← Text.after? [':'] rest)

/-- The text in front of the first `mark`, and the text behind it if there is one. -/
def splitAtMark (mark : Char) (s : List Char) : List Char × Option (List Char) :=
  match Text.splitOnce? mark s with
  | some (front, back) => (front, some back)
  | none => (s, none)

/-- Whether a character separates the segments of a path. -/
def isSlash (special : Bool) (c : Char) : Bool :=
  c = '/' || (special && c = '\\')

/-- The parts of a text between slashes behind the unfinished part `pending`, which is in
reverse. -/
def segmentsFrom (special : Bool) (pending : List Char) : List Char → List (List Char)
  | [] => [pending.reverse]
  | c :: rest =>
    if isSlash special c then pending.reverse :: segmentsFrom special [] rest
    else segmentsFrom special (c :: pending) rest

/-! ### Paths -/

/-- A segment with its encoded dots as dots. -/
def decodeDots : List Char → List Char
  | '%' :: '2' :: 'e' :: rest => '.' :: decodeDots rest
  | '%' :: '2' :: 'E' :: rest => '.' :: decodeDots rest
  | c :: rest => c :: decodeDots rest
  | [] => []

/-- Whether a segment stands for no step. -/
def isSingleDot (s : List Char) : Bool :=
  decodeDots s = ['.']

/-- Whether a segment stands for a step back. -/
def isDoubleDot (s : List Char) : Bool :=
  decodeDots s = ['.', '.']

/-- Whether a segment is the letter of a drive. -/
def isDrive (s : List Char) : Bool :=
  match s with
  | [letter, mark] => letter.isAlpha && (mark = ':' || mark = '|')
  | _ => false

/-- The segments before the last one, in reverse; the letter of a drive is not taken away. -/
def stepBack (file : Bool) (done : List String) : List String :=
  match done with
  | [drive] => if file && isDrive drive.toList then done else []
  | _ => done.drop 1

/-- A segment that stands for itself; the first one of a file may be the letter of a drive. -/
def addSegment (file : Bool) (done : List String) (s : List Char) : List String :=
  let encoded := encode inPath s
  match encoded with
  | [letter, _] =>
    if file && done.isEmpty && isDrive encoded then [String.ofList [letter, ':']]
    else String.ofList encoded :: done
  | _ => String.ofList encoded :: done

/-- Resolves segments behind those that are done, which are in reverse. -/
def resolve (file : Bool) (done : List String) : List (List Char) → List String
  | [] => done.reverse
  | s :: rest =>
    let last := rest.isEmpty
    let done :=
      if isDoubleDot s then
        if last then "" :: stepBack file done else stepBack file done
      else if isSingleDot s then
        if last then "" :: done else done
      else
        addSegment file done s
    resolve file done rest

/-- Reads a path behind its first slash. Under `file` empty segments in front do not count. -/
def parseSegments (kind : SchemeKind) (s : List Char) : List String :=
  let segments := segmentsFrom (kind ≠ .other) [] s
  match kind with
  | .file =>
    let segments := resolve true [] segments
    match segments.dropWhile (· = "") with
    | [] => [""]
    | segments => segments
  | _ => resolve false [] segments

/-- Reads what follows an authority. -/
def parsePath (kind : SchemeKind) (s : List Char) : List String :=
  match s with
  | [] => if kind = .other then [] else [""]
  | c :: rest =>
    if isSlash (kind ≠ .other) c then parseSegments kind rest else parseSegments kind s

/-! ### Authorities -/

/-- The name and the password of a user; a password that is empty is none. -/
def parseUser (s : List Char) : String × Option String :=
  let (name, password) := splitAtMark ':' s
  let encoded := fun (t : List Char) => String.ofList (encode inUserInfo t)
  (encoded name, (password.filter (!·.isEmpty)).map encoded)

/-- The text in front of the last `@`, and the text behind it. -/
def splitUser? (s : List Char) : Option (List Char × List Char) :=
  (Text.splitOnce? '@' s.reverse).map fun p => (p.2.reverse, p.1.reverse)

/-- The text of a host, up to a colon outside of brackets, and what follows it. -/
def spanHost (inBrackets : Bool) : List Char → List Char × List Char
  | [] => ([], [])
  | c :: rest =>
    if c = ':' && !inBrackets then ([], c :: rest)
    else
      let inside := if c = '[' then true else if c = ']' then false else inBrackets
      let (host, rest) := spanHost inside rest
      (c :: host, rest)

/-- Reads a port behind its colon, and answers what follows: nothing, or a backslash and more. The
port of the scheme and a port without digits are none. -/
def parsePort (scheme : String) (s : List Char) : Except UrlError (Option Port × List Char) :=
  let (digits, rest) := s.span Char.isDigit
  let port := (Text.ofDigits? 10 digits).getD 0
  if port > Text.maxOfBits 16 then .error .invalidPort
  else if rest ≠ [] && rest.head? ≠ some '\\' then .error .invalidPort
  else
    let port := if digits.isEmpty then none else some (UInt16.ofNat port)
    .ok (if port = defaultPort? scheme then none else port, rest)

/-- Reads a host. -/
def parseHost (kind : SchemeKind) (s : List Char) : Except UrlError (Option Host) :=
  match kind with
  | .other => Host.parseOther s
  | _ => if s.isEmpty then .error .emptyHost else (Host.parseSpecial s).map some

/-- Reads an authority, and answers what of it belongs to the path. -/
def parseAuthority (scheme : String) (kind : SchemeKind) (s : List Char) (more : Bool) :
    Except UrlError (Authority × List Char) := do
  let (user, s) := match splitUser? s with
    | some (user, s) => (some user, s)
    | none => (none, s)
  -- an empty name needs a host behind it
  if user = some [] && s.isEmpty && more then .error .emptyHost
  else
    let (username, password) := parseUser (user.getD [])
    let (hostText, rest) := spanHost false s
    let host ← parseHost kind hostText
    if host.isNone && rest ≠ [] then .error .emptyHost
    else
      let (port, rest) ← match rest with
        | [] => pure (none, [])
        | _ :: digits => parsePort scheme digits
      if host.isNone && (username ≠ "" || password.isSome) then .error .emptyHost
      else .ok (⟨username, password, host, port⟩, rest)

/-- Reads the host of a file, which is none when it is this one. -/
def parseFileHost (s : List Char) : Except UrlError (Option Host) :=
  if s.isEmpty then .ok none
  else do
    let host ← Host.parseSpecial s
    return if host = .name "localhost" then none else some host

/-! ### URLs -/

/-- Reads what stands between the scheme and the query of a file. -/
def parseFile (s : List Char) : Except UrlError (Authority × List String) := do
  match s with
  | a :: b :: rest =>
    if isSlash true a && isSlash true b then
      let (hostText, path) := rest.span (!isSlash true ·)
      if isDrive hostText then .ok (⟨"", none, none, none⟩, parsePath .file rest)
      else
        let host ← parseFileHost hostText
        let path := parsePath .file path
        -- a drive is one of this host
        let host := if path.head?.any (isDrive ·.toList) then none else host
        .ok (⟨"", none, host, none⟩, path)
    else
      .ok (⟨"", none, none, none⟩, parsePath .file s)
  | _ => .ok (⟨"", none, none, none⟩, parsePath .file s)

/-- Reads what stands between the scheme and the query; `more` tells that there is a query or a
fragment. -/
def parseMain (scheme : String) (s : List Char) (more : Bool) :
    Except UrlError (Option Authority × Path) := do
  match SchemeKind.of scheme with
  | .file =>
    let (authority, path) ← parseFile s
    .ok (some authority, .segments path)
  | .special =>
    let (authorityText, path) := (s.dropWhile (isSlash true)).span (!isSlash true ·)
    let (authority, rest) ←
      parseAuthority scheme .special authorityText (more || !path.isEmpty)
    .ok (some authority, .segments (parsePath .special (rest ++ path)))
  | .other =>
    match s with
    | '/' :: '/' :: s =>
      let (authorityText, path) := s.span (· ≠ '/')
      let (authority, rest) ← parseAuthority scheme .other authorityText (more || !path.isEmpty)
      .ok (some authority, .segments (parsePath .other (rest ++ path)))
    | '/' :: s => .ok (none, .segments (parseSegments .other s))
    | _ => .ok (none, .plain (String.ofList (encode isControl s)))

/-- Reads a URL. -/
def parse (text : String) : Except UrlError Url := do
  match splitScheme? (significant text.toList) with
  | none => .error .relative
  | some (scheme, rest) =>
    let (front, fragment) := splitAtMark '#' rest
    let (main, query) := splitAtMark '?' front
    let (authority, path) ← parseMain scheme main (query.isSome || fragment.isSome)
    let special := SchemeKind.of scheme ≠ .other
    .ok {
      scheme
      authority
      path
      query := query.map fun q => String.ofList (encode (inQuery special) q)
      fragment := fragment.map fun f => String.ofList (encode inFragment f) }

end FlowAudit.Url
