import RemoteTable.Url.Host

/-!
Addresses in parts, their text, and the address of a table below a base address.
-/

namespace RemoteTable

/-- What follows the authority: segments with slashes before them, or text without structure. -/
inductive UrlPath where
  | segments (l : List String)
  | bare (s : String)
  deriving DecidableEq

/-- An address. All parts are in escaped form. -/
structure Url where
  scheme : String
  username : String
  password : String
  host : Option Host
  portNumber : Option Nat
  path : UrlPath
  query : Option String
  fragment : Option String
  deriving DecidableEq

namespace Url

/-- The `portNumber` of a scheme; the schemes that have one, and `file`, are special. -/
def defaultPort? (scheme : String) : Option Nat :=
  if scheme = "http" ∨ scheme = "ws" then some 80
  else if scheme = "https" ∨ scheme = "wss" then some 443
  else if scheme = "ftp" then some 21
  else none

def isSpecialScheme (scheme : String) : Bool := (defaultPort? scheme).isSome || scheme == "file"

def isSpecial (u : Url) : Bool := isSpecialScheme u.scheme

/-- The text of the path. -/
def pathText (u : Url) : String :=
  match u.path with
  | .segments l => String.join (l.map ("/" ++ ·))
  | .bare s => s

def authorityText (u : Url) (h : Host) : String :=
  let login :=
    if u.username = "" ∧ u.password = "" then ""
    else u.username ++ (if u.password = "" then "" else ":" ++ u.password) ++ "@"
  let suffix :=
    match u.portNumber with
    | some n => ":" ++ String.ofList (Text.digits n)
    | none => ""
  "//" ++ login ++ String.ofList h.text ++ suffix

/-- The text of an address. A path that would read as an authority has a dot before it. -/
def text (u : Url) : String :=
  let front :=
    match u.host, u.path with
    | some h, _ => authorityText u h
    | none, .segments ("" :: _ :: _) => "/."
    | none, _ => ""
  let query :=
    match u.query with
    | some q => "?" ++ q
    | none => ""
  let fragment :=
    match u.fragment with
    | some f => "#" ++ f
    | none => ""
  u.scheme ++ ":" ++ front ++ pathText u ++ query ++ fragment

/-- The characters that are dropped wherever they stand in an address. -/
def isDropped (c : Char) : Bool := c == '\t' || c == '\n' || c == '\r'

/-- Segments without one empty segment at the end, unless it is the only one. -/
def dropEmptyLast (l : List String) : List String :=
  if 1 < l.length ∧ l.getLast? = some "" then l.dropLast else l

/-- Segments with a name as one more segment. An empty path is replaced by it, and the names of the
current and the next higher level add nothing. -/
def addSegment (special : Bool) (l : List String) (name : String) : List String :=
  if name = "." ∨ name = ".." then l
  else
    let kept := name.toList.filter (fun c => !isDropped c)
    let front := if l = [""] then [] else l
    if kept = ['.'] then front ++ [""]
    else if kept = ['.', '.'] then front.dropLast ++ [""]
    else front ++ [String.ofList (escape (isSegmentEscaped special) kept)]

/-- The path of a file has no empty segments at its start. -/
def trimFilePath (l : List String) : List String :=
  match l.dropWhile (· == "") with
  | [] => [""]
  | r => r

/-- The address of a table below a base address, with the given pairs as its query; `none` if the
base has no segments. -/
def ofTable? (base : Url) (table : String) (pairs : List (String × String)) : Option Url :=
  match base.path with
  | .bare _ => none
  | .segments l =>
    let path := addSegment base.isSpecial (dropEmptyLast l) table
    let path := if base.scheme = "file" then trimFilePath path else path
    some { base with
      path := .segments path
      query := if pairs = [] then none else some (String.ofList (formPairs pairs)) }

end Url

end RemoteTable
