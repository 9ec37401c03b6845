import RemoteTable.Url.Basic

/-!
Reading addresses. Blanks and controls around an address and line breaks inside it are dropped,
scheme and host are put into lower case, a default `portNumber` disappears, and the segments that
stand for the current and the next higher level are resolved.
-/

namespace RemoteTable.Url

open Text

/-- Splits a text before the first character of a class. -/
def cut (p : Char → Bool) (s : List Char) : List Char × List Char :=
  (s.takeWhile (fun c => !p c), s.dropWhile (fun c => !p c))

/-- Splits a text at the first occurrence of a mark, which is left out. -/
def cutMark (mark : Char) (s : List Char) : List Char × Option (List Char) :=
  match cut (· == mark) s with
  | (a, []) => (a, none)
  | (a, _ :: b) => (a, some b)

/-- Splits a text at the last occurrence of a mark, which is left out. -/
def cutLastMark (mark : Char) (s : List Char) : Option (List Char) × List Char :=
  match cutMark mark s.reverse with
  | (a, none) => (none, a.reverse)
  | (a, some b) => (some b.reverse, a.reverse)

/-- Takes the scheme off. -/
def readScheme? (s : List Char) : Option (String × List Char) :=
  match cutMark ':' s with
  | (c :: r, some rest) =>
    if c.isAlpha ∧ r.all (fun c => c.isAlphanum || ['+', '-', '.'].contains c) then
      some (String.ofList ((c :: r).map Char.toLower), rest)
    else none
  | _ => none

/-- A double dot, in any of its escaped forms. -/
def isDoubleDot (s : List Char) : Bool :=
  let s := s.map Char.toLower
  ["..", ".%2e", "%2e.", "%2e%2e"].any (fun d => d.toList == s)

/-- A single dot, in any of its escaped forms. -/
def isSingleDot (s : List Char) : Bool :=
  let s := s.map Char.toLower
  [".", "%2e"].any (fun d => d.toList == s)

/-- A letter with a colon, or with a bar if `loose`. -/
def isDrive (loose : Bool) (s : List Char) : Bool :=
  match s with
  | [a, b] => a.isAlpha && (b == ':' || (loose && b == '|'))
  | _ => false

/-- Goes up one level; the drive of a file stays. -/
def goUp (file : Bool) (path : List String) : List String :=
  match path with
  | [s] => if file ∧ isDrive false s.toList then [s] else []
  | l => l.dropLast

/-- Resolves the segments of a path, the last of which keeps a slash before it. -/
def resolve (file : Bool) (path : List String) : List (List Char) → List String
  | [] => path
  | s :: r =>
    let last := r.isEmpty
    if isDoubleDot s then
      resolve file (goUp file path ++ (if last then [""] else [])) r
    else if isSingleDot s then resolve file (path ++ (if last then [""] else [])) r
    else
      let s := if file ∧ path = [] ∧ isDrive true s then s.take 1 ++ [':'] else s
      resolve file (path ++ [String.ofList (escape isPathEscaped s)]) r

def isSeparator (special : Bool) (c : Char) : Bool := c == '/' || (special && c == '\\')

/-- Splits a text at every character of a class. -/
def splitBy (p : Char → Bool) : List Char → List (List Char)
  | [] => [[]]
  | c :: r =>
    match splitBy p r with
    | [] => [[]]
    | s :: rest => if p c then [] :: s :: rest else (c :: s) :: rest

/-- Reads a path that starts with a separator or is empty. -/
def readPath (scheme : String) (s : List Char) : List String :=
  let special := isSpecialScheme scheme
  match s with
  | [] => if special then [""] else []
  | c :: r =>
    let r := if isSeparator special c then r else c :: r
    resolve (scheme == "file") [] (splitBy (isSeparator special) r)

/-- Splits off what follows the first colon outside brackets. -/
def cutPort (s : List Char) : List Char × Option (List Char) :=
  match s with
  | '[' :: _ =>
    let (a, b) := cut (· == ']') s
    match b with
    | [] => (s, none)
    | e :: r =>
      match cutMark ':' r with
      | (c, number) => (a ++ e :: c, number)
  | s => cutMark ':' s

/-- The `portNumber` of some digits, or none if it is the default of the scheme. -/
def readPort? (scheme : String) (s : List Char) : Option (Option Nat) :=
  if s = [] then some none
  else do
    let n ← natural? s
    if 65535 < n then none else some (if defaultPort? scheme = some n then none else some n)

/-- Reads user name, password, host and `portNumber`. -/
def readAuthority? (scheme : String) (s : List Char) :
    Option (String × String × Host × Option Nat) := do
  let (login, r) := cutLastMark '@' s
  let (username, password) := cutMark ':' (login.getD [])
  let (h, digits) := cutPort r
  if h = [] ∧ (login.isSome ∨ digits.isSome ∨ isSpecialScheme scheme) then none
  else
    let host ← Host.read? (isSpecialScheme scheme) h
    let number ← readPort? scheme (digits.getD [])
    let encode (s : List Char) := String.ofList (escape isUserinfoEscaped s)
    some (encode username, encode (password.getD []), host, number)

/-- Reads what follows the scheme `file`: host and path. -/
def readFile? (s : List Char) : Option (Host × List String) :=
  let local? (s : List Char) : Option (Host × List String) := some (.name "", readPath "file" s)
  match s with
  | a :: b :: r =>
    if isSeparator true a ∧ isSeparator true b then
      let (h, path) := cut (isSeparator true) r
      if isDrive true h then local? r
      else if h = [] then local? path
      else do
        let host ← Host.read? true h
        some (if host = .name "localhost" then .name "" else host, readPath "file" path)
    else local? s
  | s => local? s

/-- Reads an address that stands by itself. -/
def read? (s : String) : Option Url := do
  let isEdge (c : Char) : Bool := decide (c.toNat ≤ 32)
  let trimmed := ((s.toList.dropWhile isEdge).reverse.dropWhile isEdge).reverse
  let (scheme, r) ← readScheme? (trimmed.filter (fun c => !isDropped c))
  let special := isSpecialScheme scheme
  let (r, fragment) := cutMark '#' r
  let (r, query) := cutMark '?' r
  let query := query.map (fun q => String.ofList (escape (isQueryEscaped special) q))
  let fragment := fragment.map (fun f => String.ofList (escape isFragmentEscaped f))
  if scheme = "file" then
    let (host, path) ← readFile? r
    some ⟨scheme, "", "", some host, none, .segments path, query, fragment⟩
  else if special then
    let (authority, path) := cut (isSeparator true) (r.dropWhile (isSeparator true))
    let (username, password, host, number) ← readAuthority? scheme authority
    some ⟨scheme, username, password, some host, number, .segments (readPath scheme path), query,
      fragment⟩
  else
    match r with
    | '/' :: '/' :: r =>
      let (authority, path) := cut (· == '/') r
      let (username, password, host, number) ← readAuthority? scheme authority
      some ⟨scheme, username, password, some host, number, .segments (readPath scheme path), query,
        fragment⟩
    | '/' :: _ =>
      some ⟨scheme, "", "", none, none, .segments (readPath scheme r), query, fragment⟩
    | r => some ⟨scheme, "", "", none, none, .bare (String.ofList (escape isControl r)), query,
        fragment⟩

end RemoteTable.Url
