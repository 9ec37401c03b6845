import RemoteTable.Dict
import RemoteTable.Text.Digits
import RemoteTable.Text.Hex

/-!
The document that settings are written in: one key with its value on a line, comments after a hash
sign. A value is a text in one of four kinds of quotes, or a whole number. What a document of this
kind may hold besides, tables and the values of other types, is no setting and is refused.
-/

namespace RemoteTable.Settings

open Text

/-- The value of a setting. -/
inductive Setting where
  | text (s : String)
  | number (n : Int)

def isTabOrSpace (c : Char) : Bool := c == ' ' || c == '\t'

def skipBlanks (s : List Char) : List Char := s.dropWhile isTabOrSpace

/-- A control character, which only an escape can bring into a text. -/
def isHidden (c : Char) : Bool := (decide (c.toNat < 32) && c != '\t') || c.toNat == 127

/-- Line breaks in their one-character form. -/
def unifyBreaks : List Char → List Char
  | [] => []
  | '\r' :: '\n' :: r => '\n' :: unifyBreaks r
  | c :: r => c :: unifyBreaks r

/-- Takes off what may stand at the end of a line, and the line break. -/
def endLine? (s : List Char) : Option (List Char) :=
  let afterComment (s : List Char) : Option (List Char) :=
    match s with
    | [] => some []
    | '\n' :: r => some r
    | _ => none
  match skipBlanks s with
  | '#' :: r =>
    let comment := r.takeWhile (· != '\n')
    if comment.any isHidden then none else afterComment (r.dropWhile (· != '\n'))
  | r => afterComment r

/-- The character of a hexadecimal code; surrogates have none. -/
def charOfCode? (ds : List Char) : Option Char := do
  let n ← ds.foldlM (fun n c => (hexDigit? c).map (fun d => n * 16 + d.val)) 0
  if n < 0xd800 ∨ (0xe000 ≤ n ∧ n < 0x110000) then some (Char.ofNat n) else none

/-- The character of an escape after its backslash, and what follows. -/
def readEscape? : List Char → Option (Char × List Char)
  | 'b' :: r => some (Char.ofNat 8, r)
  | 't' :: r => some ('\t', r)
  | 'n' :: r => some ('\n', r)
  | 'f' :: r => some (Char.ofNat 12, r)
  | 'r' :: r => some ('\r', r)
  | 'e' :: r => some (Char.ofNat 27, r)
  | '"' :: r => some ('"', r)
  | '\\' :: r => some ('\\', r)
  | 'x' :: r => if r.length < 2 then none else (charOfCode? (r.take 2)).map (·, r.drop 2)
  | 'u' :: r => if r.length < 4 then none else (charOfCode? (r.take 4)).map (·, r.drop 4)
  | 'U' :: r => if r.length < 8 then none else (charOfCode? (r.take 8)).map (·, r.drop 8)
  | _ => none

/-- What follows a backslash at the end of a line: the text goes on at its next character. -/
def continueLine? (s : List Char) : Option (List Char) :=
  match skipBlanks s with
  | '\n' :: r => some (r.dropWhile (fun c => isTabOrSpace c || c == '\n'))
  | _ => none

/-- The quotes at the start of a text. -/
def quoteRun (quote : Char) (s : List Char) : Nat := (s.takeWhile (· == quote)).length

/-- Reads a text on one line up to its closing quote. Every step takes a character off the text. -/
def readLine? (quote : Char) : Nat → List Char → Option (List Char × List Char)
  | 0, _ => none
  | _, [] => none
  | fuel + 1, c :: r =>
    if c = quote then some ([], r)
    else if c = '\\' ∧ quote = '"' then do
      let (e, r) ← readEscape? r
      let (cs, rest) ← readLine? quote fuel r
      some (e :: cs, rest)
    else if isHidden c then none
    else do
      let (cs, rest) ← readLine? quote fuel r
      some (c :: cs, rest)

/-- Reads a text over several lines up to three closing quotes; up to two more before them belong
to the text. -/
def readLines? (quote : Char) : Nat → List Char → Option (List Char × List Char)
  | 0, _ => none
  | _, [] => none
  | fuel + 1, c :: r =>
    if c = quote then
      let n := quoteRun quote (c :: r)
      if 3 ≤ n then
        if n ≤ 5 then some (List.replicate (n - 3) quote, (c :: r).drop n) else none
      else do
        let (cs, rest) ← readLines? quote fuel r
        some (c :: cs, rest)
    else if c = '\\' ∧ quote = '"' then
      match continueLine? r with
      | some r => readLines? quote fuel r
      | none => do
        let (e, r) ← readEscape? r
        let (cs, rest) ← readLines? quote fuel r
        some (e :: cs, rest)
    else if isHidden c ∧ c ≠ '\n' then none
    else do
      let (cs, rest) ← readLines? quote fuel r
      some (c :: cs, rest)

/-- Reads a text in any kind of quotes. -/
def readText? (s : List Char) : Option (String × List Char) := do
  let body (quote : Char) (r : List Char) : Option (List Char × List Char) :=
    if 2 ≤ quoteRun quote r then
      match r.drop 2 with
      | '\n' :: r => readLines? quote (r.length + 1) r
      | r => readLines? quote (r.length + 1) r
    else readLine? quote (r.length + 1) r
  let (cs, rest) ←
    match s with
    | '"' :: r => body '"' r
    | '\'' :: r => body '\'' r
    | _ => none
  some (String.ofList cs, rest)

/-- Digits of a base, with single underscores between them. -/
def readDigits? (base : Nat) (s : List Char) : Option Nat :=
  let rec go (after : Bool) (n : Nat) : List Char → Option Nat
    | [] => if after then some n else none
    | '_' :: r => if after then go false n r else none
    | c :: r => do
      let d ← hexDigit? c
      if d.val < base then go true (n * base + d.val) r else none
  go false 0 s

/-- Reads a whole number: decimal with or without a sign, or in another base after its mark. -/
def readNumber? (s : List Char) : Option Int :=
  let decimal (s : List Char) : Option Nat :=
    match s with
    | '0' :: _ :: _ => none
    | s => readDigits? 10 s
  match s with
  | '0' :: 'x' :: r => (readDigits? 16 r).map Int.ofNat
  | '0' :: 'o' :: r => (readDigits? 8 r).map Int.ofNat
  | '0' :: 'b' :: r => (readDigits? 2 r).map Int.ofNat
  | '+' :: r => (decimal r).map Int.ofNat
  | '-' :: r => (decimal r).map (fun n => -(n : Int))
  | r => (decimal r).map Int.ofNat

def isBareKeyChar (c : Char) : Bool := c.isAlphanum || c == '_' || c == '-'

/-- Reads a key, bare or in quotes on one line. -/
def readKey? (s : List Char) : Option (String × List Char) :=
  match s with
  | '"' :: r => (readLine? '"' (r.length + 1) r).map (fun (k, r) => (String.ofList k, r))
  | '\'' :: r => (readLine? '\'' (r.length + 1) r).map (fun (k, r) => (String.ofList k, r))
  | s =>
    match s.takeWhile isBareKeyChar with
    | [] => none
    | k => some (String.ofList k, s.dropWhile isBareKeyChar)

/-- Reads a value. -/
def readSetting? (s : List Char) : Option (Setting × List Char) :=
  match s with
  | '"' :: _ => (readText? s).map (fun (t, r) => (.text t, r))
  | '\'' :: _ => (readText? s).map (fun (t, r) => (.text t, r))
  | s =>
    let isPart (c : Char) : Bool := c.isAlphanum || c == '_' || c == '+' || c == '-' || c == '.'
    (readNumber? (s.takeWhile isPart)).map (fun n => (.number n, s.dropWhile isPart))

/-- Reads the lines of a document. Every step takes a line off the text. -/
def readSettings? : Nat → List Char → Dict Setting → Option (Dict Setting)
  | 0, _, d => some d
  | _, [], d => some d
  | fuel + 1, s, d =>
    match endLine? s with
    | some r => readSettings? fuel r d
    | none => do
      let (key, r) ← readKey? (skipBlanks s)
      match skipBlanks r with
      | '=' :: r => do
        let (value, r) ← readSetting? (skipBlanks r)
        let r ← endLine? r
        if d.contains key then none else readSettings? fuel r (d.insert key value)
      | _ => none

/-- The settings of a document, which may start with a byte-order mark. -/
def readDocument? (s : String) : Option (Dict Setting) :=
  let cs := unifyBreaks s.toList
  let cs :=
    match cs with
    | c :: r => if c = Char.ofNat 0xfeff then r else c :: r
    | [] => []
  readSettings? (cs.length + 1) cs .empty

end RemoteTable.Settings
