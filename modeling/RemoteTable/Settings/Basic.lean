import RemoteTable.Settings.Document
import RemoteTable.Text.Blank
import RemoteTable.Url.Reader
import RemoteTable.Http

/-!
Connection settings: read from a document, checked, and turned into the endpoint of a client.
-/

namespace RemoteTable

/-- The settings of a client. -/
structure Settings where
  baseUrl : String
  token : Option String
  schema : String
  /-- How long a transport should wait for a response, in milliseconds. -/
  timeout : Option Nat
  deriving DecidableEq

/-- What can be wrong with settings. The reason that a reader of files, of documents or of addresses may
add after a colon is left out. -/
inductive SettingsError where
  | unreadable (path : String)
  | malformed
  | badUrl (url : String)
  | wrongScheme (url : String)
  | blankSchema
  | noTimeout
  deriving DecidableEq

def SettingsError.message : SettingsError → String
  | .unreadable path => "failed to read config file " ++ path
  | .malformed => "invalid config"
  | .badUrl url => "base_url '" ++ url ++ "' is not a valid URL"
  | .wrongScheme url => "base_url '" ++ url ++ "' must use http or https"
  | .blankSchema => "schema must not be empty"
  | .noTimeout => "timeout_ms must be greater than zero"

namespace Settings

/-- Settings that leave everything but the address to the defaults. -/
def ofUrl (baseUrl : String) : Settings := ⟨baseUrl, none, Endpoint.defaultSchema, none⟩

/-- Enters one setting; `none` if it is unknown or of another type. -/
def enter (s : Settings) (key : String) (v : Setting) : Option Settings :=
  match key, v with
  | "base_url", .text t => some { s with baseUrl := t }
  | "token", .text t => some { s with token := some t }
  | "schema", .text t => some { s with schema := t }
  | "timeout_ms", .number n =>
    if 0 ≤ n ∧ n < UInt64.size then some { s with timeout := some n.toNat } else none
  | _, _ => none

/-- The settings of a document, unchecked. -/
def ofDocument? (source : String) : Option Settings := do
  let d ← readDocument? source
  if d.contains "base_url" then
    d.toList.foldlM (fun s (k, v) => s.enter k v) (ofUrl "")
  else none

/-- The address that requests start from. -/
def url (s : Settings) : Except SettingsError Url :=
  match Url.read? s.baseUrl with
  | none => .error (.badUrl s.baseUrl)
  | some u =>
    if u.scheme = "http" ∨ u.scheme = "https" then .ok u
    else .error (.wrongScheme s.baseUrl)

/-- Checks the settings in the order of their fields. -/
def check (s : Settings) : Except SettingsError Unit := do
  let _ ← s.url
  if Text.trim s.schema = "" then .error .blankSchema
  else if s.timeout = some 0 then .error .noTimeout
  else .ok ()

/-- The checked settings of a document. -/
def parse (source : String) : Except SettingsError Settings :=
  match ofDocument? source with
  | none => .error .malformed
  | some s => do
    s.check
    .ok s

/-- The endpoint of valid settings. An empty token is no token. -/
def endpoint (s : Settings) : Except SettingsError Endpoint := do
  s.check
  let u ← s.url
  .ok ⟨u, s.token.filter (fun t => t != ""), Text.trim s.schema⟩

end Settings

end RemoteTable
