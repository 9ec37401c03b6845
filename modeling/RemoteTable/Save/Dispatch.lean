import RemoteTable.Change.Plan
import RemoteTable.Row.Basic
import RemoteTable.Save.Repoint
import RemoteTable.Save.Write
import RemoteTable.Text.Blank

/-!
Saving a batch. The batch is planned and checked as a whole; then its requests are sent one after
another, and the first failure ends the run. What has been sent is not taken back. A run can be
abandoned while it waits for an outcome.
-/

namespace RemoteTable

/-- What a saved batch came to: requests that succeeded, and deletes that were left to the store. -/
structure Summary where
  dispatched : Nat
  elided : Nat
  deriving DecidableEq

/-- What saving needs besides the batch. -/
structure Session (σ : Type) where
  schema : Schema
  endpoint : Endpoint
  transport : Transport σ
  /-- Whether the entries take over the keys that the store assigns to their principals. -/
  repoints : Bool

/-- How a run ended. -/
inductive Ending where
  | done (s : Summary)
  | failed (f : Fault)
  | abandoned

/-- A run of `n` entries: how it ended, the entries after it, what was seen of it, and the state of
the transport. -/
structure SaveRun (σ : Type) (n : Nat) where
  ending : Ending
  entries : Vector Entry n
  log : Log
  state : σ

namespace Save

/-- The first row that a response holds, if it holds any. -/
def firstRow (r : Response) : Except Fault (Option JsonMembers) :=
  if r.body.toList.all Text.isAsciiBlank then .ok none
  else
    match Row.objectsOf r.body with
    | .ok rows => .ok rows.head?
    | .error e => .error (.badBody .mutation e)

/-- The assigned values that a row holds, up to the first that cannot be read. -/
def readGenerated (m : Entity) (o : JsonMembers) : List Field → List (String × Value) × Option Fault
  | [] => ([], none)
  | f :: r =>
    match Row.memberFor o f with
    | none => readGenerated m o r
    | some j =>
      match Value.ofJson f.kind j with
      | .error e => ([], some (.badField .mutation m.name f.name e))
      | .ok v =>
        let (values, fault) := readGenerated m o r
        ((f.name, v) :: values, fault)

/-- What a successful response has to say about the entry that was written. -/
def assignedValues (m : Entity) (w : Write) (r : Response) : List (String × Value) × Option Fault :=
  if w = .delete then ([], none)
  else
    match firstRow r with
    | .error f => ([], some f)
    | .ok none => ([], none)
    | .ok (some o) => readGenerated m o m.generatedFields

def acceptAll (e : Entry) (values : List (String × Value)) : Entry :=
  values.foldl (fun e (p, v) => e.accept p v) e

/-- A request that is on its way. -/
structure InFlight where
  model : Entity
  write : Write
  request : Request

variable {σ : Type} {n : Nat}

/-- The model of an entry. -/
def modelOf (s : Schema) (e : Entry) : Except Fault Entity :=
  match s.get? e.entity with
  | some m => .ok m
  | none => .error (.unregistered .mutation e.entity)

/-- The request of an entry as it is now: earlier inserts may have repointed it. -/
def launch (d : Session σ) (e : Entry) : Except Fault InFlight := do
  let m ← modelOf d.schema e
  let w ← m.writeOf e
  let r ← m.request e d.endpoint
  .ok ⟨m, w, r⟩

/-- What is seen when a request is sent. -/
def InFlight.opening (f : InFlight) : Log :=
  [.event (.start f.write.operation f.model.table), .sent f.request]

/-- What is seen when a request is over, with the number of rows that it wrote. -/
def InFlight.closing (f : InFlight) (rows : Nat) : Log :=
  [.event (.finish f.write.operation f.model.table rows)]

/-- Passes the key of an inserted row on to the entries that are still to be sent. -/
def passOn (d : Session σ) (f : InFlight) (before after : Entry) (entries : Vector Entry n)
    (pending : List (Fin n)) : Vector Entry n × Log :=
  let a : Repoint.Assignment := ⟨Repoint.keyValues f.model before, Repoint.keyValues f.model after⟩
  if d.repoints && f.write == .insert && a.matters then
    Repoint.run d.schema f.model a entries pending
  else (entries, [])

/-- Puts something seen before a run. -/
def SaveRun.after (log : Log) (r : SaveRun σ n) : SaveRun σ n := { r with log := log ++ r.log }

/-- Sends the entries at the given positions, waiting for at most `patience` outcomes if it is
given. -/
def sendAll (d : Session σ) (summary : Summary) :
    List (Fin n) → Option Nat → Vector Entry n → σ → SaveRun σ n
  | [], _, entries, s => ⟨.done summary, entries, [], s⟩
  | i :: pending, patience, entries, s =>
    match launch d (entries.get i) with
    | .error f => ⟨.failed f, entries, [], s⟩
    | .ok flight =>
      if patience = some 0 then
        ⟨.abandoned, entries, flight.opening ++ flight.closing 0, s⟩
      else
        let (outcome, s) := d.transport.send s flight.request
        match readOutcome flight.write.operation flight.model.table outcome with
        | .error (event, f) =>
          ⟨.failed f, entries, flight.opening ++ .event event :: flight.closing 0, s⟩
        | .ok response =>
          let (values, fault) := assignedValues flight.model flight.write response
          let before := entries.get i
          let after := acceptAll before values
          let entries := entries.set i after i.isLt
          let log := flight.opening ++ values.map (fun (p, v) => .generated i p v) ++
            flight.closing 1
          match fault with
          | some f => ⟨.failed f, entries, log, s⟩
          | none =>
            let (entries, repointed) := passOn d flight before after entries pending
            SaveRun.after (log ++ repointed)
              (sendAll d summary pending (patience.map (· - 1)) entries s)

/-- The plan of a batch, every entry of which can be sent; and what is seen of the planning. -/
def plan (d : Session σ) (entries : Vector Entry n) : Log × Except Fault (Plan n) :=
  match Plan.ofBatch d.schema entries with
  | .error f => ([], .error f)
  | .ok p =>
    let check (i : Fin n) : Except Fault Unit := do
      let m ← modelOf d.schema (entries.get i)
      let _ ← m.writeOf (entries.get i)
      .ok ()
    ((Plan.events d.schema entries p).map Notice.event, do
      p.order.forM check
      .ok p)

/-- Saves a batch. A run that is started waits for at most `patience` outcomes, if it is given. -/
def start (d : Session σ) (patience : Option Nat) (entries : Vector Entry n) (s : σ) :
    SaveRun σ n :=
  match plan d entries with
  | (log, .error f) => ⟨.failed f, entries, log, s⟩
  | (log, .ok p) =>
    SaveRun.after log
      (sendAll d ⟨p.order.length, p.elided.length⟩ p.order patience entries s)

/-- Saves a batch, waiting for every outcome. -/
def saveAll (d : Session σ) (entries : Vector Entry n) (s : σ) : SaveRun σ n :=
  start d none entries s

/-- Saves a batch, advancing the run at most `polls` times. Each advance but the first takes one
outcome, and a run that is never advanced does nothing. -/
def savePolled (d : Session σ) (polls : Nat) (entries : Vector Entry n) (s : σ) :
    SaveRun σ n :=
  match polls with
  | 0 => ⟨.abandoned, entries, [], s⟩
  | polls + 1 => start d (some polls) entries s

end Save

end RemoteTable
