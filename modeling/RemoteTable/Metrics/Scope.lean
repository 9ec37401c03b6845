import RemoteTable.Metrics.Counters

/-!
Where events go. Inside a scope they go to its sink, elsewhere to the counters; when a scope is
left, in whatever way, the sink from before it is in force again.
-/

namespace RemoteTable

/-- A program as far as its events are concerned. Sinks are known by numbers. -/
inductive Recording where
  | record (e : Event)
  | seq (first second : Recording)
  /-- Runs the body with its events going to a sink. -/
  | scope (sink : Nat) (body : Recording)
  /-- Leaves everything up to the next rescue. -/
  | abort
  /-- Runs the body and goes on after it, even if it aborts. -/
  | rescue (body : Recording)

/-- The sink in force, and the events delivered so far with the sinks they went to. -/
structure Delivered where
  sink : Option Nat
  events : List (Option Nat × Event)

namespace Recording

/-- Runs a program; the truth value tells whether it came to its end. -/
def run : Recording → Delivered → Delivered × Bool
  | .record e, d => ({ d with events := d.events ++ [(d.sink, e)] }, true)
  | .seq a b, d =>
    match run a d with
    | (d, true) => run b d
    | (d, false) => (d, false)
  | .scope sink body, d =>
    let (inner, finished) := run body { d with sink := some sink }
    ({ inner with sink := d.sink }, finished)
  | .abort, d => (d, false)
  | .rescue body, d => ((run body d).1, true)

end Recording

end RemoteTable
