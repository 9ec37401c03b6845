import Mathlib
import RemoteTable.Metrics.Scope

/-!
Scopes nest. What a program does is a sequence of marks: events, and scopes that are entered and
left, be it by an abort that a rescue further out ends. Every event goes to the scope that is open
and was entered last, or to the counters if none is open, and leaving a scope opens no other one than
those that were open when it was entered.
-/

namespace RemoteTable

/-- One thing that a program does. -/
inductive Mark where
  | recorded (e : Event)
  | entered (sink : Nat)
  | left
  deriving DecidableEq

namespace Mark

def event? : Mark → Option Event
  | recorded e => some e
  | _ => none

/-- The open scopes after one more mark, the innermost one first. -/
def scopes (outer : List Nat) : Mark → List Nat
  | recorded _ => outer
  | entered sink => sink :: outer
  | left => outer.tail

/-- The open scopes after some marks. -/
def scopesAfter (outer : List Nat) (l : List Mark) : List Nat := l.foldl scopes outer

/-- Every event with the innermost of the scopes that are open when it is recorded. -/
def deliveries (outer : List Nat) : List Mark → List (Option Nat × Event)
  | [] => []
  | .recorded e :: l => (outer.head?, e) :: deliveries outer l
  | .entered sink :: l => deliveries (sink :: outer) l
  | .left :: l => deliveries outer.tail l

variable {outer : List Nat}

theorem scopesAfter_append (l l' : List Mark) :
    scopesAfter outer (l ++ l') = scopesAfter (scopesAfter outer l) l' := List.foldl_append

theorem deliveries_append (l l' : List Mark) :
    deliveries outer (l ++ l') = deliveries outer l ++ deliveries (scopesAfter outer l) l' := by
  induction l generalizing outer with
  | nil => rfl
  | cons x l ih =>
    cases x with
    | recorded e => exact congrArg ((outer.head?, e) :: ·) ih
    | entered sink => exact ih
    | left => exact ih

/-- Nothing is delivered twice, and nothing is lost. -/
theorem map_snd_deliveries (l : List Mark) :
    (deliveries outer l).map Prod.snd = l.filterMap event? := by
  induction l generalizing outer with
  | nil => rfl
  | cons x l ih =>
    cases x with
    | recorded e => exact congrArg (e :: ·) ih
    | entered sink => exact ih
    | left => exact ih

end Mark

namespace Recording

open Mark

/-- What a program does, and whether it comes to its end. An abort leaves all scopes up to the next
rescue. -/
def marks : Recording → List Mark × Bool
  | .record e => ([.recorded e], true)
  | .seq a b =>
    ((marks a).1 ++ if (marks a).2 then (marks b).1 else [], (marks a).2 && (marks b).2)
  | .scope sink body => (.entered sink :: ((marks body).1 ++ [.left]), (marks body).2)
  | .abort => ([], false)
  | .rescue body => ((marks body).1, true)

/-- A program leaves every scope that it enters, and no other one. -/
theorem scopesAfter_marks (r : Recording) (outer : List Nat) :
    scopesAfter outer (marks r).1 = outer := by
  induction r generalizing outer with
  | record e => rfl
  | seq a b iha ihb =>
    rw [marks, scopesAfter_append, iha]
    split
    · exact ihb outer
    · rfl
  | scope sink body ih =>
    have hbody := ih (sink :: outer)
    have hmarks : scopesAfter outer (marks (.scope sink body)).1 =
        scopesAfter (sink :: outer) ((marks body).1 ++ [.left]) := rfl
    rw [hmarks, scopesAfter_append, hbody]
    rfl
  | abort => rfl
  | rescue body ih => exact ih outer

/-- A mark of a sequence is one of its first part or one of its second part. -/
theorem mark_of_append {l l' before after : List Mark} {x : Mark}
    (h : l ++ l' = before ++ x :: after) :
    (∃ rest, l = before ++ x :: rest) ∨ ∃ inside, before = l ++ inside ∧ l' = inside ++ x :: after := by
  rcases List.append_eq_append_iff.1 h with ⟨inside, hbefore, hl'⟩ | ⟨rest, hl, hrest⟩
  · exact .inr ⟨inside, hbefore, hl'⟩
  · cases rest with
    | nil => exact .inr ⟨[], by rw [hl, List.append_nil, List.append_nil], hrest.symm⟩
    | cons y rest =>
      obtain ⟨rfl, -⟩ := List.cons.inj hrest
      exact .inl ⟨rest, hl⟩

/-- The scope that is left is the one that was entered last, and those that were open before it was
entered are open again. -/
theorem exists_entered (r : Recording) (outer : List Nat) {before after : List Mark}
    (h : (marks r).1 = before ++ .left :: after) :
    ∃ earlier sink inside, before = earlier ++ .entered sink :: inside ∧
      scopesAfter outer before = sink :: scopesAfter outer earlier := by
  induction r generalizing outer before after with
  | record e =>
    have hmem : Mark.left ∈ (marks (.record e)).1 := by
      rw [h]
      exact List.mem_append_right _ List.mem_cons_self
    cases List.mem_singleton.1 hmem
  | seq a b iha ihb =>
    rw [marks] at h
    rcases mark_of_append h with ⟨rest, ha⟩ | ⟨before, rfl, hb⟩
    · exact iha outer ha
    · split at hb
      · obtain ⟨earlier, sink, inside, rfl, hopen⟩ := ihb outer hb
        refine ⟨(marks a).1 ++ earlier, sink, inside, (List.append_assoc ..).symm, ?_⟩
        rw [scopesAfter_append (marks a).1, scopesAfter_append (marks a).1, scopesAfter_marks, hopen]
      · cases before <;> cases hb
  | scope sink body ih =>
    cases before with
    | nil => cases h
    | cons x before =>
      obtain ⟨rfl, htail⟩ := List.cons.inj h
      have hbody : (marks body).1 ++ [.left] = before ++ .left :: after := htail
      rcases mark_of_append hbody with ⟨rest, hinside⟩ | ⟨before, rfl, hlast⟩
      · obtain ⟨earlier, inner, inside, rfl, hopen⟩ := ih (sink :: outer) hinside
        exact ⟨.entered sink :: earlier, inner, inside, rfl, hopen⟩
      · -- this scope is left, with all those in it left before
        cases before with
        | nil =>
          refine ⟨[], sink, (marks body).1, by rw [List.append_nil]; rfl, ?_⟩
          rw [List.append_nil]
          exact scopesAfter_marks body (sink :: outer)
        | cons y before => cases before <;> cases hlast
  | abort => cases before <;> cases h
  | rescue body ih => exact ih outer h

/-- A run delivers every event to the innermost open scope and ends with the sink that was in force
at its beginning, whether it comes to its end or not. -/
theorem run_eq (r : Recording) (d : Delivered) (outer : List Nat) (h : outer.head? = d.sink) :
    run r d = (⟨d.sink, d.events ++ deliveries outer (marks r).1⟩, (marks r).2) := by
  induction r generalizing d outer with
  | record e => simp [run, marks, deliveries, h]
  | seq a b iha ihb =>
    have ha := iha d outer h
    rw [marks, deliveries_append, scopesAfter_marks]
    cases hends : (marks a).2 with
    | true =>
      have hb := ihb ⟨d.sink, d.events ++ deliveries outer (marks a).1⟩ outer h
      rw [hends] at ha
      rw [run, ha, if_pos rfl, ← List.append_assoc]
      exact hb
    | false =>
      rw [hends] at ha
      rw [run, ha, if_neg Bool.false_ne_true]
      simp [deliveries]
  | scope sink body ih =>
    have hbody := ih { d with sink := some sink } (sink :: outer) rfl
    have hmarks : deliveries outer (marks (.scope sink body)).1 =
        deliveries (sink :: outer) ((marks body).1 ++ [.left]) := rfl
    have hleft : deliveries (sink :: outer) [.left] = [] := rfl
    rw [run, hbody, hmarks, deliveries_append, scopesAfter_marks, hleft, List.append_nil]
    rfl
  | abort => simp [run, marks, deliveries]
  | rescue body ih =>
    rw [run, ih d outer h]
    rfl

end Recording

/-- The events that went to a sink, or to the counters. -/
def Delivered.arrivals (d : Delivered) (sink : Option Nat) : List Event :=
  (d.events.filter (·.1 = sink)).map Prod.snd

/-- The counters of the thread. -/
def Delivered.counters (d : Delivered) (c : Counters) : Counters := c.recordAll (d.arrivals none)

namespace Recording

open Mark

/-- Every event of a program is delivered once, in order, to the innermost of the scopes that are
open then, or to the counters if none is open. What is open after a scope is left is what was open
before it was entered. A program, so also every scope in it, ends with the sink that was in force at
its beginning, even if it aborts. -/
theorem run_nests (r : Recording) (d : Delivered) (c : Counters) :
    let outer := d.sink.toList
    let delivered := deliveries outer (marks r).1
    run r d = (⟨d.sink, d.events ++ delivered⟩, (marks r).2) ∧
      delivered.map Prod.snd = (marks r).1.filterMap event? ∧
      (∀ before e after, (marks r).1 = before ++ .recorded e :: after →
        delivered = deliveries outer before ++
          ((scopesAfter outer before).head?, e) :: deliveries (scopesAfter outer before) after) ∧
      (∀ before after, (marks r).1 = before ++ .left :: after →
        ∃ earlier sink inside, before = earlier ++ .entered sink :: inside ∧
          scopesAfter outer before = sink :: scopesAfter outer earlier) ∧
      (run r d).1.counters c =
        (d.counters c).recordAll ((delivered.filter (·.1 = none)).map Prod.snd) := by
  intro outer delivered
  have hhead : outer.head? = d.sink := by
    cases h : d.sink <;> simp [outer, h]
  have hrun : run r d = (⟨d.sink, d.events ++ delivered⟩, (marks r).2) := run_eq r d outer hhead
  refine ⟨hrun, map_snd_deliveries _, fun before e after h => ?_,
    fun before after h => exists_entered r outer h, ?_⟩
  · simp only [delivered]
    rw [h, deliveries_append]
    rfl
  · rw [hrun]
    simp [Delivered.counters, Delivered.arrivals, Counters.recordAll]

/-- A program that aborts in the inner one of two scopes, and goes on. -/
def restless : Recording :=
  .seq (.record (.elided "a")) (.seq
    (.rescue (.scope 1 (.seq (.record (.elided "b")) (.scope 2 (.seq (.record (.elided "c")) .abort)))))
    (.record (.elided "d")))

/-- Both scopes are left, the inner one first, and the last event goes to the counters again. -/
theorem run_nests_restless :
    ((marks restless).1 = [.recorded (.elided "a"), .entered 1, .recorded (.elided "b"), .entered 2,
        .recorded (.elided "c")] ++ .left :: [.left, .recorded (.elided "d")]) ∧
      run restless ⟨none, []⟩ = (⟨none, [(none, .elided "a"), (some 1, .elided "b"),
        (some 2, .elided "c"), (none, .elided "d")]⟩, true) ∧
      ∃ earlier sink inside, [Mark.recorded (.elided "a"), .entered 1, .recorded (.elided "b"),
          .entered 2, .recorded (.elided "c")] = earlier ++ .entered sink :: inside ∧
        [2, 1] = sink :: scopesAfter [] earlier := by
  have hmarks : (marks restless).1 = [.recorded (.elided "a"), .entered 1, .recorded (.elided "b"),
      .entered 2, .recorded (.elided "c")] ++ .left :: [.left, .recorded (.elided "d")] := rfl
  obtain ⟨hrun, -, -, hleft, -⟩ := run_nests restless ⟨none, []⟩ (.reset 0)
  exact ⟨hmarks, hrun, hleft _ _ hmarks⟩

end Recording

end RemoteTable
