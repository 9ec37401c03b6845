import Mathlib
import RemoteTable.Proofs.Save.Exchanges

/-!
What saving a batch leaves alone in its entries. A property takes over the value that the store
returns for it, or follows the key of a principal; nothing else in an entry changes, so that every
row is found by the key that was stored at the start.
-/

namespace RemoteTable

namespace Entry

@[simp] theorem slot_accept (e : Entry) (p q : String) (v : Value) :
    (e.accept p v).slot q = if q = p then ⟨v, v, (e.slot p).modified, false⟩ else e.slot q :=
  slot_update e p q _

@[simp] theorem isTemporary_repoint (e : Entry) (p q : String) (v : Value) :
    (e.repoint p v).isTemporary q = e.isTemporary q := by
  by_cases h : q = p <;> simp [repoint, isTemporary, h]

end Entry

namespace Save

open Repoint

theorem entity_acceptAll (e : Entry) (values : List (String × Value)) :
    (acceptAll e values).entity = e.entity ∧ (acceptAll e values).state = e.state := by
  induction values generalizing e with
  | nil => exact ⟨rfl, rfl⟩
  | cons x values ih => exact ih (e.accept x.1 x.2)

/-- A property is left alone, or a value for it is current and stored. -/
theorem slot_acceptAll (e : Entry) (values : List (String × Value)) (q : String) :
    (acceptAll e values).slot q = e.slot q ∨
      ∃ v, (q, v) ∈ values ∧ (acceptAll e values).slot q = ⟨v, v, (e.slot q).modified, false⟩ := by
  induction values generalizing e with
  | nil => exact .inl rfl
  | cons x values ih =>
    rw [acceptAll_cons]
    rcases ih (e.accept x.1 x.2) with h | ⟨v, hv, h⟩
    · by_cases hq : q = x.1
      · refine .inr ⟨x.2, hq ▸ List.mem_cons_self, h.trans ?_⟩
        simp [hq]
      · exact .inl (h.trans (by simp [hq]))
    · refine .inr ⟨v, List.mem_cons_of_mem _ hv, h.trans ?_⟩
      by_cases hq : q = x.1 <;> simp [hq]

/-- An entry is as it was before, but for properties that have followed a key and for those with
values that the store has returned. -/
structure Kept (follows : String → Prop) (returns : String → Value → Prop) (e e' : Entry) :
    Prop where
  entity : e'.entity = e.entity
  state : e'.state = e.state
  property (q : String) :
    (∃ v, returns q v ∧ e'.current q = v ∧ e'.stored q = v ∧ e'.isTemporary q = false) ∨
      e'.stored q = e.stored q ∧ e'.isTemporary q = e.isTemporary q ∧
        (e'.current q = e.current q ∨ follows q)
  stays_changed (q : String) : e.isChanged q = true → e'.isChanged q = true
  becomes_changed (q : String) : e'.isChanged q = true →
    e.isChanged q = true ∨ e.state = .modified ∧ follows q

namespace Kept

variable {F F' : String → Prop} {R R' : String → Value → Prop} {e e' e'' : Entry}

theorem refl (F : String → Prop) (R : String → Value → Prop) (e : Entry) : Kept F R e e :=
  ⟨rfl, rfl, fun _ => .inr ⟨rfl, rfl, .inl rfl⟩, fun _ h => h, fun _ h => .inl h⟩

theorem mono (h : Kept F R e e') (hF : ∀ q, F q → F' q) (hR : ∀ q v, R q v → R' q v) :
    Kept F' R' e e' where
  entity := h.entity
  state := h.state
  property q := (h.property q).imp (fun ⟨v, hv, hrest⟩ => ⟨v, hR q v hv, hrest⟩)
    fun ⟨hstored, htemporary, hcurrent⟩ => ⟨hstored, htemporary, hcurrent.imp_right (hF q)⟩
  stays_changed := h.stays_changed
  becomes_changed q hq := (h.becomes_changed q hq).imp_right fun h => ⟨h.1, hF q h.2⟩

/-- A returned value stays, if its property does not follow a key afterwards. -/
theorem trans (h : Kept F R e e') (h' : Kept F' R' e' e'') (hlast : ∀ q v, R q v → ¬ F' q) :
    Kept (fun q => F q ∨ F' q) (fun q v => R q v ∨ R' q v) e e'' where
  entity := h'.entity.trans h.entity
  state := h'.state.trans h.state
  property q := by
    rcases h'.property q with ⟨v, hv, hrest⟩ | ⟨hstored', htemporary', hcurrent'⟩
    · exact .inl ⟨v, .inr hv, hrest⟩
    rcases h.property q with ⟨v, hv, hcurrent, hstored, htemporary⟩ | ⟨hstored, htemporary, hcurrent⟩
    · have hcurrent'' := hcurrent'.resolve_right (hlast q v hv)
      exact .inl ⟨v, .inl hv, hcurrent''.trans hcurrent, hstored'.trans hstored,
        htemporary'.trans htemporary⟩
    · refine .inr ⟨hstored'.trans hstored, htemporary'.trans htemporary, ?_⟩
      rcases hcurrent' with hcurrent' | hF'
      · exact hcurrent.imp hcurrent'.trans .inl
      · exact .inr (.inr hF')
  stays_changed q hq := h'.stays_changed q (h.stays_changed q hq)
  becomes_changed q hq := by
    rcases h'.becomes_changed q hq with hq | ⟨hstate, hF'⟩
    · exact (h.becomes_changed q hq).imp_right fun h => ⟨h.1, .inl h.2⟩
    · exact .inr ⟨h.state ▸ hstate, .inr hF'⟩

theorem of_repoint {q : String} (v : Value) (hq : F q) : Kept F R e (e.repoint q v) where
  entity := rfl
  state := rfl
  property q' := by
    refine .inr ⟨by simp, by simp, ?_⟩
    by_cases h : q' = q
    · exact .inr (h ▸ hq)
    · exact .inl (by simp [h])
  stays_changed q' hq' := by
    rw [Entry.isChanged_repoint]
    split
    next h => simp [← h, hq']
    · exact hq'
  becomes_changed q' hq' := by
    rw [Entry.isChanged_repoint] at hq'
    split at hq'
    next h =>
      rcases Bool.or_eq_true_iff.1 hq' with hq' | hstate
      · exact .inl (h ▸ hq')
      · exact .inr ⟨by simpa using hstate, h ▸ hq⟩
    · exact .inl hq'

/-- Properties that follow a key take over its values. -/
theorem of_assignAll {values : List (String × Value)} (h : ∀ x ∈ values, F x.1) :
    Kept F R e (assignAll e values) := by
  induction values generalizing e with
  | nil => exact refl F R e
  | cons x values ih =>
    obtain ⟨hx, hvalues⟩ := List.forall_mem_cons.1 h
    have hstep : Kept F (fun _ _ => False) e (e.repoint x.1 x.2) := of_repoint x.2 hx
    refine (hstep.trans (ih hvalues) fun _ _ h => h.elim).mono ?_ ?_
    · exact fun _ h => h.elim id id
    · exact fun _ _ h => h.elim False.elim id

/-- Returned values become current and stored, and stand in for nothing. -/
theorem of_acceptAll {values : List (String × Value)} (h : ∀ x ∈ values, R x.1 x.2) :
    Kept F R e (acceptAll e values) where
  entity := (entity_acceptAll e values).1
  state := (entity_acceptAll e values).2
  property q := by
    rcases slot_acceptAll e values q with hslot | ⟨v, hv, hslot⟩
    · exact .inr ⟨congrArg Slot.stored hslot, congrArg Slot.temporary hslot,
        .inl (congrArg Slot.current hslot)⟩
    · exact .inl ⟨v, h _ hv, congrArg Slot.current hslot, congrArg Slot.stored hslot,
        congrArg Slot.temporary hslot⟩
  stays_changed q hq := by
    rcases slot_acceptAll e values q with hslot | ⟨v, -, hslot⟩
    · exact (congrArg Slot.modified hslot).trans hq
    · exact (congrArg Slot.modified hslot).trans hq
  becomes_changed q hq := by
    left
    rcases slot_acceptAll e values q with hslot | ⟨v, -, hslot⟩
    · exact (congrArg Slot.modified hslot).symm.trans hq
    · exact (congrArg Slot.modified hslot).symm.trans hq

end Kept

variable {σ : Type} {n : Nat} {d : Session σ} {polls : Option Nat}
  {entries entries' : Vector Entry n} {s : σ} {order pending : List (Fin n)}
  {outcomes : List Outcome} {i j : Fin n}

/-- A property of the entry at `j` belongs to a reference to a type of which a row was inserted
while the entry was waiting to be written. -/
def Follows (d : Session σ) (entries : Vector Entry n) (order : List (Fin n))
    (outcomes : List Outcome) (j : Fin n) (q : String) : Prop :=
  ((entries.get j).state = .added ∨ (entries.get j).state = .modified) ∧
    ∃ (m : Entity) (k : ForeignKey) (a : Nat) (i : Fin n) (P : Entity) (r : Response),
      d.schema.get? (entries.get j).entity = some m ∧ k ∈ m.foreignKeys ∧ q ∈ k.properties ∧
      order[a]? = some i ∧ [i, j].Sublist order ∧
      Calls d (entries.get i) P .insert ∧ P.name = k.principal ∧
      outcomes[a]? = some (.ok r) ∧ r.isSuccess = true

/-- The entry at `j` was inserted or updated, and the first row of the response to it has a value
for a property that the store assigns. -/
def Returns (d : Session σ) (entries : Vector Entry n) (order : List (Fin n))
    (outcomes : List Outcome) (j : Fin n) (q : String) (v : Value) : Prop :=
  ∃ (m : Entity) (w : Write) (a : Nat) (r : Response) (o : JsonMembers) (rows : List JsonMembers)
    (f : Field) (x : Json), Calls d (entries.get j) m w ∧ w ≠ .delete ∧ order[a]? = some j ∧
    outcomes[a]? = some (.ok r) ∧ r.isSuccess = true ∧ Row.Splits r.body (.ok (o :: rows)) ∧
    f ∈ m.generatedFields ∧ f.name = q ∧ Row.memberFor o f = some x ∧ Value.ofJson f.kind x = .ok v

/-- Entries of the same types in the same states. -/
def Alike (entries entries' : Vector Entry n) : Prop :=
  ∀ i, (entries'.get i).entity = (entries.get i).entity ∧
    (entries'.get i).state = (entries.get i).state

theorem Alike.calls (h : Alike entries entries') {m : Entity} {w : Write}
    (hcalls : Calls d (entries'.get i) m w) : Calls d (entries.get i) m w :=
  ⟨(h i).1 ▸ hcalls.1, (h i).2 ▸ hcalls.2⟩

/-- What happens after the first exchange of a run happens in the run. -/
theorem Follows.cons (h : Alike entries entries') {o : Outcome} {q : String}
    (hfollows : Follows d entries' pending outcomes j q) :
    Follows d entries (i :: pending) (o :: outcomes) j q := by
  obtain ⟨hstate, m, k, a, i', P, r, hm, hk, hq, hi, hij, hcalls, hname, hr, hsuccess⟩ := hfollows
  exact ⟨(h j).2 ▸ hstate, m, k, a + 1, i', P, r, (h j).1 ▸ hm, hk, hq, hi, hij.cons _,
    h.calls hcalls, hname, hr, hsuccess⟩

theorem Returns.cons (h : Alike entries entries') {o : Outcome} {q : String} {v : Value}
    (hreturns : Returns d entries' pending outcomes j q v) :
    Returns d entries (i :: pending) (o :: outcomes) j q v := by
  obtain ⟨m, w, a, r, o', rows, f, x, hcalls, hw, hj, hrest⟩ := hreturns
  exact ⟨m, w, a + 1, r, o', rows, f, x, h.calls hcalls, hw, hj, hrest⟩

theorem Follows.mem {q : String} (h : Follows d entries order outcomes j q) : j ∈ order := by
  obtain ⟨-, m, k, a, i, P, r, -, -, -, -, hij, -⟩ := h
  exact hij.subset (by simp)

/-- What is taken over from a response is what the response returns. -/
theorem returns_of_mem {flight : InFlight} {r : Response} {x : String × Value}
    (hlaunch : launch d (entries.get i) = .ok flight) (hsuccess : r.isSuccess = true)
    (hx : x ∈ (assignedValues flight.model flight.write r).1) :
    Returns d entries (i :: pending) (.ok r :: outcomes) i x.1 x.2 := by
  obtain ⟨hw, o, rows, hbody, f, hf, hname, y, hmember, hvalue⟩ := mem_assignedValues hx
  exact ⟨_, _, 0, r, o, rows, f, y, .of_launch hlaunch, hw, rfl, rfl, hsuccess, hbody, hf, hname,
    hmember, hvalue⟩

/-- One exchange changes the entry that is written by what the response returns, and the entries
that wait by the keys that they follow. -/
theorem kept_settle (hpending : (i :: pending).Nodup) {flight : InFlight} {r : Response}
    {values : List (String × Value)} {fault : Option Fault} (outcomes : List Outcome)
    (hlaunch : launch d (entries.get i) = .ok flight) (hsuccess : r.isSuccess = true)
    (hvalues : assignedValues flight.model flight.write r = (values, fault)) (j : Fin n) :
    Kept (fun q => j ≠ i ∧ Follows d entries (i :: pending) (.ok r :: outcomes) j q)
      (fun q v => j = i ∧ Returns d entries (i :: pending) (.ok r :: outcomes) j q v)
      (entries.get j) ((settle d flight i values pending entries).1.get j) := by
  rw [get_settle hpending]
  by_cases hj : j = i
  · subst hj
    rw [if_pos rfl]
    refine .of_acceptAll fun x hx => ⟨rfl, returns_of_mem hlaunch hsuccess ?_⟩
    rwa [hvalues]
  rw [if_neg hj]
  split
  next h =>
    obtain ⟨hwaits, -, hinsert, -⟩ := h
    rw [repointAll_eq]
    refine .of_assignAll fun x hx => ⟨hj, ?_⟩
    obtain ⟨k, hk, hproperty⟩ := mem_of_mem_repointAll hx
    obtain ⟨hstate, m, hm, hkm⟩ := mem_referencesOf hk
    rw [referencesOf_eq hstate hm] at hk
    have hname : k.principal = flight.model.name := by simpa using (List.mem_filter.1 hk).2
    exact ⟨hstate, m, k, 0, i, flight.model, r, hm, hkm, hproperty, rfl,
      (List.singleton_sublist.2 hwaits).cons_cons _, hinsert ▸ .of_launch hlaunch, hname.symm, rfl,
      hsuccess⟩
  · exact .refl ..

/-- A whole run changes entries by what is returned and by the keys that they follow. -/
theorem Dialogue.kept {summary : Summary} {l : List (Sending n)} {run : SaveRun σ n}
    (h : Dialogue d summary pending entries l outcomes run) (hpending : pending.Nodup)
    (j : Fin n) :
    Kept (Follows d entries pending outcomes j) (Returns d entries pending outcomes j)
      (entries.get j) (run.entries.get j) := by
  induction h with
  | done => exact .refl ..
  | unready => exact .refl ..
  | abandoned => exact .refl ..
  | refused => exact .refl ..
  | unreadable hlaunch hsuccess hvalues =>
    rw [get_set]
    split
    next hj =>
      subst hj
      refine .of_acceptAll fun x hx => returns_of_mem hlaunch hsuccess ?_
      rwa [hvalues]
    · exact .refl ..
  | @next i pending entries run flight log r values l outcomes hlaunch hsuccess hvalues _ ih =>
    obtain ⟨hi, hnodup⟩ := List.nodup_cons.1 hpending
    have hstep := kept_settle hpending outcomes hlaunch hsuccess hvalues
    have halike : Alike entries (settle d flight i values pending entries).1 :=
      fun k => ⟨(hstep k).entity, (hstep k).state⟩
    refine ((hstep j).trans (ih hnodup) ?_).mono ?_ ?_
    · rintro q v ⟨rfl, -⟩ hfollows
      exact hi hfollows.mem
    · exact fun q hq => hq.elim And.right (Follows.cons halike)
    · exact fun q v hq => hq.elim And.right (Returns.cons halike)

/-- Saving a batch keeps its entries but for keys that they follow and for returned values, so that
each request is addressed by what was stored at the start. -/
theorem keeps_entries (d : Session σ) (polls : Option Nat) (entries : Vector Entry n) (s : σ) :
    (∀ j, Kept
      (fun q => ∃ p, Plan.ofBatch d.schema entries = .ok p ∧
        Follows d entries p.order (replies d polls entries s) j q)
      (fun q v => ∃ p, Plan.ofBatch d.schema entries = .ok p ∧
        Returns d entries p.order (replies d polls entries s) j q v)
      (entries.get j) ((saveWithin d polls entries s).entries.get j)) ∧
    ∀ (a : Nat) (r : Request), (saveWithin d polls entries s).log.requests[a]? = some r →
      ∃ p i, Plan.ofBatch d.schema entries = .ok p ∧ p.order[a]? = some i ∧
        Addresses d (entries.get i) r := by
  rcases saveWithin_cases d polls entries s with
    ⟨hrequests, hentries, -⟩ | ⟨p, l, run, hbatch, -, hentries, hrequests, hcourse, hdialogue⟩
  · rw [hentries, hrequests]
    exact ⟨fun j => .refl .., fun a r hr => by simp at hr⟩
  have hnodup := nodup_order hbatch
  rw [hentries, hrequests]
  constructor
  · exact fun j => (hdialogue.kept hnodup j).mono (fun q hq => ⟨p, hbatch, hq⟩)
      fun q v hq => ⟨p, hbatch, hq⟩
  · intro a r hr
    rw [List.getElem?_map] at hr
    obtain ⟨x, hx, rfl⟩ := Option.map_eq_some_iff.1 hr
    obtain ⟨hposition, -, haddresses⟩ := hcourse.of_getElem? hnodup hx
    exact ⟨p, x.position, hbatch, hposition, haddresses⟩

end Save

end RemoteTable
