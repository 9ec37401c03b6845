import Mathlib
import RemoteTable.Proofs.Save.Run

/-!
Dependents follow their principals. What a reference holds when its entry is sent is what it held
at the start, passed on from key to key by the inserts before it. It ends at the key of the
principal that it began with, if no insert on the way moves it on to another one.
-/

namespace RemoteTable

/-- Types are registered by their names. -/
def Schema.Named (s : Schema) : Prop := ∀ name m, s.get? name = some m → m.name = name

theorem Schema.named_ofList (l : List Entity) : (Schema.ofList l).Named := by
  have hregister : ∀ (l : List Entity) (s : Schema), s.Named → (l.foldl register s).Named := by
    intro l
    induction l with
    | nil => exact fun s hs => hs
    | cons m l ih =>
      refine fun s hs => ih _ fun name m' hm' => ?_
      simp only [register, get?, Dict.find?_insert] at hm'
      split at hm'
      case isTrue hname => exact Option.some.inj hm' ▸ hname.symm
      case isFalse => exact hs name m' hm'
  exact hregister l .empty fun name m hm => by simp [empty, get?] at hm

/-- An entry is an insert of a type. -/
def Entry.Inserts (e : Entry) (P : Entity) : Prop := e.state = .added ∧ e.entity = P.name

instance (e : Entry) (P : Entity) : Decidable (e.Inserts P) :=
  inferInstanceAs (Decidable (_ ∧ _))

namespace Save

open Repoint

variable {σ : Type} {n : Nat} {d : Session σ} {i j : Fin n} {pending : List (Fin n)}
  {entries final : Vector Entry n} {s : σ} {patience : Option Nat} {summary : Summary}
  {m P : Entity} {k : ForeignKey}

/-- The texts of the key of an entry. -/
def keyTexts (P : Entity) (e : Entry) : List String := texts (keyValues P e)

/-- A reference to the key tells keys apart as the key itself does. -/
theorem texts_namedBy_eq_iff (hk : Points m P k) {e e' : Entry} :
    texts (k.namedBy P e) = texts (k.namedBy P e') ↔ keyTexts P e = keyTexts P e' := by
  simp only [ForeignKey.namedBy, keyTexts, keyValues, texts_map_eq_iff, hk.key.mem_iff]

/-- What a reference holds after an entry is sent, by what it held before. -/
def follow (k : ForeignKey) (P : Entity) (final : Vector Entry n) (v : List Value)
    (x : Sending n) : List Value :=
  if x.entry.Inserts P ∧
      (Assignment.mk (keyValues P x.entry) (keyValues P (final.get x.position))).matters ∧
      texts v = texts (k.namedBy P x.entry) then
    k.namedBy P (final.get x.position)
  else v

/-- The insert of a type is what is passed on to the references to it. -/
theorem inserts_iff (hnamed : d.schema.Named) {e : Entry} {flight : InFlight}
    (hlaunch : launch d e = .ok flight) :
    e.Inserts P ↔ flight.write = .insert ∧ flight.model.name = P.name := by
  have hname := hnamed _ _ (launch_eq_ok hlaunch).1
  rw [Entry.Inserts, write_eq_insert hlaunch, hname]

/-- One step of a run takes a reference to where it is passed on. -/
theorem heldBy_settle (hnamed : d.schema.Named) (hrepoints : d.repoints = true)
    (hP : d.schema.get? P.name = some P) (hk : Points m P k) (hpending : (i :: pending).Nodup)
    (hj : j ∈ pending) (hm : d.schema.get? (entries.get j).entity = some m)
    (hstate : (entries.get j).state = .added ∨ (entries.get j).state = .modified)
    {flight : InFlight} (hlaunch : launch d (entries.get i) = .ok flight)
    {values : List (String × Value)} (hfinal : final.get i = acceptAll (entries.get i) values) :
    k.heldBy ((settle d flight i values pending entries).1.get j) =
      follow k P final (k.heldBy (entries.get j)) ⟨i, entries.get i, flight⟩ := by
  have hne : j ≠ i := fun h => (List.nodup_cons.1 hpending).1 (h ▸ hj)
  have hmodel : flight.model.name = P.name → flight.model = P := by
    intro hname
    have hget := (launch_eq_ok hlaunch).1
    rw [← hnamed _ _ hget, hname, hP] at hget
    exact (Option.some.inj hget).symm
  rw [get_settle hpending, if_neg hne]
  simp only [hj, hrepoints, true_and, follow, hfinal]
  -- The insert of another type passes its key on as well, but not to this reference.
  by_cases hinserts : (entries.get i).Inserts P
  · obtain ⟨hwrite, hname⟩ := (inserts_iff hnamed hlaunch).1 hinserts
    have hassignment : flight.assignment (entries.get i) (acceptAll (entries.get i) values) =
        ⟨keyValues P (entries.get i), keyValues P (acceptAll (entries.get i) values)⟩ := by
      rw [InFlight.assignment, hmodel hname]
    by_cases hmatters : (Assignment.mk (keyValues P (entries.get i))
        (keyValues P (acceptAll (entries.get i) values))).matters = true
    · rw [if_pos ⟨hwrite, hassignment ▸ hmatters⟩, referencesOf_eq hstate hm, hassignment,
        hmodel hname, heldBy_repointAll hk P fun _ => rfl]
      simp [hinserts, hmatters]
    · rw [if_neg fun h => hmatters (hassignment ▸ h.2), if_neg fun h => hmatters h.2.1]
  · simp only [hinserts, false_and, if_false]
    split
    next h =>
      have hname : ¬ flight.model.name = P.name := fun hname =>
        hinserts ((inserts_iff hnamed hlaunch).2 ⟨h.1, hname⟩)
      rw [referencesOf_eq hstate hm, InFlight.assignment,
        heldBy_repointAll hk flight.model hmodel, if_neg fun h => hname h.1]
    · rfl

/-- What a reference is sent with is what it began with, passed on by all that is sent before. -/
theorem Course.heldBy (hnamed : d.schema.Named) (hrepoints : d.repoints = true)
    (hP : d.schema.get? P.name = some P) (hk : Points m P k) {l before after : List (Sending n)}
    {x : Sending n} {r : SaveRun σ n} (h : Course d summary pending entries l r)
    (hpending : pending.Nodup) (hl : l = before ++ x :: after)
    (hm : d.schema.get? (entries.get x.position).entity = some m)
    (hstate : (entries.get x.position).state = .added ∨
      (entries.get x.position).state = .modified) :
    k.heldBy x.entry =
      before.foldl (follow k P r.entries) (k.heldBy (entries.get x.position)) := by
  induction h generalizing before with
  | done => simp at hl
  | unready => simp at hl
  | last =>
    cases before with
    | nil =>
      cases hl
      rfl
    | cons y before => simp at hl
  | @next i pending entries r flight l values log hlaunch _ _ hrest ih =>
    cases before with
    | nil =>
      cases hl
      rfl
    | cons y before =>
      obtain ⟨rfl, hl'⟩ := List.cons.inj hl
      have hnodup := List.nodup_cons.1 hpending
      have hx : x.position ∈ pending := hrest.position_mem (by simp [hl'])
      have hne : x.position ≠ i := fun h => hnodup.1 (h ▸ hx)
      have hsettled := repointed_settle (d := d) hpending hne flight values entries
      have hfinal : r.entries.get i = acceptAll (entries.get i) values := by
        rw [hrest.get_of_not_mem hnodup.2 hnodup.1, get_settle hpending, if_pos rfl]
      have hstep := heldBy_settle hnamed hrepoints hP hk hpending hx hm hstate hlaunch hfinal
      have hlater := ih hnodup.2 hl' (hsettled.entity ▸ hm) (hsettled.state ▸ hstate)
      rw [hlater, hstep]
      rfl

/-- A reference carries the key of a principal that had another one at first: the texts of its
values, and the very values if their texts are new. -/
structure Carries (k : ForeignKey) (P : Entity) (e first last : Entry) : Prop where
  texts : texts (k.heldBy e) = texts (k.namedBy P last)
  values : keyTexts P last ≠ keyTexts P first → k.heldBy e = k.namedBy P last

/-- Inserts with other keys do not move a reference. -/
theorem foldl_follow (final : Vector Entry n) {v : List Value} {l : List (Sending n)}
    (h : ∀ x ∈ l, x.entry.Inserts P → texts (k.namedBy P x.entry) ≠ texts v) :
    l.foldl (follow k P final) v = v := by
  induction l with
  | nil => rfl
  | cons x l ih =>
    obtain ⟨hx, hl⟩ := List.forall_mem_cons.1 h
    have hstep : follow k P final v x = v :=
      if_neg fun hfollow => hx hfollow.1 hfollow.2.2.symm
    rw [List.foldl_cons, hstep, ih hl]

/-- The insert of the principal moves a reference to the assigned key, if it is a new one. -/
theorem follow_eq (k : ForeignKey) (final : Vector Entry n) {v : List Value} {x : Sending n}
    (hx : x.entry.Inserts P)
    (hwhole : ∀ q ∈ P.key, (x.entry.current q).isNull = false)
    (hv : texts v = texts (k.namedBy P x.entry)) :
    follow k P final v x = k.namedBy P (final.get x.position) ∨
      follow k P final v x = v ∧ keyTexts P (final.get x.position) = keyTexts P x.entry := by
  by_cases htexts : keyTexts P (final.get x.position) = keyTexts P x.entry
  · by_cases hmatters :
        (Assignment.mk (keyValues P x.entry) (keyValues P (final.get x.position))).matters = true
    · exact .inl (if_pos ⟨hx, hmatters, hv⟩)
    · exact .inr ⟨if_neg fun h => hmatters h.2.1, htexts⟩
  · left
    have hkey : P.key ≠ [] := by
      rintro hkey
      simp [keyTexts, keyValues, hkey] at htexts
    have hmatters : (Assignment.mk (keyValues P x.entry)
        (keyValues P (final.get x.position))).matters = true := by
      simp only [Assignment.matters, Bool.and_eq_true, bne_iff_ne]
      refine ⟨⟨?_, ?_⟩, htexts⟩
      · simp [keyValues, hkey]
      · simpa [keyValues] using hwhole
    exact if_pos ⟨hx, hmatters, hv⟩

/-- A reference is sent with the key of its principal, if no insert before that of the principal
has the key that it began with, and none after it has the key that the store has assigned. -/
theorem Course.carries (hnamed : d.schema.Named) (hrepoints : d.repoints = true)
    (hP : d.schema.get? P.name = some P) (hk : Points m P k)
    {l before between after : List (Sending n)} {x y : Sending n} {r : SaveRun σ n}
    (h : Course d summary pending entries l r) (hpending : pending.Nodup)
    (hl : l = before ++ y :: between ++ x :: after)
    (hm : d.schema.get? (entries.get x.position).entity = some m)
    (hstate : (entries.get x.position).state = .added ∨
      (entries.get x.position).state = .modified)
    (hy : y.entry.Inserts P) (hwhole : ∀ q ∈ P.key, (y.entry.current q).isNull = false)
    (hheld : texts (k.heldBy (entries.get x.position)) = texts (k.namedBy P y.entry))
    (hbefore : ∀ z ∈ before, z.entry.Inserts P → keyTexts P z.entry ≠ keyTexts P y.entry)
    (hbetween : ∀ z ∈ between, z.entry.Inserts P →
      keyTexts P z.entry ≠ keyTexts P (r.entries.get y.position)) :
    Carries k P x.entry y.entry (r.entries.get y.position) := by
  -- Before the principal is sent, the reference stays; then it moves to its key and stays there.
  have h₁ : before.foldl (follow k P r.entries) (k.heldBy (entries.get x.position)) =
      k.heldBy (entries.get x.position) :=
    foldl_follow r.entries fun z hz hinserts htexts =>
      hbefore z hz hinserts ((texts_namedBy_eq_iff hk).1 (htexts.trans hheld))
  have h₂ := follow_eq k r.entries hy hwhole hheld
  have h₃ : ∀ v, texts v = texts (k.namedBy P (r.entries.get y.position)) →
      between.foldl (follow k P r.entries) v = v := fun v hv =>
    foldl_follow r.entries fun z hz hinserts htexts =>
      hbetween z hz hinserts ((texts_namedBy_eq_iff hk).1 (htexts.trans hv))
  have hsent := h.heldBy hnamed hrepoints hP hk hpending hl hm hstate
  rw [List.foldl_append, h₁, List.foldl_cons] at hsent
  rcases h₂ with hmoved | ⟨hstays, htexts⟩
  · rw [hmoved, h₃ _ rfl] at hsent
    exact ⟨congrArg texts hsent, fun _ => hsent⟩
  · have hnamedBy := hheld.trans ((texts_namedBy_eq_iff hk).2 htexts).symm
    rw [hstays, h₃ _ hnamedBy] at hsent
    exact ⟨(congrArg texts hsent).trans hnamedBy, fun hne => absurd htexts hne⟩

/-- The inserts of a type have whole keys, no two of which look alike. -/
structure DistinctKeys (P : Entity) (entries : Vector Entry n) : Prop where
  whole : ∀ i, (entries.get i).Inserts P → ∀ q ∈ P.key, ((entries.get i).current q).isNull = false
  distinct : ∀ i j, (entries.get i).Inserts P → (entries.get j).Inserts P → i ≠ j →
    keyTexts P (entries.get i) ≠ keyTexts P (entries.get j)

end Save

end RemoteTable
