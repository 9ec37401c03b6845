import Mathlib
import RemoteTable.Save.Dispatch

/-!
What it takes for a reference to follow the key of its principal. Repointing an entry changes
nothing but properties of its references. A reference that shares no property with another one of
its type follows exactly the keys whose stand-in it holds.
-/

namespace RemoteTable

/-- The values that a reference of an entry holds. -/
def ForeignKey.heldBy (k : ForeignKey) (e : Entry) : List Value := k.properties.map e.current

/-- The values of an entry that a reference to it would hold. -/
def ForeignKey.namedBy (k : ForeignKey) (principal : Entity) (e : Entry) : List Value :=
  (k.resolvedKey principal).map e.current

namespace Repoint

variable {n : Nat} {s : Schema} {m P : Entity} {k : ForeignKey} {a : Assignment} {e : Entry}

/-- Values are compared by their texts. -/
def texts (l : List Value) : List String := l.map Value.wireText

theorem texts_map_eq_iff {ps : List String} {e e' : Entry} :
    texts (ps.map e.current) = texts (ps.map e'.current) ↔
      ∀ p ∈ ps, (e.current p).wireText = (e'.current p).wireText := by
  simp [texts]

/-- A reference of a type to the key of another, without a property of any further reference. -/
structure Points (m P : Entity) (k : ForeignKey) : Prop where
  apart : ∃ l r, m.foreignKeys = l ++ k :: r ∧ ∀ k' ∈ l ++ r, k.properties.Disjoint k'.properties
  principal : k.principal = P.name
  nodup : k.properties.Nodup
  length : (k.resolvedKey P).length = k.properties.length
  /-- The key is referred to as a whole, in whatever order. -/
  key : (k.resolvedKey P).Perm P.key

/-- Repoints properties, one after another. -/
def assignAll (e : Entry) (values : List (String × Value)) : Entry :=
  values.foldl (fun e (p, v) => e.repoint p v) e

theorem assignAll_append (e : Entry) (l l' : List (String × Value)) :
    assignAll e (l ++ l') = assignAll (assignAll e l) l' :=
  List.foldl_append

theorem current_assignAll {values : List (String × Value)} {p : String}
    (h : ∀ x ∈ values, x.1 ≠ p) : (assignAll e values).current p = e.current p := by
  induction values generalizing e with
  | nil => rfl
  | cons x values ih =>
    obtain ⟨hx, hvalues⟩ := List.forall_mem_cons.1 h
    have hstep : (e.repoint x.1 x.2).current p = e.current p := by simp [Ne.symm hx]
    exact (ih hvalues).trans hstep

/-- Different properties take over all the values. -/
theorem map_current_assignAll {ps : List String} {vs : List Value} (hps : ps.Nodup)
    (hlen : ps.length = vs.length) : ps.map (assignAll e (ps.zip vs)).current = vs := by
  induction ps generalizing e vs with
  | nil => exact (List.eq_nil_of_length_eq_zero hlen.symm).symm
  | cons p ps ih =>
    cases vs with
    | nil => simp at hlen
    | cons v vs =>
      obtain ⟨hp, hps⟩ := List.nodup_cons.1 hps
      have hhead : (assignAll (e.repoint p v) (ps.zip vs)).current p = v := by
        rw [current_assignAll, Entry.current_repoint, if_pos rfl]
        rintro ⟨q, w⟩ hq rfl
        exact hp (List.of_mem_zip hq).1
      have htail := ih (e := e.repoint p v) hps (Nat.succ.inj hlen)
      simpa [assignAll] using ⟨hhead, htail⟩

section slots

variable {ps qs : List String} {slots : List (String × Nat)}

/-- The places of properties in a key, next to the properties that are to follow them. -/
def Placed (P : Entity) (ps qs : List String) (slots : List (String × Nat)) : Prop :=
  List.Forall₂ (fun x slot => slot.1 = x.1 ∧ P.key[slot.2]? = some x.2) (ps.zip qs) slots

theorem placed_of_mapM {l : List (String × String)}
    (h : l.mapM (fun (p, q) => (P.key.idxOf? q).map (p, ·)) = some slots) :
    List.Forall₂ (fun x slot => slot.1 = x.1 ∧ P.key[slot.2]? = some x.2) l slots := by
  induction l generalizing slots with
  | nil => cases h; exact .nil
  | cons x l ih =>
    obtain ⟨p, q⟩ := x
    rw [List.mapM_cons] at h
    obtain ⟨slot, hslot, h⟩ := Option.bind_eq_some_iff.1 h
    obtain ⟨rest, hrest, h⟩ := Option.bind_eq_some_iff.1 h
    cases h
    obtain ⟨i, hi, rfl⟩ := Option.map_eq_some_iff.1 hslot
    obtain ⟨hlt, hget, -⟩ := List.idxOf?_eq_some_iff.1 hi
    exact .cons ⟨rfl, hget ▸ List.getElem?_eq_getElem hlt⟩ (ih hrest)

theorem placed_of_placesInKey? (h : placesInKey? k P = some slots) :
    (k.resolvedKey P).length = k.properties.length ∧
      Placed P k.properties (k.resolvedKey P) slots := by
  simp only [placesInKey?] at h
  split at h
  case isTrue hlen => exact ⟨hlen, placed_of_mapM h⟩
  case isFalse => simp at h

theorem Placed.fst_mem (h : Placed P ps qs slots) {slot : String × Nat} (hslot : slot ∈ slots) :
    slot.1 ∈ ps := by
  have hmem : ∀ {l : List (String × String)} {slots : List (String × Nat)}, slot ∈ slots →
      List.Forall₂ (fun x slot => slot.1 = x.1 ∧ P.key[slot.2]? = some x.2) l slots →
      ∃ x ∈ l, slot.1 = x.1 := by
    intro l slots hslot h
    induction h with
    | nil => simp at hslot
    | cons hx _ ih =>
      rcases List.mem_cons.1 hslot with rfl | hslot
      · exact ⟨_, List.mem_cons_self, hx.1⟩
      · exact (ih hslot).imp fun _ h => ⟨List.mem_cons_of_mem _ h.1, h.2⟩
  obtain ⟨x, hx, hfst⟩ := hmem hslot h
  exact hfst ▸ (List.of_mem_zip (a := x.1) (b := x.2) hx).1

theorem exists_mapM_idxOf {l : List (String × String)} (h : ∀ x ∈ l, x.2 ∈ P.key) :
    ∃ slots, l.mapM (fun (p, q) => (P.key.idxOf? q).map (p, ·)) = some slots := by
  induction l with
  | nil => exact ⟨[], rfl⟩
  | cons x l ih =>
    obtain ⟨hx, hl⟩ := List.forall_mem_cons.1 h
    obtain ⟨rest, hrest⟩ := ih hl
    obtain ⟨i, hi⟩ := Option.ne_none_iff_exists'.1 (mt List.idxOf?_eq_none_iff.1 (not_not.2 hx))
    exact ⟨(x.1, i) :: rest, by simp [List.mapM_cons, hi, hrest]⟩

theorem exists_placesInKey? (hk : Points m P k) : ∃ slots, placesInKey? k P = some slots := by
  simp only [placesInKey?, if_pos hk.length]
  exact exists_mapM_idxOf fun x hx => hk.key.subset (List.of_mem_zip (a := x.1) (b := x.2) hx).2

theorem textAt_keyValues {i : Nat} {q : String} (h : P.key[i]? = some q) (b : Entry) :
    textAt (keyValues P b) i = some (b.current q).wireText := by
  simp [textAt, keyValues, h]

/-- The slots hold a stand-in if the properties hold the texts of its values. -/
theorem all_slots_iff (hlen : qs.length = ps.length) (h : Placed P ps qs slots) (e b : Entry) :
    slots.all (fun (p, i) => some (e.current p).wireText == textAt (keyValues P b) i) = true ↔
      texts (ps.map e.current) = texts (qs.map b.current) := by
  induction ps generalizing qs slots with
  | nil => cases List.eq_nil_of_length_eq_zero hlen; cases h; simp
  | cons p ps ih =>
    cases qs with
    | nil => simp at hlen
    | cons q qs =>
      rw [Placed, List.zip_cons_cons] at h
      obtain ⟨⟨p', i⟩, slots, ⟨rfl, hi⟩, hslots, rfl⟩ := List.forall₂_cons_left_iff.1 h
      have hrest := ih (Nat.succ.inj hlen) hslots
      simp only [texts] at hrest
      simp [texts, textAt_keyValues hi, hrest]

theorem map_slots (hlen : qs.length = ps.length) (h : Placed P ps qs slots) (b : Entry) :
    slots.map (fun (p, i) => (p, ((keyValues P b)[i]?).getD .null)) =
      ps.zip (qs.map b.current) := by
  induction ps generalizing qs slots with
  | nil => cases h; rfl
  | cons p ps ih =>
    cases qs with
    | nil => simp at hlen
    | cons q qs =>
      rw [Placed, List.zip_cons_cons] at h
      obtain ⟨⟨p', i⟩, slots, ⟨rfl, hi⟩, hslots, rfl⟩ := List.forall₂_cons_left_iff.1 h
      have hrest := ih (Nat.succ.inj hlen) hslots
      simp only [keyValues, List.getElem?_map] at hrest
      simp [keyValues, hi, hrest]

end slots

/-- A reference follows a key if it holds the stand-in, and otherwise stays as it is. -/
theorem heldBy_repointKey (hk : Points m P k) (b b' e : Entry) :
    k.heldBy (repointKey P ⟨keyValues P b, keyValues P b'⟩ e k).1 =
      if texts (k.heldBy e) = texts (k.namedBy P b) then k.namedBy P b' else k.heldBy e := by
  obtain ⟨slots, hslots⟩ := exists_placesInKey? hk
  obtain ⟨hlen, hplaced⟩ := placed_of_placesInKey? hslots
  have hall := all_slots_iff hlen hplaced e b
  simp only [repointKey, hslots]
  by_cases h : texts (k.heldBy e) = texts (k.namedBy P b)
  · rw [if_pos (hall.2 h), if_pos h, map_slots hlen hplaced]
    exact map_current_assignAll hk.nodup (by simp [hlen])
  · rw [if_neg (mt hall.1 h), if_neg h]

/-- Repointing a reference is assigning the values that are reported. -/
theorem repointKey_eq (P : Entity) (a : Assignment) (e : Entry) (k : ForeignKey) :
    (repointKey P a e k).1 = assignAll e (repointKey P a e k).2 := by
  unfold repointKey
  split
  · rfl
  · split <;> rfl

theorem mem_of_mem_repointKey {x : String × Value} (h : x ∈ (repointKey P a e k).2) :
    x.1 ∈ k.properties := by
  unfold repointKey at h
  split at h
  · simp at h
  next slots hslots =>
    split at h
    · obtain ⟨slot, hslot, rfl⟩ := List.mem_map.1 h
      exact (placed_of_placesInKey? hslots).2.fst_mem hslot
    · simp at h

theorem repointAll_cons (P : Entity) (a : Assignment) (e : Entry) (k : ForeignKey)
    (l : List ForeignKey) : repointAll P a e (k :: l) =
      ((repointAll P a (repointKey P a e k).1 l).1,
        (repointKey P a e k).2 ++ (repointAll P a (repointKey P a e k).1 l).2) := rfl

theorem repointAll_append (P : Entity) (a : Assignment) (e : Entry) (l l' : List ForeignKey) :
    (repointAll P a e (l ++ l')).1 = (repointAll P a (repointAll P a e l).1 l').1 := by
  induction l generalizing e with
  | nil => rfl
  | cons k l ih => exact ih _

/-- Repointing an entry is assigning the values that are reported. -/
theorem repointAll_eq (P : Entity) (a : Assignment) (e : Entry) (l : List ForeignKey) :
    (repointAll P a e l).1 = assignAll e (repointAll P a e l).2 := by
  induction l generalizing e with
  | nil => rfl
  | cons k l ih => rw [repointAll_cons, assignAll_append, ← repointKey_eq, ih]

theorem mem_of_mem_repointAll {l : List ForeignKey} {x : String × Value}
    (h : x ∈ (repointAll P a e l).2) : ∃ k ∈ l, x.1 ∈ k.properties := by
  induction l generalizing e with
  | nil => simp [repointAll] at h
  | cons k l ih =>
    rw [repointAll_cons] at h
    rcases List.mem_append.1 h with h | h
    · exact ⟨k, List.mem_cons_self, mem_of_mem_repointKey h⟩
    · exact (ih h).imp fun _ h => ⟨List.mem_cons_of_mem _ h.1, h.2⟩

theorem heldBy_repointAll_of_apart {l : List ForeignKey}
    (h : ∀ k' ∈ l, k.properties.Disjoint k'.properties) :
    k.heldBy (repointAll P a e l).1 = k.heldBy e := by
  refine List.map_congr_left fun p hp => ?_
  rw [repointAll_eq, current_assignAll]
  rintro x hx rfl
  obtain ⟨k', hk', hmem⟩ := mem_of_mem_repointAll hx
  exact h k' hk' hp hmem

/-- A reference follows the keys of its principal, and no others. -/
theorem heldBy_repointAll (hk : Points m P k) (Q : Entity) (hQ : Q.name = P.name → Q = P)
    (b b' e : Entry) :
    k.heldBy (repointAll Q ⟨keyValues Q b, keyValues Q b'⟩ e
        (m.foreignKeys.filter fun k' => k'.principal == Q.name)).1 =
      if Q.name = P.name ∧ texts (k.heldBy e) = texts (k.namedBy P b) then k.namedBy P b'
      else k.heldBy e := by
  obtain ⟨l, r, hsplit, hapart⟩ := hk.apart
  have hl := List.forall_mem_append.1 hapart
  have hfilter : ∀ {l : List ForeignKey}, (∀ k' ∈ l, k.properties.Disjoint k'.properties) →
      ∀ k' ∈ l.filter (fun k' => k'.principal == Q.name), k.properties.Disjoint k'.properties :=
    fun h k' hk' => h k' (List.mem_filter.1 hk').1
  -- The references before and after leave the properties alone, whatever key they follow.
  rw [hsplit, List.filter_append, repointAll_append]
  by_cases hname : Q.name = P.name
  · cases hQ hname
    rw [List.filter_cons_of_pos (by simp [hk.principal]), repointAll_cons,
      heldBy_repointAll_of_apart (hfilter hl.2), heldBy_repointKey hk,
      heldBy_repointAll_of_apart (hfilter hl.1)]
    simp
  · rw [List.filter_cons_of_neg (by simp [hk.principal, Ne.symm hname]),
      heldBy_repointAll_of_apart (hfilter hl.2), heldBy_repointAll_of_apart (hfilter hl.1)]
    simp [hname]

/-- An entry has followed keys: properties of its references have taken over values. -/
inductive Repointed (s : Schema) (e : Entry) : Entry → Prop
  | refl : Repointed s e e
  | repoint {e' : Entry} {m : Entity} {k : ForeignKey} {p : String} (v : Value)
      (before : Repointed s e e') (pending : e.state = .added ∨ e.state = .modified)
      (model : s.get? e.entity = some m) (reference : k ∈ m.foreignKeys)
      (property : p ∈ k.properties) : Repointed s e (e'.repoint p v)

namespace Repointed

variable {e' e'' : Entry}

theorem entity (h : Repointed s e e') : e'.entity = e.entity := by
  induction h with
  | refl => rfl
  | repoint v _ _ _ _ _ ih => exact ih

theorem state (h : Repointed s e e') : e'.state = e.state := by
  induction h with
  | refl => rfl
  | repoint v _ _ _ _ _ ih => exact ih

theorem stored (h : Repointed s e e') (p : String) : e'.stored p = e.stored p := by
  induction h with
  | refl => rfl
  | repoint v _ _ _ _ _ ih => rw [Entry.stored_repoint, ih]

/-- A property that is in no reference keeps its value. -/
theorem current (h : Repointed s e e') (hm : s.get? e.entity = some m) {p : String}
    (hp : ∀ k ∈ m.foreignKeys, p ∉ k.properties) : e'.current p = e.current p := by
  induction h with
  | refl => rfl
  | repoint v _ _ hm' hk hq ih =>
    cases hm.symm.trans hm'
    rw [Entry.current_repoint, if_neg, ih]
    rintro rfl
    exact hp _ hk hq

/-- An update sends what has followed a key. -/
theorem isChanged (h : Repointed s e e') (hstate : e.state = .modified) {p : String}
    (hp : e'.current p ≠ e.current p) : e'.isChanged p = true := by
  induction h with
  | refl => exact absurd rfl hp
  | @repoint e' m k q v before _ _ _ _ ih =>
    rw [Entry.isChanged_repoint]
    by_cases hpq : p = q
    · simp [hpq, before.state, hstate]
    · rw [Entry.current_repoint, if_neg hpq] at hp
      rw [if_neg hpq, ih hp]

theorem trans (h : Repointed s e e') (h' : Repointed s e' e'') : Repointed s e e'' := by
  induction h' with
  | refl => exact h
  | repoint v _ hstate hm hk hp ih =>
    exact .repoint v ih (h.state ▸ hstate) (h.entity ▸ hm) hk hp

end Repointed

theorem referencesOf_eq (hstate : e.state = .added ∨ e.state = .modified)
    (hm : s.get? e.entity = some m) (Q : Entity) :
    referencesOf s Q e = m.foreignKeys.filter fun k => k.principal == Q.name := by
  simp [referencesOf, hstate, hm]

theorem mem_referencesOf (h : k ∈ referencesOf s P e) :
    (e.state = .added ∨ e.state = .modified) ∧
      ∃ m, s.get? e.entity = some m ∧ k ∈ m.foreignKeys := by
  unfold referencesOf at h
  split at h
  case isFalse => simp at h
  case isTrue hstate =>
    cases hm : s.get? e.entity with
    | none => simp [hm] at h
    | some m =>
      rw [hm] at h
      exact ⟨hstate, m, rfl, (List.mem_filter.1 h).1⟩

theorem repointed_assignAll {values : List (String × Value)} {e' : Entry}
    (h : ∀ x ∈ values, ∃ k ∈ referencesOf s P e, x.1 ∈ k.properties) (he : Repointed s e e') :
    Repointed s e (assignAll e' values) := by
  induction values generalizing e' with
  | nil => exact he
  | cons x values ih =>
    obtain ⟨⟨k, hk, hx⟩, hvalues⟩ := List.forall_mem_cons.1 h
    obtain ⟨hstate, m, hm, hk⟩ := mem_referencesOf hk
    exact ih hvalues (.repoint x.2 he hstate hm hk hx)

theorem repointed_repointAll (s : Schema) (P : Entity) (a : Assignment) (e : Entry) :
    Repointed s e (repointAll P a e (referencesOf s P e)).1 := by
  rw [repointAll_eq]
  exact repointed_assignAll (fun x => mem_of_mem_repointAll) .refl

theorem get_set (entries : Vector Entry n) (i j : Fin n) (e : Entry) :
    (entries.set i e i.isLt).get j = if j = i then e else entries.get j := by
  have h : (entries.set i.val e i.isLt).get j = if i.val = j.val then e else entries.get j :=
    Vector.getElem_set i.isLt j.isLt
  simp only [h, Fin.ext_iff, eq_comm]

/-- Each pending entry is repointed by itself, and no other entry is touched. -/
theorem get_run {pending : List (Fin n)} (hpending : pending.Nodup) (P : Entity) (a : Assignment)
    (entries : Vector Entry n) (i : Fin n) :
    (run s P a entries pending).1.get i =
      if i ∈ pending then
        (repointAll P a (entries.get i) (referencesOf s P (entries.get i))).1
      else entries.get i := by
  induction pending generalizing entries with
  | nil => simp [run]
  | cons j pending ih =>
    obtain ⟨hj, hpending⟩ := List.nodup_cons.1 hpending
    rw [run, ih hpending, get_set]
    by_cases hij : i = j
    · subst hij
      simp [hj]
    · simp [hij]

end Repoint

end RemoteTable
