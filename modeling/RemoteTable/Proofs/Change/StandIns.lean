import Mathlib
import RemoteTable.Save.Write

/-!
Entries as they are put together, call by call. A property has the value of the last call that names
it, but it keeps the mark of a stand-in that an earlier call has put there. The insert of such an
entry leaves out every property that the store assigns and that has ever had a stand-in.
-/

namespace RemoteTable

/-- A call that puts something into an entry. -/
inductive Edit where
  | assign (property : String) (v : Value)
  | standIn (property : String) (v : Value)
  | change (property : String) (v : Value)

namespace Edit

def property : Edit → String
  | assign p _ => p
  | standIn p _ => p
  | change p _ => p

def value : Edit → Value
  | assign _ v => v
  | standIn _ v => v
  | change _ v => v

def isStandIn : Edit → Bool
  | standIn _ _ => true
  | _ => false

def apply (e : Entry) : Edit → Entry
  | assign p v => e.assign p v
  | standIn p v => e.assignTemporary p v
  | change p v => e.change p v

/-- A call touches one slot. -/
theorem slot_apply (x : Edit) (e : Entry) {p : String} (h : x.property ≠ p) :
    (x.apply e).slot p = e.slot p := by
  cases x <;> exact (Entry.slot_update ..).trans (if_neg (Ne.symm h))

theorem current_apply (x : Edit) (e : Entry) (p : String) :
    (x.apply e).current p = if x.property = p then x.value else e.current p := by
  by_cases h : x.property = p
  · subst h
    cases x <;> simp [apply, Entry.assign, Entry.assignTemporary, Entry.change, Entry.current,
      property, value]
  · rw [if_neg h, Entry.current, slot_apply x e h, Entry.current]

theorem isTemporary_apply (x : Edit) (e : Entry) (p : String) :
    (x.apply e).isTemporary p = (e.isTemporary p || (decide (x.property = p) && x.isStandIn)) := by
  by_cases h : x.property = p
  · subst h
    cases x <;> simp [apply, Entry.assign, Entry.assignTemporary, Entry.change, Entry.isTemporary,
      property, isStandIn]
  · rw [Entry.isTemporary, slot_apply x e h, Entry.isTemporary]
    simp [h]

/-- The last call that names a property. -/
def last? (l : List Edit) (p : String) : Option Edit := (l.filter (·.property = p)).getLast?

theorem last?_concat (l : List Edit) (x : Edit) (p : String) :
    last? (l ++ [x]) p = if x.property = p then some x else last? l p := by
  unfold last?
  by_cases h : x.property = p <;> simp [List.filter_append, h]

/-- What the last call that names a property gives it. -/
def lastValue (l : List Edit) (p : String) : Value := ((last? l p).map value).getD .null

theorem lastValue_concat (l : List Edit) (x : Edit) (p : String) :
    lastValue (l ++ [x]) p = if x.property = p then x.value else lastValue l p := by
  rw [lastValue, last?_concat]
  split <;> rfl

/-- The last call that names a property gives it a stand-in. -/
def leavesStandIn (l : List Edit) (p : String) : Bool := (last? l p).any isStandIn

/-- Some call gives a property a stand-in. -/
def givesStandIn (l : List Edit) (p : String) : Bool :=
  l.any fun x => decide (x.property = p) && x.isStandIn

/-- A property has had a stand-in, but the last call gives it a value of its own. -/
def replacesStandIn (l : List Edit) (p : String) : Bool := givesStandIn l p && !leavesStandIn l p

theorem gives_of_leaves {l : List Edit} {p : String} (h : leavesStandIn l p = true) :
    givesStandIn l p = true := by
  obtain ⟨x, hx, hstandIn⟩ := (Option.any_eq_true _ _).1 h
  obtain ⟨hmem, hp⟩ := List.mem_filter.1 (List.mem_of_getLast? hx)
  exact List.any_eq_true.2 ⟨x, hmem, Bool.and_eq_true_iff.2 ⟨hp, hstandIn⟩⟩

theorem gives_eq_leaves_iff {l : List Edit} {p : String} :
    givesStandIn l p = leavesStandIn l p ↔ replacesStandIn l p = false := by
  have h := gives_of_leaves (l := l) (p := p)
  unfold replacesStandIn
  cases hgives : givesStandIn l p <;> cases hleaves : leavesStandIn l p <;> simp_all

end Edit

open Edit

namespace Entry

/-- The entry that some calls put together. -/
def ofEdits (entity : String) (state : ChangeState) (l : List Edit) : Entry :=
  l.foldl (fun e x => x.apply e) (start entity state)

variable {entity : String} {state : ChangeState} {l : List Edit}

theorem ofEdits_concat (l : List Edit) (x : Edit) :
    ofEdits entity state (l ++ [x]) = x.apply (ofEdits entity state l) := by
  simp [ofEdits]

/-- A property has the value of the last call that names it. -/
theorem current_ofEdits (l : List Edit) (p : String) :
    (ofEdits entity state l).current p = lastValue l p := by
  induction l using List.reverseRecOn with
  | nil => rfl
  | append_singleton l x ih => rw [ofEdits_concat, current_apply, ih, lastValue_concat]

/-- A property has the mark of a stand-in from the first one on. -/
theorem isTemporary_ofEdits (l : List Edit) (p : String) :
    (ofEdits entity state l).isTemporary p = givesStandIn l p := by
  induction l using List.reverseRecOn with
  | nil => rfl
  | append_singleton l x ih =>
    rw [ofEdits_concat, isTemporary_apply, ih]
    simp [givesStandIn]

theorem state_ofEdits (l : List Edit) : (ofEdits entity state l).state = state := by
  induction l using List.reverseRecOn with
  | nil => rfl
  | append_singleton l x ih =>
    rw [ofEdits_concat]
    cases x <;> exact ih

end Entry

/-- A member of an object. -/
def Json.member? (j : Json) (name : String) : Option Json :=
  match j with
  | .object members => members.lookup name
  | _ => none

theorem Json.member?_ofMembers (l : List (String × Json)) (name : String) :
    (ofMembers l).member? name = l.reverse.lookup name :=
  Dict.find?_ofList l name

/-- A name that has only one value is found with it. -/
theorem lookup_of_forall {α : Type} {l : List (String × α)} {k : String} {v : α}
    (hmem : (k, v) ∈ l) (h : ∀ x ∈ l, x.1 = k → x.2 = v) : l.lookup k = some v := by
  induction l with
  | nil => cases hmem
  | cons x l ih =>
    rw [Dict.lookup_cons_eq_ite]
    by_cases hk : k = x.1
    · rw [if_pos hk, h x List.mem_cons_self hk.symm]
    · rw [if_neg hk]
      rcases List.mem_cons.1 hmem with rfl | hmem
      · exact absurd rfl hk
      · exact ih hmem fun y hy => h y (List.mem_cons_of_mem _ hy)

namespace Entity

variable {m : Entity} {e : Entry} {fields : List Field} {f : Field}

/-- A field that has its column for itself, among those that are sent. -/
theorem member?_bodyOf (hmem : f ∈ fields) (hown : ∀ g ∈ fields, g.column = f.column → g = f) :
    (bodyOf e fields).member? f.column = some (e.current f.name).toJson := by
  rw [bodyOf, Json.member?_ofMembers]
  refine lookup_of_forall (List.mem_reverse.2 (List.mem_map_of_mem hmem)) fun x hx hcolumn => ?_
  obtain ⟨g, hg, rfl⟩ := List.mem_map.1 (List.mem_reverse.1 hx)
  rw [hown g hg hcolumn]

/-- A column that no field has that is sent. -/
theorem member?_bodyOf_eq_none {column : String} (h : ∀ g ∈ fields, g.column ≠ column) :
    (bodyOf e fields).member? column = none := by
  rw [bodyOf, Json.member?_ofMembers]
  refine List.lookup_eq_none_iff.2 fun x hx => bne_iff_ne.2 fun hcolumn => ?_
  obtain ⟨g, hg, rfl⟩ := List.mem_map.1 (List.mem_reverse.1 hx)
  exact h g hg hcolumn.symm

/-- What the body of an insert says of a field that has its column for itself. -/
theorem member?_newRowBody (hmem : f ∈ m.fields)
    (hown : ∀ g ∈ m.fields, g.column = f.column → g = f) :
    (m.newRowBody e).member? f.column =
      if f.storeGenerated ∧ e.isTemporary f.name then none
      else some (e.current f.name).toJson := by
  by_cases h : f.storeGenerated ∧ e.isTemporary f.name
  · rw [if_pos h]
    refine member?_bodyOf_eq_none fun g hg hcolumn => ?_
    obtain ⟨hg, hsent⟩ := List.mem_filter.1 hg
    rw [hown g hg hcolumn] at hsent
    simp [h] at hsent
  · rw [if_neg h]
    refine member?_bodyOf (List.mem_filter.2 ⟨hmem, ?_⟩) fun g hg => hown g (List.mem_filter.1 hg).1
    simpa only [Bool.not_eq_true', Bool.and_eq_false_iff, not_and_or, Bool.not_eq_true] using h

/-- An insert can be sent whenever there is an address for it. -/
theorem request_of_added (m : Entity) (endpoint : Endpoint) (h : e.state = .added) :
    m.request e endpoint =
      (Endpoint.tableUrl endpoint.baseUrl m.table .empty).map fun url =>
        ⟨.post, url, endpoint.headersToWrite .post, some (m.newRowBody e).text⟩ := by
  have hw : Write.ofState m.name e.state = .ok .insert := by
    rw [h]
    rfl
  unfold request
  simp only [hw, bind, Except.bind, if_true]
  cases Endpoint.tableUrl endpoint.baseUrl m.table .empty <;> rfl

/-- An entry has the values of the last calls, and the marks of all stand-ins that it was ever given.
So its insert leaves out what the store assigns if it was ever given a stand-in, and has the last
values of all other fields. A field is sent as the last call leaves it exactly unless the store
assigns it and a stand-in was replaced by a value of its own. -/
theorem newRowBody_ofEdits (m : Entity) (endpoint : Endpoint) (entity : String) (l : List Edit) :
    let e := Entry.ofEdits entity .added l
    (∀ p, e.current p = lastValue l p ∧ e.isTemporary p = givesStandIn l p ∧
      (e.isTemporary p = leavesStandIn l p ↔ replacesStandIn l p = false)) ∧
    m.request e endpoint =
      (Endpoint.tableUrl endpoint.baseUrl m.table .empty).map (fun url =>
        ⟨.post, url, endpoint.headersToWrite .post, some (m.newRowBody e).text⟩) ∧
    m.newRowBody e =
      .ofMembers ((m.fields.filter fun f => !(f.storeGenerated && givesStandIn l f.name)).map
        fun f => (f.column, (lastValue l f.name).toJson)) ∧
    ∀ f ∈ m.fields, (∀ g ∈ m.fields, g.column = f.column → g = f) →
      (m.newRowBody e).member? f.column =
        (if f.storeGenerated && givesStandIn l f.name then none
          else some (lastValue l f.name).toJson) ∧
      ((m.newRowBody e).member? f.column =
        (if f.storeGenerated && leavesStandIn l f.name then none
          else some (lastValue l f.name).toJson) ↔
        (f.storeGenerated && replacesStandIn l f.name) = false) := by
  intro e
  refine ⟨fun p => ?_, request_of_added m endpoint (Entry.state_ofEdits l), ?_,
    fun f hf hown => ?_⟩
  · have htemporary : e.isTemporary p = givesStandIn l p := Entry.isTemporary_ofEdits l p
    exact ⟨Entry.current_ofEdits l p, htemporary, by rw [htemporary, gives_eq_leaves_iff]⟩
  · simp only [newRowBody, bodyOf, e, Entry.isTemporary_ofEdits, Entry.current_ofEdits]
  · have hmember := member?_newRowBody (e := e) hf hown
    have htemporary : e.isTemporary f.name = givesStandIn l f.name :=
      Entry.isTemporary_ofEdits l f.name
    have hcurrent : e.current f.name = lastValue l f.name := Entry.current_ofEdits l f.name
    rw [htemporary, hcurrent] at hmember
    rw [hmember, replacesStandIn]
    have hleaves := gives_of_leaves (l := l) (p := f.name)
    cases f.storeGenerated <;> cases hgives : givesStandIn l f.name <;>
      cases hlast : leavesStandIn l f.name <;> simp_all

/-- Badges with a key and a number that the store assigns. -/
def badge : Entity :=
  ⟨"Badge", "badges", [⟨"Id", "id", .int64, true, false⟩, ⟨"Number", "number", .int32, true, false⟩,
    ⟨"Holder", "holder", .text, false, false⟩], ["Id"], []⟩

def badgeOffice : Endpoint :=
  .ofUrl ⟨"http", "", "", some (.name "localhost"), none, .segments [""], none, none⟩

/-- The key is given twice, the number has a stand-in, and the holder had one. -/
def badgeEdits : List Edit :=
  [.assign "Id" (.int 5), .standIn "Number" (.int 0), .standIn "Holder" (.text "nobody"),
    .change "Holder" (.text "Bo"), .assign "Id" (.int 77)]

/-- The key and the holder are sent, the number is left to the store. -/
theorem newRowBody_badge :
    ((badge.newRowBody (.ofEdits "Badge" .added badgeEdits)).member? "id" =
        some (Value.int 77).toJson ∧
      (badge.newRowBody (.ofEdits "Badge" .added badgeEdits)).member? "number" = none) ∧
      (badge.newRowBody (.ofEdits "Badge" .added badgeEdits)).member? "holder" =
        some (Value.text "Bo").toJson := by
  have hown : ∀ f ∈ badge.fields, ∀ g ∈ badge.fields, g.column = f.column → g = f := by
    simp [badge]
  have hfields := (newRowBody_ofEdits badge badgeOffice "Badge" badgeEdits).2.2.2
  have hsent (f : Field) (hf : f ∈ badge.fields) := (hfields f hf (hown f hf)).1
  exact ⟨⟨hsent _ (.head _), hsent _ (.tail _ (.head _))⟩, hsent _ (.tail _ (.tail _ (.head _)))⟩

/-- A key that replaces a stand-in is in the entry, but not in the insert. -/
theorem unsent_badge :
    let l := [Edit.standIn "Id" (.int (-1)), .assign "Id" (.int 77), .assign "Holder" (.text "Bo")]
    last? l "Id" = some (.assign "Id" (.int 77)) ∧
      (Entry.ofEdits "Badge" .added l).isTemporary "Id" = true ∧
      (badge.newRowBody (.ofEdits "Badge" .added l)).member? "id" = none := by
  refine ⟨?_, ?_, ?_⟩
  all_goals cbv

end Entity

end RemoteTable
