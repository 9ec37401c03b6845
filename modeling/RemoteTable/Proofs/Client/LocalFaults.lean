import Mathlib
import RemoteTable.Load.Rows
import RemoteTable.Proofs.Query.Shaping
import RemoteTable.Save.Dispatch

/-!
Faults that arise on the side of the host. Whatever is done before a request is sent, or with a
response of success, fails for a reason of its own: no such fault is mistaken for one that the
remote or the transport has told of.
-/

namespace RemoteTable

/-- A fault that is neither a rejection nor a failure to deliver. -/
def Fault.IsLocal : Fault → Prop
  | .rejected _ => False
  | .undelivered _ => False
  | _ => True

/-- A fault of the kind that the building of a query string has. -/
def Fault.IsUnsupported (f : Fault) : Prop := f.kind = .unsupported

namespace Fault

variable {f : Fault}

theorem IsLocal.kind_ne (h : f.IsLocal) : f.kind ≠ .request ∧ f.kind ≠ .transport := by
  cases f with
  | rejected => exact h.elim
  | undelivered => exact h.elim
  | _ => simp [kind]

theorem isLocal_of_kind {k : FaultClass} (h : f.kind = k) (hk : k ≠ .request ∧ k ≠ .transport) :
    f.IsLocal := by
  subst h
  cases f with
  | rejected => exact hk.1 rfl
  | undelivered => exact hk.2 rfl
  | _ => trivial

theorem IsUnsupported.isLocal (h : f.IsUnsupported) : f.IsLocal := isLocal_of_kind h (by decide)

end Fault

section queries

variable {bag : Bag}

theorem Bag.failsBy_valueOf (bag : Bag) (name : String) :
    (bag.valueOf name).FailsBy Fault.IsUnsupported := by
  unfold valueOf
  cases bag.find? name with
  | some v => exact .ok
  | none => exact .error rfl

theorem Operand.failsBy_valueIn (bag : Bag) (o : Operand) :
    (o.valueIn bag).FailsBy Fault.IsUnsupported := by
  cases o with
  | literal v => exact .ok
  | param name => exact bag.failsBy_valueOf name

theorem RowCount.failsBy_valueIn (bag : Bag) (c : RowCount) :
    (c.valueIn bag).FailsBy Fault.IsUnsupported := by
  cases c with
  | known n => exact .ok
  | param name =>
    apply (bag.failsBy_valueOf name).bind
    intro v
    split
    · exact .ok
    · exact .error rfl

namespace Filter

theorem failsBy_operandText (column : String) (grouped : Bool) (op : ColumnTest) (v : Value) :
    (operandText column grouped op v).FailsBy Fault.IsUnsupported := by
  unfold operandText
  split
  · exact .ok
  · split
    · exact .ok
    · exact .ok
    · exact .error rfl
  · split
    · exact .error rfl
    · exact .ok

theorem failsBy_segment (bag : Bag) (grouped : Bool) (f : Filter) :
    (f.segment bag grouped).FailsBy Fault.IsUnsupported := by
  apply (f.operand.failsBy_valueIn bag).bind
  intro v
  apply (failsBy_operandText f.column grouped (f.effective v).1 v).bind
  intro text
  exact .ok

theorem failsBy_pair (bag : Bag) (f : Filter) : (f.pair bag).FailsBy Fault.IsUnsupported :=
  (f.failsBy_segment bag false).map _

theorem failsBy_groupPair (bag : Bag) (g : List Filter) :
    (groupPair bag g).FailsBy Fault.IsUnsupported := by
  apply Except.FailsBy.map
  apply Except.FailsBy.mapM
  intro f
  exact (f.failsBy_segment bag true).map _

end Filter

theorem RowCount.failsBy_pair (bag : Bag) (key : String) (b : Option RowCount) :
    (RowCount.pair bag key b).FailsBy Fault.IsUnsupported := by
  cases b with
  | none => exact .ok
  | some c => exact (c.failsBy_valueIn bag).map _

theorem Query.failsBy_queryString (bag : Bag) (q : Query) :
    (q.queryString bag).FailsBy Fault.IsUnsupported := by
  apply (Except.FailsBy.mapM (Filter.failsBy_pair bag) q.conditions.filters).bind
  intro filters
  apply (Except.FailsBy.mapM (Filter.failsBy_groupPair bag) q.conditions.groups).bind
  intro groups
  apply (RowCount.failsBy_pair bag "offset" q.offset).bind
  intro offset
  apply (RowCount.failsBy_pair bag "limit" q.limit).bind
  intro limit
  exact .ok

theorem Endpoint.failsBy_tableUrl (base : Url) (table : String) (q : QueryString) :
    (Endpoint.tableUrl base table q).FailsBy Fault.IsLocal := by
  unfold tableUrl
  split
  · exact .ok
  · exact .error trivial

theorem PreparedQuery.failsBy_request (q : PreparedQuery) (e : Endpoint) (bag : Bag) :
    (q.request e bag).FailsBy Fault.IsLocal := by
  apply ((q.query.failsBy_queryString bag).imp fun _ => Fault.IsUnsupported.isLocal).bind
  intro pairs
  apply (Endpoint.failsBy_tableUrl e.baseUrl q.query.table pairs).bind
  intro url
  exact .ok

end queries

section rows

theorem Cursor.failsBy_shape (c : Cursor) (o : JsonMembers) :
    (c.shape o).FailsBy Fault.IsLocal := by
  intro f h
  rcases shape_eq_error h with ⟨property, error, rfl⟩ | ⟨name, rfl⟩
  · trivial
  · trivial

theorem Load.failsBy_readShaped {α : Type} (target : Target α) (s : Shape) :
    (readShaped target s).FailsBy Fault.IsLocal := by
  unfold readShaped
  split
  · exact .ok
  · exact .error trivial

end rows

section writes

variable {m : Entity} {e : Entry}

theorem Write.failsBy_ofState (entity : String) (state : ChangeState) :
    (Write.ofState entity state).FailsBy Fault.IsLocal := by
  cases state with
  | added => exact .ok
  | modified => exact .ok
  | deleted => exact .ok
  | _ => exact .error trivial

namespace Entity

theorem failsBy_rowFilter (m : Entity) (e : Entry) (property : String) :
    (m.rowFilter e property).FailsBy Fault.IsLocal := by
  unfold rowFilter
  split
  · exact .error trivial
  · split
    · exact .error trivial
    · exact .ok

theorem failsBy_rowFilters (m : Entity) (e : Entry) : (m.rowFilters e).FailsBy Fault.IsLocal := by
  unfold rowFilters
  split
  · exact .mapM (m.failsBy_rowFilter e) _
  · exact .error trivial

theorem failsBy_writeOf (m : Entity) (e : Entry) : (m.writeOf e).FailsBy Fault.IsLocal := by
  apply (Write.failsBy_ofState m.name e.state).bind
  intro w
  split
  · exact .ok
  · exact (m.failsBy_rowFilters e).bind fun _ => .ok

theorem failsBy_rowQuery (m : Entity) (e : Entry) : (m.rowQuery e).FailsBy Fault.IsLocal := by
  apply (m.failsBy_rowFilters e).bind
  intro filters
  exact (Query.failsBy_queryString .empty _).imp fun _ => Fault.IsUnsupported.isLocal

theorem failsBy_request (m : Entity) (e : Entry) (endpoint : Endpoint) :
    (m.request e endpoint).FailsBy Fault.IsLocal := by
  apply (Write.failsBy_ofState m.name e.state).bind
  intro w
  have haddress (q : QueryString) : (Endpoint.tableUrl endpoint.baseUrl m.table q).FailsBy
      Fault.IsLocal := Endpoint.failsBy_tableUrl endpoint.baseUrl m.table q
  by_cases hinsert : w = .insert
  · rw [if_pos hinsert]
    exact (haddress .empty).bind fun _ => .ok
  · rw [if_neg hinsert]
    exact (m.failsBy_rowQuery e).bind fun q => (haddress q).bind fun _ => .ok

end Entity

namespace Save

variable {σ : Type} {n : Nat}

theorem failsBy_modelOf (s : Schema) (e : Entry) : (modelOf s e).FailsBy Fault.IsLocal := by
  unfold modelOf
  split
  · exact .ok
  · exact .error trivial

theorem failsBy_launch (d : Session σ) (e : Entry) : (launch d e).FailsBy Fault.IsLocal := by
  apply (failsBy_modelOf d.schema e).bind
  intro m
  apply (m.failsBy_writeOf e).bind
  intro w
  apply (m.failsBy_request e d.endpoint).bind
  intro r
  exact .ok

theorem failsBy_check (s : Schema) (entries : Vector Entry n) (i : Fin n) :
    (Plan.check s entries i).FailsBy Fault.IsLocal := by
  unfold Plan.check
  simp only
  split
  · exact .error trivial
  · split
    · exact .ok
    · exact .ok
    · exact .ok
    · exact .error trivial

theorem failsBy_ofBatch (s : Schema) (entries : Vector Entry n) :
    (Plan.ofBatch s entries).FailsBy Fault.IsLocal :=
  (Except.FailsBy.forM (failsBy_check s entries) _).bind fun _ => .ok

theorem failsBy_plan (d : Session σ) (entries : Vector Entry n) :
    (plan d entries).2.FailsBy Fault.IsLocal := by
  unfold plan
  split
  next f h => exact .error (failsBy_ofBatch _ _ f h)
  next p _ =>
    refine (Except.FailsBy.forM (fun i => ?_) p.order).bind fun _ => .ok
    apply (failsBy_modelOf d.schema (entries.get i)).bind
    intro m
    exact (m.failsBy_writeOf _).bind fun _ => .ok

end Save

end writes

end RemoteTable
