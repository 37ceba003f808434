import TableTransfer.Proofs.Field.Located
import TableTransfer.Proofs.Keyed
import TableTransfer.Proofs.Marshaller.Found
import TableTransfer.Proofs.Value.Record

namespace TableTransfer

/-- The two computations succeed with related results or fail with the same error. -/
inductive Alike {ε α β : Type} (R : α → β → Prop) : Except ε α → Except ε β → Prop
  | ok {a : α} {b : β} (h : R a b) : Alike R (.ok a) (.ok b)
  | error (e : ε) : Alike R (.error e) (.error e)

namespace Alike

variable {ε α β γ δ : Type} {R : α → β → Prop} {S : γ → δ → Prop}

theorem bind {x : Except ε α} {y : Except ε β} {f : α → Except ε γ} {g : β → Except ε δ}
    (h : Alike R x y) (hnext : ∀ {a b}, R a b → Alike S (f a) (g b)) :
    Alike S (x >>= f) (y >>= g) := by
  cases h with
  | ok h => exact hnext h
  | error e => exact .error e

theorem mapM {f : γ → Except ε α} {g : γ → Except ε β} (h : ∀ c, Alike R (f c) (g c))
    (cs : List γ) : Alike (List.Forall₂ R) (cs.mapM f) (cs.mapM g) := by
  induction cs with
  | nil => exact .ok .nil
  | cons c cs ih =>
      rw [List.mapM_cons, List.mapM_cons]
      exact (h c).bind fun hc => ih.bind fun hcs => .ok (.cons hc hcs)

theorem bind_eq {x : Except ε α} {y : Except ε β} {f : α → Except ε γ} {g : β → Except ε γ}
    (h : Alike (fun a b => f a = g b) x y) : x >>= f = y >>= g := by
  cases h with
  | ok h => exact h
  | error e => rfl

end Alike

/-- The cursor is on a row of these cells, each with the column that it stands in. -/
structure Cursor.StandsOn (cur : Cursor) (cells : List (Column × SqlValue)) : Prop where
  columns_eq : cur.columns = cells.map Prod.fst
  current?_eq : cur.current? = some (cells.map Prod.snd)

section

variable {cur cur' : Cursor} {cells cells' : List (Column × SqlValue)} {i j : Nat} {c : Column}
  {p : SqlValue}

theorem Cursor.StandsOn.value_eq (h : cur.StandsOn cells) (hi : cells[i]? = some (c, p)) :
    cur.value (i + 1) = .ok p := by
  simp [value, h.current?_eq, cell?, hi]

theorem Cursor.StandsOn.columnName_eq (h : cur.StandsOn cells) (hi : cells[i]? = some (c, p)) :
    cur.columnName (i + 1) = c.name := by
  simp [columnName, h.columns_eq, hi]

theorem Cursor.StandsOn.sameCell (h : cur.StandsOn cells) (h' : cur'.StandsOn cells')
    (hi : cells[i]? = some (c, p)) (hj : cells'[j]? = some (c, p)) :
    cur.SameCell (i + 1) cur' (j + 1) where
  value_eq := by rw [h.value_eq hi, h'.value_eq hj]
  columnName_eq := by rw [h.columnName_eq hi, h'.columnName_eq hj]

end

namespace Marshaller

variable {vendor : Vendor}

section

variable {cells cells' : List (Column × SqlValue)} {cur cur' : Cursor}

theorem sourceColumn?_cells {name : String} {col : ColumnType}
    (h : sourceColumn? (cells.map Prod.fst) name = some col) :
    ∃ (i : Nat) (c : Column) (p : SqlValue), cells[i]? = some (c, p) ∧ c.name = name ∧
      col = c.columnType (i + 1) := by
  obtain ⟨i, c, hc, hname, hcol⟩ := sourceColumn?_eq_some h
  rw [List.getElem?_map, Option.map_eq_some_iff] at hc
  obtain ⟨⟨d, p⟩, hi, rfl⟩ := hc
  exact ⟨i, d, p, hi, hname, hcol⟩

theorem sourceColumn?_eq_none_of_perm (h : cells.Perm cells') {name : String}
    (hnone : sourceColumn? (cells.map Prod.fst) name = none) :
    sourceColumn? (cells'.map Prod.fst) name = none := by
  rw [sourceColumn?_eq_none_iff] at hnone ⊢
  exact fun c hc => hnone c ((h.map Prod.fst).mem_iff.2 hc)

structure ReadsSame (vendor : Vendor) (cur cur' : Cursor) (b b' : Binding) : Prop where
  field_eq : b.field = b'.field
  read_eq : b.field.read vendor cur b.column = b'.field.read vendor cur' b'.column

theorem readFrom_eq_of_readsSame {bs bs' : List Binding}
    (h : List.Forall₂ (ReadsSame vendor cur cur') bs bs') (r : Record) :
    readFrom vendor cur r bs = readFrom vendor cur' r bs' := by
  induction h generalizing r with
  | nil => rfl
  | cons hb _ ih =>
      rw [readFrom, readFrom, hb.read_eq, hb.field_eq]
      simp only [ih]

theorem forSource_readRecord_alike (hcells : cells.Perm cells')
    (hnodup : (cells.map fun cell => cell.1.name).Nodup) (hcur : cur.StandsOn cells)
    (hcur' : cur'.StandsOn cells') (fields : List Field) :
    Alike (fun m m' => m.readRecord cur = m'.readRecord cur')
      (forSource vendor fields (cells.map Prod.fst))
      (forSource vendor fields (cells'.map Prod.fst)) := by
  refine Alike.bind (R := List.Forall₂ (ReadsSame vendor cur cur')) (Alike.mapM (fun f => ?_) fields)
    fun hbindings => .ok (readFrom_eq_of_readsSame hbindings .empty)
  cases hcol : sourceColumn? (cells.map Prod.fst) f.name with
  | none =>
      rw [sourceColumn?_eq_none_of_perm hcells hcol]
      exact .error _
  | some col =>
      cases hcol' : sourceColumn? (cells'.map Prod.fst) f.name with
      | none =>
          rw [sourceColumn?_eq_none_of_perm hcells.symm hcol'] at hcol
          cases hcol
      | some col' =>
          obtain ⟨i, c, p, hi, hname, rfl⟩ := sourceColumn?_cells hcol
          obtain ⟨j, c', p', hj, hname', rfl⟩ := sourceColumn?_cells hcol'
          have hcell : (c, p) = (c', p') :=
            List.inj_on_of_nodup_map hnodup (List.mem_of_getElem? hi)
              (hcells.mem_iff.2 (List.mem_of_getElem? hj)) (hname.trans hname'.symm)
          obtain ⟨rfl, rfl⟩ := Prod.mk.inj hcell
          exact .ok ⟨rfl, (hcur.sameCell hcur' hi hj).readField_eq vendor f c⟩

end

section

variable {cs cs' : List Column}

theorem sinkColumn?_eq_of_perm (h : cs.Perm cs') (hnodup : (cs.map Column.name).Nodup)
    (ordinal : Nat) (name : String) : sinkColumn? cs ordinal name = sinkColumn? cs' ordinal name := by
  rw [sinkColumn?, sinkColumn?, find?_eq_of_perm h hnodup]

theorem sinkBindings_eq_of_perm (h : cs.Perm cs') (hnodup : (cs.map Column.name).Nodup)
    (fields : List Field) (ordinal : Nat) :
    sinkBindings cs ordinal fields = sinkBindings cs' ordinal fields := by
  induction fields generalizing ordinal with
  | nil => rfl
  | cons f fields ih =>
      rw [sinkBindings, sinkBindings, sinkColumn?_eq_of_perm h hnodup, ih]

theorem forSink_eq_of_perm (h : cs.Perm cs') (hnodup : (cs.map Column.name).Nodup)
    (fields : List Field) : forSink vendor fields cs = forSink vendor fields cs' := by
  rw [forSink, forSink, sinkBindings_eq_of_perm h hnodup]

end

section

variable {r r' : Record} {σ : Type} [ParamTarget σ]

theorem writeFields_eq_of_get? (h : ∀ name, r.get? name = r'.get? name) (bs : List Binding) :
    (writeFields vendor r bs : ParamM σ Unit) = writeFields vendor r' bs := by
  induction bs with
  | nil => rfl
  | cons b bs ih => simp only [writeFields, writeField, valueFor, h, ih]

theorem writeRecord_eq_of_get? (h : ∀ name, r.get? name = r'.get? name) (m : Marshaller) :
    (m.writeRecord r : ParamM σ Unit) = m.writeRecord r' := by
  simp only [writeRecord, stage, writeFields_eq_of_get? h]

theorem get?_eq_of_perm (h : r.entries.Perm r'.entries) (hnodup : r.names.Nodup) (name : String) :
    r.get? name = r'.get? name := by
  rw [Record.get?, Record.get?, find?_eq_of_perm h hnodup]

end

/-- For columns of distinct names, a row is read as the same record, or not read for the same reason,
wherever its cells stand. A record is written to a table with the same outcome and the same
parameters, wherever the columns of the table stand and in whatever order its fields were set. -/
theorem order_irrelevant (vendor : Vendor) (fields : List Field) :
    (∀ (cells cells' : List (Column × SqlValue)) (cur cur' : Cursor), cells.Perm cells' →
      (cells.map fun cell => cell.1.name).Nodup → cur.StandsOn cells → cur'.StandsOn cells' →
      (forSource vendor fields (cells.map Prod.fst) >>= fun m => m.readRecord cur) =
        (forSource vendor fields (cells'.map Prod.fst) >>= fun m => m.readRecord cur')) ∧
    ∀ (cs cs' : List Column) (pairs pairs' : List (String × Value)) (s : Statement), cs.Perm cs' →
      (cs.map Column.name).Nodup →
      (Record.ofList pairs).entries.Perm (Record.ofList pairs').entries →
      (forSink vendor fields cs).map (fun m => (m.writeRecord (.ofList pairs)).runOn s) =
        (forSink vendor fields cs').map (fun m => (m.writeRecord (.ofList pairs')).runOn s) := by
  constructor
  · intro cells cells' cur cur' hcells hnodup hcur hcur'
    exact (forSource_readRecord_alike hcells hnodup hcur hcur' fields).bind_eq
  · intro cs cs' pairs pairs' s hcs hnodup hpairs
    have hget := get?_eq_of_perm hpairs (Record.nodup_names_ofList pairs)
    rw [forSink_eq_of_perm hcs hnodup fields]
    simp only [writeRecord_eq_of_get? hget]

def amounts : List (Column × SqlValue) :=
  [({ name := "NET", code := StandardType.integer.code, typeName := "INTEGER" }, .i32 100),
    ({ name := "GROSS", code := StandardType.integer.code, typeName := "INTEGER" }, .i32 119)]

def amountFields : List Field := [⟨"GROSS", ⟨.int, false⟩⟩, ⟨"NET", ⟨.int, false⟩⟩]

theorem order_irrelevant_amounts :
    (forSource .generic amountFields (amounts.reverse.map Prod.fst) >>= fun m =>
        m.readRecord (.single (amounts.reverse.map Prod.fst) (amounts.reverse.map Prod.snd))) =
      .ok ⟨[("GROSS", .int 119), ("NET", .int 100)]⟩ ∧
    (forSink .generic amountFields (amounts.reverse.map Prod.fst)).map (fun m =>
        (m.writeRecord (.ofList [("NET", .int 100), ("GROSS", .int 119)])).runOn ({} : Statement)) =
      .ok (.ok (), { params := [⟨1, .i32 119⟩, ⟨2, .i32 100⟩] }) := by
  have hnames : (amounts.map fun cell => cell.1.name).Nodup := by decide
  obtain ⟨hread, hwrite⟩ := order_irrelevant .generic amountFields
  constructor
  · rw [← hread amounts amounts.reverse (.single (amounts.map Prod.fst) (amounts.map Prod.snd)) _
      amounts.reverse_perm.symm hnames ⟨rfl, rfl⟩ ⟨rfl, rfl⟩]
    rfl
  · rw [← hwrite (amounts.map Prod.fst) _ [("GROSS", .int 119), ("NET", .int 100)]
      [("NET", .int 100), ("GROSS", .int 119)] {} (amounts.reverse_perm.symm.map Prod.fst) hnames
      (List.Perm.swap _ _ [])]
    rfl

end Marshaller

end TableTransfer
