import TableTransfer.Proofs.Marshaller.Nulls
import TableTransfer.Proofs.Value.Record

namespace TableTransfer

namespace Marshaller

/-- The entry has the name of the field, and the value that the field reads from its column. -/
def Holds (vendor : Vendor) (cur : Cursor) (b : Binding) (e : String × Value) : Prop :=
  b.field.name = e.1 ∧ b.field.read vendor cur b.column = .ok e.2

/-- One entry for each field, in the order of the schema. -/
def Completes (m : Marshaller) (cur : Cursor) (r : Record) : Prop :=
  List.Forall₂ (Holds m.vendor cur) m.bindings r.entries

variable {m : Marshaller} {cur : Cursor} {r : Record}

theorem readFrom_eq_ok {vendor : Vendor} {start : Record} {bs : List Binding}
    (h : readFrom vendor cur start bs = .ok r) :
    ∃ es, List.Forall₂ (Holds vendor cur) bs es ∧ r = es.foldl (fun r e => r.set e.1 e.2) start := by
  induction bs generalizing start with
  | nil =>
      cases h
      exact ⟨[], .nil, rfl⟩
  | cons b bs ih =>
      obtain ⟨v, hv, h⟩ := bind_eq_ok.1 h
      obtain ⟨es, hall, hr⟩ := ih h
      exact ⟨(b.field.name, v) :: es, .cons ⟨rfl, hv⟩ hall, hr⟩

theorem readRecord_eq_ok (h : m.readRecord cur = .ok r) :
    ∃ es, List.Forall₂ (Holds m.vendor cur) m.bindings es ∧ r = .ofList es :=
  readFrom_eq_ok h

theorem map_fst_of_holds {vendor : Vendor} {bs : List Binding} {es : List (String × Value)}
    (h : List.Forall₂ (Holds vendor cur) bs es) :
    es.map Prod.fst = (bs.map Binding.field).map Field.name := by
  rw [List.map_map]
  exact (map_eq_map_of_forall₂ h fun he => he.1).symm

theorem completes_iff_nodup (h : m.readRecord cur = .ok r) :
    m.Completes cur r ↔ ((m.bindings.map Binding.field).map Field.name).Nodup := by
  obtain ⟨es, hall, rfl⟩ := readRecord_eq_ok h
  constructor
  · intro hcomplete
    rw [← map_fst_of_holds hcomplete]
    exact Record.nodup_names_ofList es
  · intro hnodup
    rw [Completes, Record.entries_ofList (map_fst_of_holds hall ▸ hnodup)]
    exact hall

end Marshaller

namespace Source

variable {s : Source} {cs : List Column} {fields : List Field}

theorem nodup_of_inferred (h : s.fields cs = .ok fields) (hdeclared : s.declared = none) :
    (fields.map Field.name).Nodup := by
  rw [Source.fields, hdeclared] at h
  obtain ⟨hall, hnodup, -⟩ := Column.inferFrom_eq_ok h
  rwa [map_eq_map_of_forall₂ hall fun hinfers => hinfers.name_eq.symm] at hnodup

/-- A row of a source is read up to the first field that fails, or as a record. The record has one
entry for each field of the schema, in its order and with the value that the field reads, just if the
names of the fields are distinct; those of an inferred schema are. -/
theorem completes_readRecord_iff (h : s.fields cs = .ok fields) :
    ∃ m, Marshaller.forSource s.vendor fields cs = .ok m ∧
      m.vendor = s.vendor ∧ m.bindings.map Binding.field = fields ∧
      (∀ cur e, m.readRecord cur = .error e → ∃ b, m.FailsAt cur b e) ∧
      (∀ cur r, m.readRecord cur = .ok r →
        (m.Completes cur r ↔ (fields.map Field.name).Nodup)) ∧
      (s.declared = none → (fields.map Field.name).Nodup) := by
  obtain ⟨m, hm⟩ := Marshaller.exists_forSource s.vendor (cover_of_fields h)
  have hsound := Marshaller.sound_forSource hm
  refine ⟨m, hm, hsound.vendor_eq, hsound.fields_eq, fun cur e => Marshaller.exists_failsAt,
    fun cur r hr => ?_, nodup_of_inferred h⟩
  rw [Marshaller.completes_iff_nodup hr, hsound.fields_eq]

def flagColumns : List Column :=
  [{ name := "ID", code := StandardType.integer.code, typeName := "INT", nullable := false },
    { name := "FLAG", code := StandardType.tinyInt.code, typeName := "TINYINT" }]

def flagFields : List Field := [⟨"FLAG", ⟨.boolean, true⟩⟩, ⟨"ID", ⟨.int, false⟩⟩]

def repeatedFlagFields : List Field := [⟨"FLAG", ⟨.boolean, true⟩⟩, ⟨"FLAG", ⟨.int, true⟩⟩]

def flagSource (fields : List Field) : Source :=
  { vendor := .mysql
    setup := ⟨⟨"memory", "mem", 0⟩, none⟩
    query := "SELECT * FROM flags"
    declared := some fields }

theorem completes_readRecord_flags :
    (flagSource flagFields).fields flagColumns = .ok flagFields ∧
      ∃ m, Marshaller.forSource .mysql flagFields flagColumns = .ok m ∧
        m.readRecord (.single flagColumns [.i32 7, .i16 1]) =
          .ok ⟨[("FLAG", .boolean true), ("ID", .int 7)]⟩ ∧
        m.Completes (.single flagColumns [.i32 7, .i16 1])
          ⟨[("FLAG", .boolean true), ("ID", .int 7)]⟩ := by
  have hfields : (flagSource flagFields).fields flagColumns = .ok flagFields := rfl
  obtain ⟨m, hm, -, -, -, hcomplete, -⟩ := completes_readRecord_iff hfields
  cases hm
  exact ⟨rfl, _, rfl, rfl, (hcomplete _ _ rfl).2 (by decide)⟩

/-- Both fields are fit for the column, but in every record the second takes the place of the
first. -/
theorem repeated_field_dropped :
    (flagSource repeatedFlagFields).fields flagColumns = .ok repeatedFlagFields ∧
      ∃ m, Marshaller.forSource .mysql repeatedFlagFields flagColumns = .ok m ∧
        m.readRecord (.single flagColumns [.i32 7, .i16 1]) = .ok ⟨[("FLAG", .int 1)]⟩ ∧
        ¬m.Completes (.single flagColumns [.i32 7, .i16 1]) ⟨[("FLAG", .int 1)]⟩ := by
  refine ⟨rfl, _, rfl, rfl, fun hcomplete => ?_⟩
  cases hcomplete.length_eq

end Source

end TableTransfer
