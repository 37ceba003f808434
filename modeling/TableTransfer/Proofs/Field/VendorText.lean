import TableTransfer.Inference
import TableTransfer.Proofs.Field.Getter
import TableTransfer.Proofs.Field.Outcome
import TableTransfer.Proofs.Field.RoundTrip

namespace TableTransfer

/-- The columns that a dialect carries as text because of their vendor's type. In DB2 the name of a
decimal with a floating point comes first. -/
inductive VendorText : Vendor → Column → Prop where
  | named {c : Column} : Text.isOneOf Postgres.textTypes c.typeName = true → VendorText .postgres c
  | bits {c : Column} : c.typeNameIs "bit" = true → c.precision ≠ 1 → VendorText .postgres c
  | zonedTimestamp {c : Column} : c.code = Oracle.zonedTimestamp → VendorText .oracle c
  | yearMonth {c : Column} : c.code = Oracle.yearMonthInterval → VendorText .oracle c
  | daySecond {c : Column} : c.code = Oracle.daySecondInterval → VendorText .oracle c
  | rowId {c : Column} : c.code = StandardType.rowId.code → VendorText .oracle c
  | variant {c : Column} : c.code = SqlServer.variant → VendorText .sqlServer c
  | xml {c : Column} : c.code = StandardType.sqlXml.code ∨ c.typeNameIs "XML" = true →
      Db2.isDecFloat c.typeName = false → VendorText .db2 c

/-- The dialect answers for the column in all three questions, and calls for text each time. -/
structure Vendor.Carries (vendor : Vendor) (c : Column) : Prop where
  type?_eq : vendor.type? c = some .string
  read?_eq (ordinal : Nat) (cur : Cursor) :
    vendor.read? cur .string (c.columnType ordinal) =
      some (Value.ofRead .string (cur.string ordinal))
  write?_eq (name text : String) (ordinal : Nat) :
    (vendor.write? name (c.columnType ordinal) (.string text) : Option (ParamM Statement Unit)) =
      some ((c.columnType ordinal).bindObject text)

namespace Vendor.Carries

variable {vendor : Vendor} {c : Column} {f : Field}

theorem of_postgres (htext : Postgres.isText c = true)
    (hname : Postgres.isTextName c.typeName = true) : Carries .postgres c where
  type?_eq := if_pos (by rw [htext, Bool.true_or])
  read?_eq _ _ := if_pos (by rw [Column.columnType, hname, Bool.true_or])
  write?_eq _ _ _ := if_pos hname

theorem of_oracle (htext : Oracle.isTextCode c.code = true)
    (hfloat : c.code ≠ Oracle.binaryFloat) (hdouble : c.code ≠ Oracle.binaryDouble)
    (hlocal : c.code ≠ Oracle.localTimestamp) (hfile : c.code ≠ Oracle.externalFile) :
    Carries .oracle c where
  type?_eq := by
    change Oracle.type? c = _
    rw [Oracle.type?, if_neg hfloat, if_neg hdouble, if_neg hlocal, if_neg hfile,
      if_pos (by rw [htext, Bool.true_or])]
  read?_eq _ _ := (if_neg hlocal).trans ((if_neg hfile).trans (if_pos htext))
  write?_eq _ _ _ := (if_neg hfile).trans (if_pos htext)

theorem of_sqlServer (hcode : c.code = SqlServer.variant) : Carries .sqlServer c where
  type?_eq := if_pos (by rw [decide_eq_true hcode, Bool.or_true])
  read?_eq _ _ := by
    have hne : c.code ≠ SqlServer.offsetTimestamp := by
      rw [hcode]
      decide
    exact (if_neg hne).trans (if_pos hcode)
  write?_eq _ _ _ := by
    have hne : c.code ≠ SqlServer.offsetTimestamp := by
      rw [hcode]
      decide
    exact (if_neg hne).trans (if_pos hcode)

theorem of_db2 (hxml : Db2.isXml c.code c.typeName = true)
    (hfloat : Db2.isDecFloat c.typeName = false) : Carries .db2 c where
  type?_eq := by
    change Db2.type? c = _
    rw [Db2.type?, hfloat, if_neg Bool.false_ne_true, if_pos (by rw [hxml, Bool.true_or])]
  read?_eq _ _ := if_pos hxml
  write?_eq _ _ _ := if_pos hxml

theorem of_vendorText (h : VendorText vendor c) : vendor.Carries c := by
  cases h with
  | named hname =>
      apply of_postgres
      · rw [Postgres.isText, hname, Bool.true_or]
      · rw [Postgres.isTextName, hname, Bool.true_or]
  | bits hbit hwidth =>
      apply of_postgres
      · rw [Postgres.isText, hbit, Bool.true_and, bne_iff_ne.2 hwidth, Bool.or_true]
      · rw [Postgres.isTextName, ← Column.typeNameIs, hbit, Bool.or_true]
  | zonedTimestamp hcode | yearMonth hcode | daySecond hcode | rowId hcode =>
      apply of_oracle
      all_goals
        rw [hcode]
        decide
  | variant hcode => exact of_sqlServer hcode
  | xml hxml hfloat =>
      refine of_db2 ?_ hfloat
      rw [Db2.isXml, Bool.or_eq_true, TypeCode.is, beq_iff_eq]
      exact hxml

theorem infer_eq (h : vendor.Carries c) : c.infer vendor = .ok ⟨.string, c.nullable⟩ := by
  rw [Column.infer, h.type?_eq]
  rfl

theorem read_eq (h : vendor.Carries c) (hshape : f.type.shape = .string) {cur : Cursor}
    {ordinal : Nat} {p : SqlValue} {text : String} (hp : cur.value ordinal = .ok p)
    (hnull : p.isNull = false) (htext : p.asString? = some text) :
    f.read vendor cur (c.columnType ordinal) = .ok (.string text) := by
  have hreads : c.ReadsBy vendor .string .string Cursor.string := .of_answered h.read?_eq
  exact hreads.read_of_given hshape (Cursor.read_of_value hp hnull htext "string") Value.noConfusion

theorem binds (h : vendor.Carries c) (i : Nat) (text : String) :
    f.Binds vendor (c.columnType (i + 1)) (.string text) (.object c.typeName text) :=
  Field.binds_of_answered (Nat.succ_ne_zero i) rfl (h.write?_eq f.name text (i + 1))

end Vendor.Carries

namespace Column

/-- A column that is carried as text is inferred as text. A text in it, plain or under any type, is
read as it is, and written as one parameter under the column's type, which is read as the text
again. -/
theorem vendorText_roundTrips {vendor : Vendor} {c : Column} (h : VendorText vendor c) {f : Field}
    (hshape : f.type.shape = .string) (i : Nat) (text : String) :
    c.infer vendor = .ok ⟨.string, c.nullable⟩ ∧
      (∀ (cur : Cursor) (p : SqlValue), cur.value (i + 1) = .ok p →
        (p = .text text ∨ ∃ typeName, p = .object typeName text) →
          f.read vendor cur (c.columnType (i + 1)) = .ok (.string text)) ∧
      f.Binds vendor (c.columnType (i + 1)) (.string text) (.object c.typeName text) ∧
      ∀ cur : Cursor, cur.value (i + 1) = .ok (.object c.typeName text) →
        f.read vendor cur (c.columnType (i + 1)) = .ok (.string text) := by
  have hcarries := Vendor.Carries.of_vendorText h
  refine ⟨hcarries.infer_eq, ?_, hcarries.binds i text, ?_⟩
  · rintro cur p hp (rfl | ⟨typeName, rfl⟩)
    · exact hcarries.read_eq hshape hp rfl rfl
    · exact hcarries.read_eq hshape hp rfl rfl
  · exact fun cur hp => hcarries.read_eq hshape hp rfl rfl

def maskColumn : Column :=
  { name := "MASK", code := StandardType.bit.code, typeName := "Bit", precision := 8 }

theorem vendorText_roundTrips_mask :
    VendorText .postgres maskColumn ∧
      (Field.mk "MASK" ⟨.string, true⟩).Binds .postgres (maskColumn.columnType 1)
        (.string "10101010") (.object "Bit" "10101010") ∧
      (Field.mk "MASK" ⟨.string, true⟩).read .postgres
        (.single [maskColumn] [.object "varbit" "10101010"]) (maskColumn.columnType 1) =
          .ok (.string "10101010") := by
  have hbits : VendorText .postgres maskColumn := .bits rfl (by decide)
  obtain ⟨-, hreads, hbinds, -⟩ :=
    vendorText_roundTrips hbits (f := ⟨"MASK", ⟨.string, true⟩⟩) rfl 0 "10101010"
  exact ⟨hbits, hbinds, hreads _ _ rfl (.inr ⟨"varbit", rfl⟩)⟩

end Column

end TableTransfer
