import TableTransfer.Proofs.Calendar.Spaced
import TableTransfer.Proofs.Field.Getter
import TableTransfer.Proofs.Field.Outcome
import TableTransfer.Proofs.Field.RoundTrip

namespace TableTransfer

namespace SqlServer

theorem readsBy_offsetTimestamp {c : Column} (hcode : c.code = offsetTimestamp) :
    c.ReadsBy .sqlServer .string (fun t : OffsetTimestamp => .string t.spacedText)
      Cursor.zonedTimestamp :=
  .of_answered fun _ _ => if_pos hcode

/-- A text of the notation that reading gives is never taken for one of internet dates. -/
theorem offsetTimestampOf_spacedText (field : String) {t : OffsetTimestamp}
    (hminutes : t.offset % 60 = 0) (hlocal : t.HasLocalDay) :
    offsetTimestampOf field t.spacedText = .ok (.zonedTimestamp t.shown) := by
  rw [offsetTimestampOf, t.trimmed_spacedText,
    OffsetTimestamp.ofSpacedText?_spacedText hminutes hlocal]

theorem binds_spacedText {c : Column} (hcode : c.code = offsetTimestamp) (f : Field) (i : Nat)
    {t : OffsetTimestamp} (hminutes : t.offset % 60 = 0) (hlocal : t.HasLocalDay) :
    f.Binds .sqlServer (c.columnType (i + 1)) (.string t.spacedText)
      (.zonedTimestamp t.shown) := by
  have hwrite : (Vendor.sqlServer.write? f.name (c.columnType (i + 1)) (.string t.spacedText) :
      Option (ParamM Statement Unit)) =
        some ((c.columnType (i + 1)).bind (.zonedTimestamp t.shown)) := by
    refine (if_pos hcode).trans ?_
    rw [offsetTimestampOf_spacedText f.name hminutes hlocal]
    rfl
  exact Field.binds_of_answered (Nat.succ_ne_zero i) rfl hwrite

end SqlServer

namespace Column

/-- A moment with an offset of whole minutes, read as text and written back, is the same instant at
the same offset. It is the same value as well, with its leap second, unless its nanoseconds go on
beyond a second that is not the last of a minute. -/
theorem offsetText_roundTrips {c : Column} (hcode : c.code = SqlServer.offsetTimestamp) {f : Field}
    (hshape : f.type.shape = .string) (i : Nat) {t : OffsetTimestamp}
    (hminutes : t.offset % 60 = 0) (hlocal : t.HasLocalDay) :
    (∀ (cur : Cursor) (p : SqlValue), cur.value (i + 1) = .ok p → p.asZonedTimestamp? = some t →
        f.read .sqlServer cur (c.columnType (i + 1)) = .ok (.string t.spacedText)) ∧
      ∃ r : OffsetTimestamp,
        f.Binds .sqlServer (c.columnType (i + 1)) (.string t.spacedText) (.zonedTimestamp r) ∧
          r.offset = t.offset ∧ r.utc.sinceEpoch = t.utc.sinceEpoch ∧
          (t.utc.time.IsPlain ∨ t.utc.time.second % 60 = 59 → r = t) := by
  refine ⟨?_, t.shown, SqlServer.binds_spacedText hcode f i hminutes hlocal, rfl,
    t.utc.sinceEpoch_shown, ?_⟩
  · intro cur p hp ht
    have hnull : p.isNull = false := by
      cases p with
      | null _ => cases ht
      | _ => rfl
    exact (SqlServer.readsBy_offsetTimestamp hcode).read_of_given hshape
      (Cursor.read_of_value hp hnull ht "timestamp with time zone") Value.noConfusion
  · intro hreal
    rw [OffsetTimestamp.shown, Timestamp.shown, Time.shown_eq hreal]

def idesOfMarch : OffsetTimestamp :=
  ⟨⟨⟨-735159, by decide, by decide⟩, ⟨1799, 1999999999, by decide, by decide⟩⟩, -1800,
    by decide, by decide⟩

theorem offsetText_roundTrips_idesOfMarch :
    idesOfMarch.spacedText = "-0043-03-15 23:59:60.999999999 -00:30" ∧
      (Field.mk "SEEN" ⟨.string, true⟩).Binds .sqlServer
        ⟨"SEEN", "datetimeoffset", SqlServer.offsetTimestamp, 1⟩
        (.string "-0043-03-15 23:59:60.999999999 -00:30") (.zonedTimestamp idesOfMarch) := by
  have htext : idesOfMarch.spacedText = "-0043-03-15 23:59:60.999999999 -00:30" := rfl
  have hlocal : idesOfMarch.HasLocalDay := ⟨⟨-735160, by decide, by decide⟩, rfl⟩
  obtain ⟨-, r, hbinds, -, -, hsame⟩ := offsetText_roundTrips
    (c := { name := "SEEN", code := SqlServer.offsetTimestamp, typeName := "datetimeoffset" }) rfl
    (f := ⟨"SEEN", ⟨.string, true⟩⟩) rfl 0 rfl hlocal
  rw [hsame (.inr rfl), htext] at hbinds
  exact ⟨htext, hbinds⟩

end Column

end TableTransfer
