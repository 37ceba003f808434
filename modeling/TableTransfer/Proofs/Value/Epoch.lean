import TableTransfer.Proofs.Value.TimeOfDay

namespace TableTransfer

namespace Timestamp

/-- Nanoseconds since the start of 1970. -/
def sinceEpoch (t : Timestamp) : Int := t.epochSecond * 1000000000 + t.time.nano

/-- The moment at which the unit began that the moment falls in. -/
def floor (u : TimeUnit) (t : Timestamp) : Timestamp := { t with time := t.time.truncate u }

/-- Seconds are whole and nanoseconds count on from them, so that a moment before 1970 is rounded
down as well when its nanoseconds are. -/
theorem sinceEpoch_floor (u : TimeUnit) (t : Timestamp) :
    (t.floor u).sinceEpoch = t.sinceEpoch / u.nanos * u.nanos := by
  cases u with
  | millis | micros =>
      dsimp only [sinceEpoch, floor, epochSecond, Time.truncate, TimeUnit.nanos]
      omega

theorem ofEpoch?_epochSecond (t : Timestamp) : ofEpoch? t.epochSecond t.time.nano = some t := by
  have hsecond := t.time.second_lt
  have hday : t.epochSecond / 86400 = t.date.day := by
    rw [epochSecond]
    omega
  have hclock : (t.epochSecond % 86400).toNat = t.time.second := by
    rw [epochSecond]
    omega
  rw [ofEpoch?, hday, hclock, Date.ofDay?_day, Time.ofSecond?_second]
  rfl

theorem count_div_mod {t : Timestamp} (h : t.time.IsPlain) (u : TimeUnit) :
    t.count u / u.perSecond = t.epochSecond ∧
      t.count u % u.perSecond = (t.time.nano / u.nanos : Nat) := by
  rw [Time.IsPlain] at h
  cases u with
  | millis | micros =>
      dsimp only [count, TimeUnit.perSecond, TimeUnit.nanos]
      omega

theorem ofCount?_count {t : Timestamp} (h : t.time.IsPlain) (u : TimeUnit) :
    ofCount? u (t.count u) = some (t.floor u) := by
  obtain ⟨hsecond, hunits⟩ := count_div_mod h u
  rw [ofCount?, hsecond, hunits, Int.toNat_natCast]
  exact ofEpoch?_epochSecond (t.floor u)

theorem toInt_count (t : Timestamp) (u : TimeUnit) :
    (Int64.ofInt (t.count u)).toInt = t.count u := by
  have hfirst := t.date.first_le
  have hlast := t.date.le_last
  have hsecond := t.time.second_lt
  have hnano := t.time.nano_lt
  have hword : -0x8000000000000000 ≤ t.count u ∧ t.count u < 0x8000000000000000 := by
    cases u with
    | millis | micros =>
        dsimp only [count, epochSecond, TimeUnit.perSecond, TimeUnit.nanos]
        omega
  exact Int64.toInt_ofInt_of_le hword.1 hword.2

end Timestamp

namespace Value

theorem asDate?_ofDate (d : Date) : (ofDate d).asDate? = some d := by
  have hfirst := d.first_le
  have hlast := d.le_last
  have hword : (Int32.ofInt d.day).toInt = d.day :=
    Int32.toInt_ofInt_of_le (by omega) (by omega)
  rw [ofDate, asDate?, hword, Date.ofDay?_day]

theorem asTimestamp?_ofTimestamp {t : Timestamp} (h : t.time.IsPlain) (u : TimeUnit) :
    (ofTimestamp u t).asTimestamp? u = some (t.floor u) := by
  rw [ofTimestamp, asTimestamp?, Timestamp.toInt_count, Timestamp.ofCount?_count h]

/-- Dates are kept by their numbers and moments are rounded down to the unit; numbers that are
decoded to a date or moment are kept. -/
theorem epoch_roundTrips (d : Date) (days : Int32) (u : TimeUnit) (t : Timestamp) (n : Int64) :
    (ofDate d).asDate? = some d ∧
      ((Value.int days).asDate? = some d → ofDate d = .int days) ∧
      (t.time.IsPlain →
        (ofTimestamp u t).asTimestamp? u = some (t.floor u) ∧
          (t.floor u).sinceEpoch = t.sinceEpoch / u.nanos * u.nanos) ∧
      ((Value.long n).asTimestamp? u = some t → ofTimestamp u t = .long n) := by
  refine ⟨asDate?_ofDate d, ofDate_of_asDate?, ?_, ofTimestamp_of_asTimestamp?⟩
  intro h
  exact ⟨asTimestamp?_ofTimestamp h u, t.sinceEpoch_floor u⟩

theorem epoch_roundTrips_last_nano :
    ∃ t : Timestamp, t.sinceEpoch = -1 ∧ ofTimestamp .millis t = .long (-1) ∧
      (t.floor .millis).sinceEpoch = -1000000 ∧
      (ofTimestamp .millis t).asTimestamp? .millis = some (t.floor .millis) := by
  have hplain : Time.IsPlain ⟨86399, 999999999, by decide, by decide⟩ := by
    rw [Time.IsPlain]
    decide
  obtain ⟨hread, -⟩ := (epoch_roundTrips ⟨-1, by decide, by decide⟩ (-1) .millis
    ⟨⟨-1, by decide, by decide⟩, ⟨86399, 999999999, by decide, by decide⟩⟩ (-1)).2.2.1 hplain
  exact ⟨_, rfl, rfl, rfl, hread⟩

end Value

end TableTransfer
