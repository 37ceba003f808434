import TableTransfer.Value.Temporal

namespace TableTransfer

namespace Time

theorem ofSecond?_second (t : Time) : ofSecond? t.second t.nano = some t :=
  dif_pos ⟨t.second_lt, t.nano_lt⟩

theorem ofSecond?_eq_some_iff {second nano : Nat} {t : Time} :
    ofSecond? second nano = some t ↔ t.second = second ∧ t.nano = nano := by
  constructor
  · intro h
    simp only [ofSecond?] at h
    split at h
    · cases h
      exact ⟨rfl, rfl⟩
    · cases h
  · rintro ⟨rfl, rfl⟩
    exact ofSecond?_second t

end Time

namespace Timestamp

theorem ofEpoch?_eq_some {second : Int} {nano : Nat} {t : Timestamp}
    (h : ofEpoch? second nano = some t) : t.epochSecond = second ∧ t.time.nano = nano := by
  simp only [ofEpoch?] at h
  obtain ⟨date, hdate, h⟩ := Option.bind_eq_some_iff.1 h
  obtain ⟨time, htime, h⟩ := Option.bind_eq_some_iff.1 h
  obtain rfl := Option.some.inj h
  have hday := Date.ofDay?_eq_some_iff.1 hdate
  obtain ⟨hsecond, hnano⟩ := Time.ofSecond?_eq_some_iff.1 htime
  refine ⟨?_, hnano⟩
  dsimp only [epochSecond]
  omega

theorem count_of_ofCount? {u : TimeUnit} {n : Int} {t : Timestamp} (h : ofCount? u n = some t) :
    t.count u = n := by
  obtain ⟨hsecond, hnano⟩ := ofEpoch?_eq_some h
  simp only [count]
  rw [hsecond, hnano]
  cases u with
  | millis =>
      dsimp only [TimeUnit.perSecond, TimeUnit.nanos]
      omega
  | micros =>
      dsimp only [TimeUnit.perSecond, TimeUnit.nanos]
      omega

end Timestamp

namespace Value

theorem ofDate_of_asDate? {v : Value} {d : Date} (h : v.asDate? = some d) : ofDate d = v := by
  cases v with
  | int days =>
      have hday : d.day = days.toInt := Date.ofDay?_eq_some_iff.1 h
      rw [ofDate, hday, Int32.ofInt_toInt]
  | _ => cases h

theorem ofTimestamp_of_asTimestamp? {u : TimeUnit} {v : Value} {t : Timestamp}
    (h : v.asTimestamp? u = some t) : ofTimestamp u t = v := by
  cases v with
  | long n => rw [ofTimestamp, Timestamp.count_of_ofCount? h, Int64.ofInt_toInt]
  | _ => cases h

end Value

end TableTransfer
