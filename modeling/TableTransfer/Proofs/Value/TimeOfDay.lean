import TableTransfer.Proofs.Value.Temporal

namespace TableTransfer

namespace Time

def truncate (u : TimeUnit) (t : Time) : Time where
  second := t.second
  nano := t.nano / u.nanos * u.nanos
  second_lt := t.second_lt
  nano_lt := Nat.lt_of_le_of_lt (Nat.div_mul_le_self _ _) t.nano_lt

theorem IsPlain.nanos_eq {t : Time} (h : t.IsPlain) :
    t.nanos = t.second * 1000000000 + t.nano := by
  rw [IsPlain] at h
  rw [nanos]
  omega

end Time

namespace Value

theorem timeOfMicros?_eq_some_iff {n : Int} {t : Time} :
    timeOfMicros? n = some t ↔
      0 ≤ n ∧ (t.second : Int) = n / 1000000 % 0x100000000 ∧ (t.nano : Int) = n % 1000000 * 1000 := by
  rw [timeOfMicros?]
  by_cases hn : n < 0
  · simp only [hn, if_true, reduceCtorEq, false_iff]
    omega
  · rw [if_neg hn, Time.ofSecond?_eq_some_iff]
    omega

theorem isSome_timeOfMicros?_iff {n : Int} :
    (timeOfMicros? n).isSome = true ↔ 0 ≤ n ∧ n / 1000000 % 0x100000000 < 86400 := by
  rw [Option.isSome_iff_exists]
  constructor
  · rintro ⟨t, ht⟩
    have hsecond := t.second_lt
    obtain ⟨h0, ht, -⟩ := timeOfMicros?_eq_some_iff.1 ht
    omega
  · rintro ⟨h0, h⟩
    have hsecond : (n / 1000000 % 0x100000000).toNat < 86400 := by omega
    have hnano : (n % 1000000).toNat * 1000 < 2000000000 := by omega
    refine ⟨⟨_, _, hsecond, hnano⟩, timeOfMicros?_eq_some_iff.2 ⟨h0, ?_, ?_⟩⟩
    · exact Int.toNat_of_nonneg (by omega)
    · dsimp only
      omega

/-- A day or more, of whose seconds the last 32 bits are less than a day. -/
def WrapsToDay (micros : Int) : Prop :=
  86400000000 ≤ micros ∧ micros / 1000000 % 0x100000000 < 86400

theorem not_wrapsToDay_of_lt {n : Int} (h : n < 86400000000) : ¬WrapsToDay n :=
  fun hwraps => Int.not_le.2 h hwraps.1

theorem isSome_timeOfMicros?_iff_of_not_wraps {n : Int} (h : ¬WrapsToDay n) :
    (timeOfMicros? n).isSome = true ↔ 0 ≤ n ∧ n < 86400000000 := by
  rw [WrapsToDay] at h
  rw [isSome_timeOfMicros?_iff]
  omega

theorem nanos_of_timeOfMicros? {n : Int} {t : Time} (h : ¬WrapsToDay n)
    (ht : timeOfMicros? n = some t) : (t.nanos : Int) = n * 1000 := by
  have hday := ((isSome_timeOfMicros?_iff_of_not_wraps h).1 (Option.isSome_of_eq_some ht)).2
  obtain ⟨h0, hsecond, hnano⟩ := timeOfMicros?_eq_some_iff.1 ht
  rw [Time.nanos]
  omega

/-- A value that counts units since midnight is decoded just if they are those of one day, and the
time it is decoded to is encoded as the value. -/
structure DecodesDay (v : Value) (u : TimeUnit) (n : Int) : Prop where
  isSome_iff : v.asTime?.isSome = true ↔ 0 ≤ n ∧ n < 86400 * u.perSecond
  encoded : ∀ t, v.asTime? = some t → ofTime u t = v

theorem DecodesDay.exists_time {v : Value} {u : TimeUnit} {n : Int} (h : v.DecodesDay u n)
    (h0 : 0 ≤ n) (hday : n < 86400 * u.perSecond) :
    ∃ t, v.asTime? = some t ∧ ofTime u t = v := by
  obtain ⟨t, ht⟩ := Option.isSome_iff_exists.1 (h.isSome_iff.2 ⟨h0, hday⟩)
  exact ⟨t, ht, h.encoded t ht⟩

theorem not_wrapsToDay_int (n : Int32) : ¬WrapsToDay (n.toInt * 1000) := by
  have hlow := n.le_toInt
  have hhigh := n.toInt_lt
  rw [WrapsToDay]
  omega

theorem decodesDay_int (n : Int32) : (Value.int n).DecodesDay .millis n.toInt where
  isSome_iff := by
    rw [asTime?, isSome_timeOfMicros?_iff_of_not_wraps (not_wrapsToDay_int n)]
    dsimp only [TimeUnit.perSecond]
    omega
  encoded := by
    intro t ht
    have hnanos := nanos_of_timeOfMicros? (not_wrapsToDay_int n) ht
    have hcount : ((t.nanos / 1000000 : Nat) : Int) = n.toInt := by omega
    rw [ofTime, hcount, Int32.ofInt_toInt]

theorem decodesDay_long {n : Int64} (h : ¬WrapsToDay n.toInt) :
    (Value.long n).DecodesDay .micros n.toInt where
  isSome_iff := isSome_timeOfMicros?_iff_of_not_wraps h
  encoded := by
    intro t ht
    have hnanos := nanos_of_timeOfMicros? h ht
    have hcount : ((t.nanos / 1000 : Nat) : Int) = n.toInt := by omega
    rw [ofTime, hcount, Int64.ofInt_toInt]

theorem not_decodesDay_long {n : Int64} (h : WrapsToDay n.toInt) :
    ¬(Value.long n).DecodesDay .micros n.toInt := by
  intro hdecodes
  obtain ⟨hlong, hsecond⟩ := h
  have hsome : (Value.long n).asTime?.isSome = true :=
    isSome_timeOfMicros?_iff.2 ⟨by omega, hsecond⟩
  have hday := (hdecodes.isSome_iff.1 hsome).2
  dsimp only [TimeUnit.perSecond] at hday
  omega

theorem asTime?_ofTime {t : Time} (h : t.IsPlain) (u : TimeUnit) :
    (ofTime u t).asTime? = some (t.truncate u) := by
  have hsecond := t.second_lt
  have hnanos := h.nanos_eq
  rw [Time.IsPlain] at h
  cases u with
  | millis =>
      have hword : (Int32.ofInt (t.nanos / 1000000 : Nat)).toInt = (t.nanos / 1000000 : Nat) :=
        Int32.toInt_ofInt_of_le (by omega) (by omega)
      rw [ofTime, asTime?, hword, timeOfMicros?_eq_some_iff]
      dsimp only [Time.truncate, TimeUnit.nanos]
      omega
  | micros =>
      have hword : (Int64.ofInt (t.nanos / 1000 : Nat)).toInt = (t.nanos / 1000 : Nat) :=
        Int64.toInt_ofInt_of_le (by omega) (by omega)
      rw [ofTime, asTime?, hword, timeOfMicros?_eq_some_iff]
      dsimp only [Time.truncate, TimeUnit.nanos]
      omega

/-- Times of day are encoded up to the unit. Milliseconds are decoded just within a day, and so are
microseconds but for those of which the seconds, cut to 32 bits, fall into a day again. -/
theorem decodesDay_iff (millis : Int32) (micros : Int64) (u : TimeUnit) (t : Time) :
    (Value.int millis).DecodesDay .millis millis.toInt ∧
      ((Value.long micros).DecodesDay .micros micros.toInt ↔ ¬WrapsToDay micros.toInt) ∧
      (t.IsPlain → (ofTime u t).asTime? = some (t.truncate u)) := by
  refine ⟨decodesDay_int millis, ?_, fun h => asTime?_ofTime h u⟩
  constructor
  · intro hdecodes hwraps
    exact not_decodesDay_long hwraps hdecodes
  · exact decodesDay_long

theorem decodesDay_iff_last_nano :
    (ofTime .millis ⟨86399, 999999999, by decide, by decide⟩).asTime? =
      some ⟨86399, 999000000, by decide, by decide⟩ := by
  have hplain : Time.IsPlain ⟨86399, 999999999, by decide, by decide⟩ := by
    rw [Time.IsPlain]
    decide
  exact (decodesDay_iff 0 0 .millis _).2.2 hplain

/-- As many seconds as a word of 32 bits does not hold are taken for midnight. -/
theorem midnight_of_wrapped_seconds :
    (Value.long 4294967296000000).asTime? = some .midnight ∧
      ¬(Value.long 4294967296000000).DecodesDay .micros 4294967296000000 := by
  refine ⟨rfl, ?_⟩
  intro h
  have hday := (h.isSome_iff.1 rfl).2
  revert hday
  decide

end Value

end TableTransfer
