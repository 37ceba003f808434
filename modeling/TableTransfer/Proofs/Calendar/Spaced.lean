import TableTransfer.Calendar.Printer
import TableTransfer.Calendar.Reader
import TableTransfer.Proofs.Calendar.Civil
import TableTransfer.Proofs.Text.Digits
import TableTransfer.Proofs.Value.Epoch

namespace TableTransfer

namespace Calendar

open Text

theorem number?_padded {width n : Nat} (hwidth : width ≠ 0) (h : n < tenTo width)
    (rest : List Char) : number? width (padded width n ++ rest) = some (n, rest) := by
  have hdigits : ∀ c ∈ padded width n, c.isDigit = true := fun c hc => isDigit_of_mem_padded hc
  have hlength := length_padded hwidth h
  have htake : (padded width n ++ rest).take width = padded width n := by
    rw [List.take_append_of_le_length hlength.ge, List.take_of_length_le hlength.le]
  simp only [number?]
  rw [trimStart_of_isDigit hdigits (padded_ne_nil width n), htake,
    List.takeWhile_eq_self_iff.2 hdigits, List.isEmpty_eq_false_iff.2 (padded_ne_nil width n),
    if_neg Bool.false_ne_true, ofDigits_padded, List.drop_left]

theorem signed_padded (sign : Int) (n : Nat) {rest : List Char} (hrest : Stops rest) :
    year?.signed sign (padded 4 n ++ rest) = some (sign * n, rest) := by
  have hdigits : ∀ c ∈ padded 4 n, c.isDigit = true := fun c hc => isDigit_of_mem_padded hc
  simp only [year?.signed]
  rw [takeWhile_isDigit_append hdigits hrest, List.isEmpty_eq_false_iff.2 (padded_ne_nil 4 n),
    if_neg Bool.false_ne_true, ofDigits_padded, List.drop_left]

theorem year?_of_isDigit {ds rest : List Char} (hds : ∀ c ∈ ds, c.isDigit = true) (hne : ds ≠ []) :
    year? (ds ++ rest) = (number? 4 (ds ++ rest)).map fun (n, rest) => (n, rest) := by
  simp only [year?]
  rw [trimStart_of_isDigit hds hne]
  obtain ⟨c, ds, rfl⟩ := List.exists_cons_of_ne_nil hne
  have hc := hds c List.mem_cons_self
  split
  · next heq =>
    obtain ⟨rfl, -⟩ := List.cons.inj heq
    exact absurd hc (by decide)
  · next heq =>
    obtain ⟨rfl, -⟩ := List.cons.inj heq
    exact absurd hc (by decide)
  · rfl

theorem year?_yearText (year : Int) {rest : List Char} (hrest : Stops rest) :
    year? (yearText year ++ rest) = some (year, rest) := by
  rw [yearText]
  split
  · next hplain =>
    have hbound : year.toNat < tenTo 4 := show year.toNat < 10000 by omega
    rw [year?_of_isDigit (fun c hc => isDigit_of_mem_padded hc) (padded_ne_nil 4 _),
      number?_padded (by decide) hbound]
    change some ((year.toNat : Int), rest) = _
    rw [Int.toNat_of_nonneg hplain.1]
  · split
    · next hneg =>
      change year?.signed (-1) (padded 4 year.natAbs ++ rest) = _
      rw [signed_padded (-1) _ hrest]
      congr 2
      omega
    · next hpos =>
      change year?.signed 1 (padded 4 year.natAbs ++ rest) = _
      rw [signed_padded 1 _ hrest]
      congr 2
      omega

theorem mark?_cons (c : Char) (cs : List Char) : mark? c (c :: cs) = some cs := if_pos rfl

theorem civil?_dayText (day : Int) (rest : List Char) :
    civil? .tight (dayText day ++ rest) = (Date.ofDay? day).map (·, rest) := by
  obtain ⟨-, hmonth, -, hday⟩ := CivilDate.isProper_ofDay day
  have hlength := CivilDate.daysInMonth_le (CivilDate.ofDay day).year (CivilDate.ofDay day).month
  have hmonth' : (CivilDate.ofDay day).month < tenTo 2 := lt_of_le_of_lt hmonth (by decide)
  have hday' : (CivilDate.ofDay day).day < tenTo 2 :=
    lt_of_le_of_lt (hday.trans hlength) (by decide)
  have hyear (rest : List Char) := year?_yearText (CivilDate.ofDay day).year
    (stops_cons (show '-'.isDigit = false from rfl) rest)
  have hdate : Date.ofCivil? ⟨(CivilDate.ofDay day).year, (CivilDate.ofDay day).month,
      (CivilDate.ofDay day).day⟩ = Date.ofDay? day := Date.ofCivil?_ofDay day
  simp only [civil?, dayText, List.append_assoc, List.cons_append, Option.bind_eq_bind,
    Spacing.skip, hyear, mark?_cons, number?_padded two_ne_zero hmonth',
    number?_padded two_ne_zero hday', Option.bind_some, hdate]
  exact Option.map_eq_bind.symm

theorem fraction?_padded {places n : Nat} (h0 : places ≠ 0) (h9 : places ≤ 9)
    (h : n < tenTo places) (rest : List Char) :
    fraction? ('.' :: (padded places n ++ ' ' :: rest)) =
      some (n * tenTo (9 - places), ' ' :: rest) := by
  have hdigits : ∀ c ∈ padded places n, c.isDigit = true := fun c hc => isDigit_of_mem_padded hc
  have hlength := length_padded h0 h
  have hstops : Stops (' ' :: rest) := stops_cons rfl rest
  simp only [fraction?]
  rw [takeWhile_isDigit_append hdigits hstops, dropWhile_isDigit_append hdigits hstops,
    List.take_of_length_le (hlength.trans_le h9), List.isEmpty_eq_false_iff.2 (padded_ne_nil _ n),
    if_neg Bool.false_ne_true, ofDigits_padded, hlength]

theorem fraction?_fractionText {nano : Nat} (h : nano < 1000000000) (rest : List Char) :
    fraction? (fractionText nano ++ ' ' :: rest) = some (nano, ' ' :: rest) := by
  rw [fractionText]
  split
  · next hzero =>
    rw [hzero]
    rfl
  split
  · next hmillis =>
    rw [List.cons_append, fraction?_padded (by decide) (by decide) (show _ < 1000 by omega),
      show tenTo (9 - 3) = 1000000 from rfl, Nat.div_mul_cancel (Nat.dvd_of_mod_eq_zero hmillis)]
  split
  · next hmicros =>
    rw [List.cons_append, fraction?_padded (by decide) (by decide) (show _ < 1000000 by omega),
      show tenTo (9 - 6) = 1000 from rfl, Nat.div_mul_cancel (Nat.dvd_of_mod_eq_zero hmicros)]
  · rw [List.cons_append, fraction?_padded (by decide) (by decide) h,
      show tenTo (9 - 9) = 1 from rfl, Nat.mul_one]

theorem clock?_clockText {second nano : Nat} (hsecond : second < 86400) (hnano : nano < 2000000000)
    (rest : List Char) :
    clock? .tight (clockText second nano ++ ' ' :: rest) =
      (timeOf? (second / 3600) (second / 60 % 60) (second % 60 + nano / 1000000000)
        (nano % 1000000000)).map (·, ' ' :: rest) := by
  have hhour : second / 3600 < tenTo 2 := show _ < 100 by omega
  have hminute : second / 60 % 60 < tenTo 2 := show _ < 100 by omega
  have hshown : second % 60 + nano / 1000000000 < tenTo 2 := show _ < 100 by omega
  simp only [clock?, clockText, List.append_assoc, List.cons_append, Option.bind_eq_bind,
    Spacing.skip, mark?_cons, number?_padded two_ne_zero hhour, number?_padded two_ne_zero hminute,
    number?_padded two_ne_zero hshown, Option.bind_some,
    fraction?_fractionText (Nat.mod_lt nano (by decide))]
  exact Option.map_eq_bind.symm

theorem clock?_blank (spacing : Spacing) (cs : List Char) :
    clock? spacing (' ' :: cs) = clock? spacing cs := by
  have hnumber : number? 2 (' ' :: cs) = number? 2 cs := by
    simp only [number?]
    rw [show trimStart (' ' :: cs) = trimStart cs from rfl]
  rw [clock?, clock?, hnumber]

theorem exists_padded_two {n : Nat} (h : n < 100) : ∃ a b : Char, padded 2 n = [a, b] ∧
    a.isDigit = true ∧ b.isDigit = true ∧ ofDigits [a, b] = n := by
  obtain ⟨a, b, heq⟩ := List.length_eq_two.1 (length_padded (by decide) (show n < tenTo 2 from h))
  have ha : a ∈ padded 2 n := by rw [heq]; exact List.mem_cons_self
  have hb : b ∈ padded 2 n := by rw [heq]; exact List.mem_cons_of_mem a List.mem_cons_self
  exact ⟨a, b, heq, isDigit_of_mem_padded ha, isDigit_of_mem_padded hb, heq ▸ ofDigits_padded 2 n⟩

theorem offset?_pairs {a b c d : Char} (ha : a.isDigit = true) (hb : b.isDigit = true)
    (hc : c.isDigit = true) (hd : d.isDigit = true) (htens : digitValue c < 6) {mark : Char}
    {sign : Int} (hmark : mark = '+' ∧ sign = 1 ∨ mark = '-' ∧ sign = -1) (rest : List Char) :
    offset? (' ' :: mark :: a :: b :: ':' :: c :: d :: rest) =
      some (sign * (ofDigits [a, b] * 3600 + ofDigits [c, d] * 60 : Nat), rest) := by
  have hcolon : c ≠ ':' := by
    rintro rfl
    exact absurd hc (by decide)
  have hskip : (':' :: c :: d :: rest).dropWhile (fun c => c == ':' || isBlank c) =
      c :: d :: rest := by
    rw [List.dropWhile_cons_of_pos (by simp), List.dropWhile_cons_of_neg]
    simp [hcolon, isBlank_of_isDigit hc]
  have hdigits : (a.isDigit && b.isDigit && c.isDigit && d.isDigit && digitValue c < 6) = true := by
    simp [ha, hb, hc, hd, htens]
  have htrim : trimStart (' ' :: mark :: a :: b :: ':' :: c :: d :: rest) =
      mark :: a :: b :: ':' :: c :: d :: rest := by
    obtain ⟨rfl, -⟩ | ⟨rfl, -⟩ := hmark
    all_goals rfl
  rw [offset?, htrim]
  obtain ⟨rfl, rfl⟩ | ⟨rfl, rfl⟩ := hmark
  all_goals
    simp only [Option.bind_eq_bind, Option.bind_some, hskip]
    exact if_pos hdigits

theorem offset?_offsetText {offset : Int} (hminutes : offset % 60 = 0)
    (hlower : -86400 < offset) (hupper : offset < 86400) (rest : List Char) :
    offset? (' ' :: (offsetText offset ++ rest)) = some (offset, rest) := by
  have hround : (offset.natAbs + 30) / 60 = offset.natAbs / 60 := by omega
  obtain ⟨a, b, hhours, ha, hb, hhour⟩ :=
    exists_padded_two (show offset.natAbs / 60 / 60 < 100 by omega)
  obtain ⟨c, d, hmins, hc, hd, hminute⟩ :=
    exists_padded_two (show offset.natAbs / 60 % 60 < 100 by omega)
  have htens : digitValue c < 6 := by
    have hsum : 10 * digitValue c + digitValue d = offset.natAbs / 60 % 60 := by
      rw [← hminute]
      simp [ofDigits]
    omega
  have hread {mark : Char} {sign : Int}
      (hmark : mark = '+' ∧ sign = 1 ∨ mark = '-' ∧ sign = -1) :
      offset? (' ' :: mark :: a :: b :: ':' :: c :: d :: rest) =
        some (sign * offset.natAbs, rest) := by
    rw [offset?_pairs ha hb hc hd htens hmark, hhour, hminute]
    congr 3
    omega
  rw [offsetText, hround, hhours, hmins]
  split
  · next hneg =>
    refine (hread (.inr ⟨rfl, rfl⟩)).trans ?_
    congr 2
    omega
  · next hpos =>
    refine (hread (.inl ⟨rfl, rfl⟩)).trans ?_
    congr 2
    omega

theorem isBlank_of_head?_yearText {year : Int} {rest : List Char} {c : Char}
    (h : c ∈ (yearText year ++ rest).head?) : isBlank c = false := by
  rw [yearText] at h
  split at h
  · rw [List.head?_append_of_ne_nil _ (padded_ne_nil 4 _)] at h
    exact isBlank_of_isDigit (isDigit_of_mem_padded (List.mem_of_mem_head? h))
  · split at h
    · cases h
      decide
    · cases h
      decide

theorem isBlank_of_getLast?_offsetText {offset : Int} {start : List Char} {c : Char}
    (h : c ∈ (start ++ offsetText offset).getLast?) : isBlank c = false := by
  rw [offsetText, ← List.append_assoc, List.append_cons] at h
  exact isBlank_of_isDigit (isDigit_of_getLast?_padded h)

end Calendar

namespace Time

/-- The time that the clock shows. Nanoseconds beyond a second are a leap second at the end of a
minute, and anywhere else they are those of the next second. -/
def shown (t : Time) : Time :=
  if h : 1000000000 ≤ t.nano ∧ t.second % 60 ≠ 59 then
    { second := t.second + 1
      nano := t.nano - 1000000000
      second_lt := by
        have hsecond := t.second_lt
        omega
      nano_lt := (Nat.sub_le ..).trans_lt t.nano_lt }
  else t

variable {t : Time}

theorem shown_eq (h : t.IsPlain ∨ t.second % 60 = 59) : t.shown = t := by
  rw [IsPlain] at h
  exact dif_neg (by omega)

theorem shown_of_leap (hnano : 1000000000 ≤ t.nano) (hsecond : t.second % 60 ≠ 59) :
    t.shown.second = t.second + 1 ∧ t.shown.nano = t.nano - 1000000000 := by
  rw [shown, dif_pos ⟨hnano, hsecond⟩]
  exact ⟨rfl, rfl⟩

theorem ofClock?_eq {hour minute second nano : Nat} (hhour : hour < 24) (hminute : minute < 60)
    (hsecond : second < 60) (hnano : nano < 1000000000 ∨ second = 59)
    (ht : t.second = hour * 3600 + minute * 60 + second ∧ t.nano = nano) :
    ofClock? hour minute second nano = some t := by
  rw [ofClock?, if_pos ⟨hhour, hminute, hsecond, hnano⟩, ← ht.1, ← ht.2, ofSecond?_second]

theorem timeOf?_shown (t : Time) :
    Calendar.timeOf? (t.second / 3600) (t.second / 60 % 60) (t.second % 60 + t.nano / 1000000000)
      (t.nano % 1000000000) = some t.shown := by
  have hsecond := t.second_lt
  have hnano := t.nano_lt
  rw [Calendar.timeOf?]
  by_cases hplain : t.nano < 1000000000
  · rw [if_neg (by omega), shown_eq (.inl hplain)]
    exact ofClock?_eq (by omega) (by omega) (by omega) (by omega) (by omega)
  by_cases hlast : t.second % 60 = 59
  · rw [if_pos (by omega), shown_eq (.inr hlast)]
    exact ofClock?_eq (by omega) (by omega) (by omega) (by omega) (by omega)
  · have hshown := shown_of_leap (not_lt.1 hplain) hlast
    rw [if_neg (by omega)]
    exact ofClock?_eq (by omega) (by omega) (by omega) (by omega) (by omega)

end Time

namespace Timestamp

def shown (t : Timestamp) : Timestamp := { t with time := t.time.shown }

theorem sinceEpoch_shown (t : Timestamp) : t.shown.sinceEpoch = t.sinceEpoch := by
  by_cases h : t.time.IsPlain ∨ t.time.second % 60 = 59
  · rw [shown, Time.shown_eq h]
  · rw [Time.IsPlain] at h
    have hshown := Time.shown_of_leap (t := t.time) (by omega) (by omega)
    dsimp only [sinceEpoch, epochSecond, shown]
    omega

end Timestamp

namespace OffsetTimestamp

def shown (t : OffsetTimestamp) : OffsetTimestamp := { t with utc := t.utc.shown }

def HasLocalDay (t : OffsetTimestamp) : Prop := ∃ d : Date, d.day = t.localSecond / 86400

variable {t : OffsetTimestamp}

theorem trimmed_spacedText (t : OffsetTimestamp) : Text.trimmed t.spacedText = t.spacedText := by
  rw [Text.trimmed, spacedText, render, String.toList_ofList, Text.trim_eq_self]
  · simp only [dayText, List.append_assoc]
    exact fun c hc => Calendar.isBlank_of_head?_yearText hc
  · exact fun c hc => Calendar.isBlank_of_getLast?_offsetText hc

theorem ofLocal?_shown (hminutes : t.offset % 60 = 0) {date : Date} {time : Time}
    (hdate : date.day = t.localSecond / 86400) (hsecond : time.second = t.localSecond % 86400)
    (hnano : time.nano = t.utc.time.nano) :
    ofLocal? ⟨date, time.shown⟩ t.offset = some t.shown := by
  rw [localSecond, Timestamp.epochSecond] at hdate hsecond
  have hsame : time.second % 60 = t.utc.time.second % 60 := by omega
  have hepoch : (⟨date, time.shown⟩ : Timestamp).epochSecond - t.offset = t.utc.shown.epochSecond ∧
      time.shown.nano = t.utc.shown.time.nano := by
    dsimp only [Timestamp.epochSecond, Timestamp.shown]
    by_cases h : t.utc.time.IsPlain ∨ t.utc.time.second % 60 = 59
    · have htime : time.IsPlain ∨ time.second % 60 = 59 := by
        rwa [Time.IsPlain, hnano, hsame]
      rw [Time.shown_eq h, Time.shown_eq htime]
      omega
    · rw [Time.IsPlain] at h
      have hutc := Time.shown_of_leap (t := t.utc.time) (by omega) (by omega)
      have htime := Time.shown_of_leap (t := time) (by omega) (by omega)
      omega
  rw [ofLocal?, dif_pos ⟨t.neg_day_lt, t.lt_day⟩, hepoch.1, hepoch.2,
    Timestamp.ofEpoch?_epochSecond]
  rfl

theorem ofSpacedText?_spacedText (hminutes : t.offset % 60 = 0) (hlocal : t.HasLocalDay) :
    ofSpacedText? t.spacedText.toList = some t.shown := by
  obtain ⟨date, hdate⟩ := hlocal
  obtain ⟨second, hsecond⟩ := Int.eq_ofNat_of_zero_le (show 0 ≤ t.localSecond % 86400 by omega)
  have hlt : second < 86400 := by omega
  have hoffset := Calendar.offset?_offsetText hminutes t.neg_day_lt t.lt_day []
  rw [List.append_nil] at hoffset
  have htime := Time.timeOf?_shown ⟨second, t.utc.time.nano, hlt, t.utc.time.nano_lt⟩
  rw [spacedText, render, String.toList_ofList, hsecond, Int.toNat_natCast]
  simp only [ofSpacedText?, List.append_assoc, List.cons_append, List.nil_append,
    Option.bind_eq_bind, Calendar.civil?_dayText, ← hdate, Date.ofDay?_day, Option.map_some,
    Option.bind_some, Calendar.clock?_blank, Calendar.clock?_clockText hlt t.utc.time.nano_lt,
    htime, hoffset]
  exact ofLocal?_shown hminutes hdate hsecond.symm rfl

end OffsetTimestamp

end TableTransfer
