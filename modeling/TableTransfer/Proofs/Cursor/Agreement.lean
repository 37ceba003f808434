import TableTransfer.Proofs.Calendar.Internet
import TableTransfer.Proofs.Cursor.Rows
import TableTransfer.Proofs.Decimal.WholeText
import TableTransfer.Proofs.Text.Ascii
import TableTransfer.Proofs.Value.Whole

namespace TableTransfer

namespace SqlValue

variable {p : SqlValue}

theorem exists_asDecimal?_of_asInt64? {n : Int64} (h : p.asInt64? = some n) :
    ∃ d, p.asDecimal? = some d ∧ d.SameNumber (.ofInt64 n) := by
  have hword (hp : p.asDecimal? = p.asInt64?.map .ofInt64) :
      ∃ d, p.asDecimal? = some d ∧ d.SameNumber (.ofInt64 n) := by
    refine ⟨.ofInt64 n, ?_, .refl _⟩
    rw [hp, h, Option.map_some]
  have hsame {d : Decimal} (hd : d.IsNumber n.toInt) : d.SameNumber (.ofInt64 n) := by
    rw [Decimal.SameNumber, Decimal.signed_ofInt64, hd]
    exact Int.mul_one _
  cases p with
  | bool b => exact hword rfl
  | i16 w | i32 w | i64 w => exact hword rfl
  | decimal d =>
      rw [asInt64?] at h
      split at h
      · next hwhole =>
        refine ⟨d, rfl, hsame ?_⟩
        rw [int64?_eq_some_iff.1 h]
        exact Decimal.isNumber_whole hwhole
      · cases h
  | text s =>
      obtain ⟨m, hm, hn⟩ := Option.bind_eq_some_iff.1 h
      obtain rfl := int64?_eq_some_iff.1 hn
      have hroom : n.toInt.natAbs < Decimal.limit := by
        have hlower := n.le_toInt
        have hupper := n.toInt_lt
        rw [Decimal.limit]
        omega
      obtain ⟨d, hd, hsigned, hscale⟩ :=
        Decimal.exists_ofText?_of_spells (Text.spells_of_int? hm) hroom
      refine ⟨d, hd, hsame ?_⟩
      rw [Decimal.IsNumber, hsigned, hscale]
      exact (Int.mul_one _).symm
  | null _ | f32 _ | f64 _ | bytes _ | uuid _ | timestamp _ | zonedTimestamp _ | date _ | time _
  | object _ _ => cases h

theorem asBool?_eq {b : Bool} {n : Int64} (hb : p.asBool? = some b) (hn : p.asInt64? = some n) :
    b = decide (n.toInt ≠ 0) := by
  have hword (hp : p.asBool? = p.asInt64?.map fun n => decide (n.toInt ≠ 0)) :
      b = decide (n.toInt ≠ 0) := by
    rw [hp, hn] at hb
    exact (Option.some.inj hb).symm
  cases p with
  | bool c =>
      cases hb
      cases hn
      cases b <;> rfl
  | text s =>
      obtain ⟨m, hm, hn⟩ := Option.bind_eq_some_iff.1 hn
      obtain rfl := int64?_eq_some_iff.1 hn
      have hlower : Text.lower (Text.trimmed s) = Text.trimmed s := by
        rw [Text.lower_eq_self_iff, Text.trimmed, String.toList_ofList]
        exact (Text.spells_of_int? hm).forall_char (fun _ => Text.toLower_of_isDigit) rfl rfl
      have hspelled {word : String} (heq : Text.trimmed s = word) :
          Text.int? word.toList = some n.toInt := by
        rw [← heq, Text.trimmed, String.toList_ofList, hm]
      rw [asBool?, hlower] at hb
      split at hb
      · next heq => cases hspelled heq
      · next heq => cases hspelled heq
      · next heq =>
        cases hb
        rw [← Option.some.inj (hspelled heq)]
        rfl
      · next heq => cases hspelled heq
      · next heq => cases hspelled heq
      · next heq =>
        cases hb
        rw [← Option.some.inj (hspelled heq)]
        rfl
      · cases hb
  | i16 w | i32 w | i64 w | decimal d => exact hword rfl
  | null _ | f32 _ | f64 _ | bytes _ | uuid _ | timestamp _ | zonedTimestamp _ | date _ | time _
  | object _ _ => cases hn

theorem asTimestamp?_eq_utc {t : Timestamp} {z : OffsetTimestamp} (ht : p.asTimestamp? = some t)
    (hz : p.asZonedTimestamp? = some z) : t = z.utc := by
  cases p with
  | timestamp u =>
      cases ht
      cases hz
      rfl
  | zonedTimestamp u =>
      cases ht
      cases hz
      rfl
  | text s =>
      rw [asZonedTimestamp?] at hz
      cases hread : OffsetTimestamp.ofInternetText (Text.trimmed s) with
      | error fault =>
          rw [hread] at hz
          cases hz
      | ok z' =>
          have hnone := Timestamp.ofText?_of_internetText hread
          rw [Text.trimmed, String.toList_ofList] at hnone
          rw [asTimestamp?, hnone] at ht
          cases ht
  | null _ | bool _ | i16 _ | i32 _ | i64 _ | f32 _ | f64 _ | bytes _ | uuid _ | decimal _ | date _
  | time _ | object _ _ => cases hz

end SqlValue

namespace Cursor

/-- The getters agree on the cell: a word of 32 bits is the same word of 64 bits, which is the same
decimal and is a word of 32 bits just if it has room there, a flag is the number that is not zero, a
moment is that of the moment with its offset, and NULL is nothing to any of them. -/
structure Agrees (cur : Cursor) (index : Nat) : Prop where
  int64_of_int32 {n : Int32} : cur.int32 index = .ok (some n) →
    ∃ m, cur.int64 index = .ok (some m) ∧ m.toInt = n.toInt
  decimal_of_int64 {n : Int64} : cur.int64 index = .ok (some n) →
    ∃ d, cur.decimal index = .ok (some d) ∧ d.SameNumber (.ofInt64 n)
  int32_of_int64 {n : Int64} : cur.int64 index = .ok (some n) →
    -0x80000000 ≤ n.toInt → n.toInt < 0x80000000 →
      ∃ m, cur.int32 index = .ok (some m) ∧ m.toInt = n.toInt
  int32_of_wide {n : Int64} : cur.int64 index = .ok (some n) →
    n.toInt < -0x80000000 ∨ 0x80000000 ≤ n.toInt →
      ∃ kind, cur.int32 index =
        .error (.conversion (cur.columnName index) (.unreadable kind "i32"))
  bool_eq {b : Bool} {n : Int64} : cur.bool index = .ok (some b) → cur.int64 index = .ok (some n) →
    b = decide (n.toInt ≠ 0)
  timestamp_eq {t : Timestamp} {z : OffsetTimestamp} : cur.timestamp index = .ok (some t) →
    cur.zonedTimestamp index = .ok (some z) → t = z.utc
  get_of_null {hint : NullHint} (w : Wanted) : cur.value index = .ok (.null hint) →
    w.get cur index = .ok none

theorem getters_agree (cur : Cursor) (index : Nat) : cur.Agrees index where
  int64_of_int32 h := by
    obtain ⟨p, hp, hnull, hn⟩ := read_eq_ok_some_iff.1 h
    obtain ⟨m, hm, hn⟩ := Option.bind_eq_some_iff.1 hn
    exact ⟨m, read_of_value hp hnull hm _, (int32?_eq_some_iff.1 hn).symm⟩
  decimal_of_int64 h := by
    obtain ⟨p, hp, hnull, hn⟩ := read_eq_ok_some_iff.1 h
    obtain ⟨d, hd, hsame⟩ := SqlValue.exists_asDecimal?_of_asInt64? hn
    exact ⟨d, read_of_value hp hnull hd _, hsame⟩
  int32_of_int64 {n} h hlower hupper := by
    obtain ⟨p, hp, hnull, hn⟩ := read_eq_ok_some_iff.1 h
    have hword : int32? n.toInt = some (Int32.ofInt n.toInt) := if_pos ⟨hlower, hupper⟩
    have hconvert : p.asInt32? = some (Int32.ofInt n.toInt) := by
      rw [SqlValue.asInt32?, hn, Option.bind_some, hword]
    exact ⟨_, read_of_value hp hnull hconvert _, int32?_eq_some_iff.1 hword⟩
  int32_of_wide {n} h hwide := by
    obtain ⟨p, hp, hnull, hn⟩ := read_eq_ok_some_iff.1 h
    have hconvert : p.asInt32? = none := by
      rw [SqlValue.asInt32?, hn, Option.bind_some]
      exact if_neg (by omega)
    exact ⟨p.kind, read_of_unreadable _ _ hp hnull hconvert⟩
  bool_eq hb hn := by
    obtain ⟨p, hp, -, hb⟩ := read_eq_ok_some_iff.1 hb
    obtain ⟨p', hp', -, hn⟩ := read_eq_ok_some_iff.1 hn
    obtain rfl := Except.ok.inj (hp.symm.trans hp')
    exact SqlValue.asBool?_eq hb hn
  timestamp_eq ht hz := by
    obtain ⟨p, hp, -, ht⟩ := read_eq_ok_some_iff.1 ht
    obtain ⟨p', hp', -, hz⟩ := read_eq_ok_some_iff.1 hz
    obtain rfl := Except.ok.inj (hp.symm.trans hp')
    exact SqlValue.asTimestamp?_eq_utc ht hz
  get_of_null w h := by
    rw [w.get_eq_read, read_of_null h rfl]

def signedText : Cursor := single [] [.text "\t+02147483648 "]

theorem getters_agree_signedText :
    signedText.int64 1 = .ok (some 2147483648) ∧
      (∃ d, signedText.decimal 1 = .ok (some d) ∧ d.SameNumber (.ofInt64 2147483648)) ∧
      ∃ kind, signedText.int32 1 =
        .error (.conversion (signedText.columnName 1) (.unreadable kind "i32")) := by
  have hread : signedText.int64 1 = .ok (some 2147483648) := by rfl
  exact ⟨hread, (getters_agree signedText 1).decimal_of_int64 hread,
    (getters_agree signedText 1).int32_of_wide hread (.inr (by decide))⟩

end Cursor

end TableTransfer
