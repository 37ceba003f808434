namespace TableTransfer

/-- The word of a number that is in the range of the words, which ends before `high`. -/
def word? {α : Type} (ofInt : Int → α) (low high n : Int) : Option α :=
  if low ≤ n ∧ n < high then some (ofInt n) else none

def int32? : Int → Option Int32 := word? Int32.ofInt (-0x80000000) 0x80000000

def int64? : Int → Option Int64 := word? Int64.ofInt (-0x8000000000000000) 0x8000000000000000

theorem word?_eq_some_iff {α : Type} {ofInt : Int → α} {toInt : α → Int} {low high n : Int}
    {w : α} (hofInt : ∀ w, ofInt (toInt w) = w)
    (htoInt : ∀ {n}, low ≤ n → n < high → toInt (ofInt n) = n)
    (hrange : ∀ w, low ≤ toInt w ∧ toInt w < high) :
    word? ofInt low high n = some w ↔ toInt w = n := by
  constructor
  · intro h
    obtain ⟨hn, hw⟩ := Option.ite_none_right_eq_some.1 h
    obtain rfl := Option.some.inj hw
    exact htoInt hn.1 hn.2
  · rintro rfl
    rw [word?, if_pos (hrange w), hofInt]

theorem int32?_eq_some_iff {n : Int} {w : Int32} : int32? n = some w ↔ w.toInt = n :=
  word?_eq_some_iff (fun w => w.ofInt_toInt) Int32.toInt_ofInt_of_le
    fun w => ⟨w.le_toInt, w.toInt_lt⟩

theorem int64?_eq_some_iff {n : Int} {w : Int64} : int64? n = some w ↔ w.toInt = n :=
  word?_eq_some_iff (fun w => w.ofInt_toInt) Int64.toInt_ofInt_of_le
    fun w => ⟨w.le_toInt, w.toInt_lt⟩

end TableTransfer
