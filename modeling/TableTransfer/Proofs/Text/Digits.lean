import Mathlib
import TableTransfer.Arithmetic
import TableTransfer.Text.Number
import TableTransfer.Text.Unicode

namespace TableTransfer.Text

theorem ofDigits_append (cs ds : List Char) :
    ofDigits (cs ++ ds) = ofDigits cs * tenTo ds.length + ofDigits ds := by
  induction ds using List.reverseRecOn with
  | nil => simp [ofDigits, tenTo]
  | append_singleton ds d ih =>
      have hlast (es : List Char) : ofDigits (es ++ [d]) = 10 * ofDigits es + digitValue d := by
        simp [ofDigits]
      rw [← List.append_assoc, hlast, hlast, ih, List.length_append, List.length_singleton,
        tenTo_succ]
      ring

theorem ofDigits_cons (c : Char) (cs : List Char) :
    ofDigits (c :: cs) = digitValue c * tenTo cs.length + ofDigits cs := by
  rw [← List.singleton_append, ofDigits_append]
  simp [ofDigits]

theorem digitValue_lt {c : Char} (h : c.isDigit = true) : digitValue c < 10 := by
  simp only [Char.isDigit, Bool.and_eq_true, decide_eq_true_eq] at h
  have hnat : 48 ≤ c.toNat ∧ c.toNat ≤ 57 := h
  rw [digitValue]
  omega

theorem ofDigits_lt {cs : List Char} (h : ∀ c ∈ cs, c.isDigit = true) :
    ofDigits cs < tenTo cs.length := by
  induction cs with
  | nil => decide
  | cons c cs ih =>
      obtain ⟨hc, hcs⟩ := List.forall_mem_cons.1 h
      have hvalue : (digitValue c + 1) * tenTo cs.length ≤ 10 * tenTo cs.length :=
        Nat.mul_le_mul_right _ (digitValue_lt hc)
      have hrest := ih hcs
      rw [Nat.add_mul, Nat.one_mul] at hvalue
      rw [ofDigits_cons, List.length_cons, tenTo_succ]
      omega

theorem ofDigits_replicate_zero (n : Nat) : ofDigits (List.replicate n '0') = 0 := by
  induction n with
  | zero => rfl
  | succ n ih => exact ih

theorem ofDigits_digits (n : Nat) : ofDigits (digits n) = n :=
  Nat.ofDigitChars_toDigits (by decide) (by decide)

theorem isDigit_of_mem_digits {n : Nat} {c : Char} (h : c ∈ digits n) : c.isDigit = true :=
  Nat.isDigit_of_mem_toDigits (by decide) (by decide) h

theorem digits_ne_nil (n : Nat) : digits n ≠ [] := Nat.toDigits_ne_nil

@[simp] theorem ofDigits_padded (width n : Nat) : ofDigits (padded width n) = n := by
  rw [padded, ofDigits_append, ofDigits_replicate_zero, ofDigits_digits, zero_mul, zero_add]

theorem isDigit_of_mem_padded {width n : Nat} {c : Char} (h : c ∈ padded width n) :
    c.isDigit = true := by
  obtain hzero | hdigit := List.mem_append.1 h
  · rw [List.eq_of_mem_replicate hzero]
    rfl
  · exact isDigit_of_mem_digits hdigit

theorem padded_ne_nil (width n : Nat) : padded width n ≠ [] := by
  intro h
  exact digits_ne_nil n (List.append_eq_nil_iff.1 h).2

theorem padded_zero (n : Nat) : padded 0 n = digits n := by
  rw [padded, Nat.zero_sub, List.replicate_zero, List.nil_append]

theorem length_padded {width n : Nat} (hwidth : width ≠ 0) (h : n < tenTo width) :
    (padded width n).length = width := by
  have hdigits : (digits n).length ≤ width :=
    (Nat.length_toDigits_le_iff (by decide) (Nat.pos_of_ne_zero hwidth)).2 h
  rw [padded, List.length_append, List.length_replicate, Nat.sub_add_cancel hdigits]

theorem isBlank_of_isDigit {c : Char} (h : c.isDigit = true) : isBlank c = false := by
  simp only [Char.isDigit, Bool.and_eq_true, decide_eq_true_eq] at h
  have hnat : 48 ≤ c.toNat ∧ c.toNat ≤ 57 := h
  simp only [isBlank]
  grind

theorem trim_eq_self {cs : List Char} (hfirst : ∀ c ∈ cs.head?, isBlank c = false)
    (hlast : ∀ c ∈ cs.getLast?, isBlank c = false) : trim cs = cs := by
  have hstay {ds : List Char} (h : ∀ c ∈ ds.head?, isBlank c = false) :
      ds.dropWhile isBlank = ds := by
    cases ds with
    | nil => rfl
    | cons d ds => exact List.dropWhile_cons_of_neg (by simp [h d rfl])
  rw [trim, trimStart, hstay hfirst, trimEnd, hstay (by rwa [List.head?_reverse]),
    List.reverse_reverse]

theorem isDigit_of_getLast?_padded {cs : List Char} {width n : Nat} {c : Char}
    (h : c ∈ (cs ++ padded width n).getLast?) : c.isDigit = true := by
  rw [List.getLast?_append_of_ne_nil cs (padded_ne_nil width n)] at h
  exact isDigit_of_mem_padded (List.mem_of_mem_getLast? h)

def Stops (rest : List Char) : Prop := ∀ c ∈ rest.head?, c.isDigit = false

theorem stops_cons {c : Char} (h : c.isDigit = false) (rest : List Char) : Stops (c :: rest) := by
  simpa [Stops] using h

section

variable {ds rest : List Char}

theorem takeWhile_isDigit_append (hds : ∀ c ∈ ds, c.isDigit = true) (hrest : Stops rest) :
    (ds ++ rest).takeWhile Char.isDigit = ds := by
  rw [List.takeWhile_append_of_pos hds]
  cases rest with
  | nil => simp
  | cons c rest => simp [hrest c rfl]

theorem dropWhile_isDigit_append (hds : ∀ c ∈ ds, c.isDigit = true) (hrest : Stops rest) :
    (ds ++ rest).dropWhile Char.isDigit = rest := by
  rw [List.dropWhile_append_of_pos hds]
  cases rest with
  | nil => simp
  | cons c rest => simp [hrest c rfl]

theorem trimStart_of_isDigit (hds : ∀ c ∈ ds, c.isDigit = true) (hne : ds ≠ []) :
    trimStart (ds ++ rest) = ds ++ rest := by
  obtain ⟨c, ds, rfl⟩ := List.exists_cons_of_ne_nil hne
  rw [trimStart, List.cons_append, List.dropWhile_cons,
    isBlank_of_isDigit (hds c List.mem_cons_self), if_neg Bool.false_ne_true]

end

end TableTransfer.Text
