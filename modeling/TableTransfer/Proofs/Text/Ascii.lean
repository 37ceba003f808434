import Mathlib
import TableTransfer.Text.Basic

namespace TableTransfer.Text

theorem upper_upper (s : String) : upper (upper s) = upper s := by
  rw [upper, upper, String.toList_ofList, List.map_map]
  congr 2
  funext c
  exact Char.toUpper_toUpper_eq_toUpper c

theorem lower_lower (s : String) : lower (lower s) = lower s := by
  rw [lower, lower, String.toList_ofList, List.map_map]
  congr 2
  funext c
  exact Char.toLower_toLower_eq_toLower c

theorem upper_lower (s : String) : upper (lower s) = upper s := by
  rw [upper, lower, String.toList_ofList, List.map_map]
  congr 2
  funext c
  exact Char.toUpper_toLower_eq_toUpper c

theorem lower_eq_self_iff {s : String} : lower s = s ↔ ∀ c ∈ s.toList, c.toLower = c := by
  calc lower s = s
      ↔ s.toList.map Char.toLower = s.toList := by rw [lower, String.ofList_eq]
    _ ↔ s.toList.map Char.toLower = s.toList.map id := by rw [List.map_id]
    _ ↔ ∀ c ∈ s.toList, c.toLower = c := List.map_inj_left

theorem toLower_of_isDigit {c : Char} (h : c.isDigit = true) : c.toLower = c := by
  have hle : c.toNat ≤ '9'.toNat := (Char.isDigit_iff_toNat.1 h).2
  apply Char.toLower_eq_of_not_isUpper
  intro hupper
  have hge : 'A'.toNat ≤ c.toNat := (of_decide_eq_true hupper).1
  exact absurd (hge.trans hle) (by decide)

theorem upper_eq_of_sameLetters {s t : String} (h : sameLetters s t = true) :
    upper s = upper t := by
  have hlower : lower s = lower t := beq_iff_eq.1 h
  rw [← upper_lower s, ← upper_lower t, hlower]

end TableTransfer.Text
