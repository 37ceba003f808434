import Mathlib.Tactic.SplitIfs
import TableTransfer.Validation

namespace TableTransfer

theorem Column.shape_of_infer {v : Vendor} {c : Column} {t : UniversalType}
    (h : c.infer v = .ok t) : (v.type? c).or c.genericShape? = some t.shape := by
  simp only [infer] at h
  split at h
  · rename_i s hs
    cases h
    exact hs
  · cases h

theorem Column.fits_of_genericShape? {c : Column} {s : Shape} (h : c.genericShape? = some s) :
    s.fits c = true := by
  obtain ⟨f, hf, hs⟩ := Option.bind_eq_some_iff.1 h
  cases f with
  | boolean | tinyInt | smallInt | bigInt | real | float | double | text | binary | date =>
      cases hs
      simp [Shape.fits, hf, TypeCode.isText, TypeCode.isBinary]
  | integer =>
      cases hs
      cases hsigned : c.signed <;> simp [Shape.fits, hf, hsigned]
  | numeric =>
      simp only [Family.shape?, Shape.decimalOf?] at hs
      split at hs <;> cases hs
      simp [Shape.fits, hf]
  | time =>
      cases hs
      simp only [Shape.timeOf]
      split <;> simp [Shape.fits, hf]
  | timestamp | zonedTimestamp =>
      cases hs
      simp only [Shape.timestampOf]
      split <;> simp [Shape.fits, hf]

/-- A dialect accepts the shapes that it gives to columns itself, and does not refuse those that
the general rule gives to the columns it has no rule for. -/
structure RulesAgree (type? : Column → Option Shape)
    (accepts? : UniversalType → Column → Option Bool) : Prop where
  own {c : Column} {s : Shape} : type? c = some s → accepts? s.required c = some true
  general {c : Column} {s : Shape} : type? c = none → c.genericShape? = some s →
    accepts? s.required c ≠ some false

theorem ite_ne_some_false (p : Prop) [Decidable p] :
    (if p then some true else none) ≠ some false := by
  split_ifs <;> simp

theorem RulesAgree.of_two {type? : Column → Option Shape}
    {accepts? : UniversalType → Column → Option Bool} {first second : Column → Bool} {s t : Shape}
    (htype : ∀ c, type? c = if first c then some s else if second c then some t else none)
    (hfirst : ∀ c, first c = true → accepts? s.required c = some true)
    (hsecond : ∀ c, second c = true → accepts? t.required c = some true)
    (hrefuses : ∀ u c, accepts? u c ≠ some false) : RulesAgree type? accepts? where
  own {c _} h := by
    rw [htype] at h
    split_ifs at h with hc hc' <;> cases h
    · exact hfirst c hc
    · exact hsecond c hc'
  general _ _ := hrefuses _ _

theorem Vendor.accepts?_ne_false {v : Vendor} (hv : v = .postgres ∨ v = .sqlServer ∨ v = .db2)
    (t : UniversalType) (c : Column) : v.accepts? t c ≠ some false := by
  rcases hv with rfl | rfl | rfl
  all_goals
    simp only [accepts?, Postgres.accepts?, SqlServer.accepts?, Db2.accepts?]
    split
    case h_1 | h_2 => exact ite_ne_some_false _
    case h_3 => simp

theorem Postgres.rulesAgree : RulesAgree type? accepts? where
  own {c s} h := by
    simp only [type?] at h
    split_ifs at h with htext
    cases h
    exact if_pos htext
  general _ _ := Vendor.accepts?_ne_false (.inl rfl) _ _

theorem SqlServer.rulesAgree : RulesAgree type? accepts? :=
  .of_two (fun _ => rfl) (fun _ h => if_pos h) (fun _ h => if_pos h)
    (Vendor.accepts?_ne_false (.inr (.inl rfl)))

theorem Db2.rulesAgree : RulesAgree type? accepts? :=
  .of_two (fun _ => rfl) (fun _ h => if_pos h) (fun _ h => if_pos h)
    (Vendor.accepts?_ne_false (.inr (.inr rfl)))

theorem Oracle.accepts?_ne_false {t : UniversalType} {c : Column}
    (h : t.shape.logical?.isSome = false) : accepts? t c ≠ some false := by
  simp only [accepts?]
  rw [h]
  simp only [Bool.false_eq_true, if_false]
  exact ite_ne_some_false _

theorem Oracle.rulesAgree : RulesAgree type? accepts? where
  own {c s} h := by
    simp only [type?] at h
    split_ifs at h with hfloat hdouble hlocal hfile htext hnumber <;> cases h
    · simp [accepts?, Shape.required, Shape.logical?, hfloat]
    · simp [accepts?, Shape.required, Shape.logical?, hdouble]
    · simp [accepts?, Shape.required, Shape.logical?, isRequiredTimestamp, hlocal]
    · simp [accepts?, Shape.required, Shape.logical?, hfile]
    · rw [Bool.or_eq_true] at htext
      simp [accepts?, Shape.required, Shape.logical?, htext]
    · rw [Bool.or_eq_true] at hnumber
      rcases hnumber with hnumber | hnumber <;>
        simp [accepts?, Shape.required, Shape.logical?, hnumber]
  general {c s} h _ := by
    simp only [type?] at h
    split_ifs at h with hfloat hdouble hlocal hfile htext hnumber
    cases hlogical : s.logical?.isSome with
    | false => exact accepts?_ne_false hlogical
    | true =>
        have hbare : isBareNumber c = false := by
          simp only [Bool.or_eq_true, not_or, Bool.not_eq_true] at hnumber
          exact hnumber.2
        simp [accepts?, Shape.required, hlogical, hlocal, hbare]

theorem Vendor.rulesAgree {v : Vendor} (h : v ≠ .mysql) : RulesAgree v.type? v.accepts? := by
  cases v with
  | generic =>
      refine ⟨fun h => ?_, fun _ _ h => ?_⟩
      · cases h
      · cases h
  | mysql => exact absurd rfl h
  | postgres => exact Postgres.rulesAgree
  | oracle => exact Oracle.rulesAgree
  | sqlServer => exact SqlServer.rulesAgree
  | db2 => exact Db2.rulesAgree

theorem Column.isCompatible_of_infer {v : Vendor} (hv : v ≠ .mysql) {c : Column}
    {t : UniversalType} (h : c.infer v = .ok t) : t.isCompatible v c = true := by
  simp only [infer] at h
  split at h
  · rename_i s hs
    cases h
    change ((v.accepts? s.required c).getD (s.fits c)) = true
    cases htype : v.type? c with
    | some own =>
        rw [htype] at hs
        cases hs
        rw [(Vendor.rulesAgree hv).own htype]
        rfl
    | none =>
        rw [htype] at hs
        have hgeneral := (Vendor.rulesAgree hv).general htype hs
        have hfits := fits_of_genericShape? hs
        cases haccepts : v.accepts? s.required c with
        | none => exact hfits
        | some answer =>
            cases answer with
            | true => rfl
            | false => exact absurd haccepts hgeneral
  · cases h

end TableTransfer
