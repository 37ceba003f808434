import TableTransfer.Config.Validation
import TableTransfer.Proofs.Catalog.Registered

namespace TableTransfer

theorem SplitPlan.make_of_given {query column : String} {count : Nat} (hcount : count ≠ 0)
    (hsplit : 1 < count → Text.holds conditionsWord query.toList = true ∧ isGiven column = true) :
    make query column count = .ok { query, column, count } := by
  have hword : ¬(1 < count ∧ (!Text.holds conditionsWord query.toList) = true) := by
    rintro ⟨h, hno⟩
    rw [(hsplit h).1] at hno
    cases hno
  have hcolumn : ¬(1 < count ∧ (Text.trim column.toList).isEmpty = true) := by
    rintro ⟨h, hempty⟩
    have hgiven := (hsplit h).2
    rw [isGiven, hempty] at hgiven
    cases hgiven
  rw [make, if_neg hcount, if_neg hword, if_neg hcolumn]

/-- A source without a fault can be split, also where it is split for the rows without a value
only: then nothing is asked of its query and column. -/
theorem SourceSettings.make_of_fault? {s : SourceSettings} (h : s.fault? = none) :
    SplitPlan.make s.importQuery (s.splitBy.getD "") s.splitCount =
      .ok { query := s.importQuery, column := s.splitBy.getD "", count := s.splitCount } := by
  simp only [fault?] at h
  split at h
  · cases h
  · split at h
    · cases h
    · rename_i hcount
      refine SplitPlan.make_of_given hcount fun hsplit => ?_
      have hmany : ¬(decide (s.splitCount ≤ 1) && !s.withNulls) = true := by
        simp only [Bool.and_eq_true, decide_eq_true_eq]
        omega
      rw [if_neg hmany] at h
      split at h
      · cases h
      · rename_i hword
        split at h
        · cases h
        · rename_i hcolumn
          refine ⟨by simpa using hword, ?_⟩
          cases hby : s.splitBy with
          | none => simp [hby] at hcolumn
          | some column => simpa [hby] using hcolumn

namespace Vendor

variable (v : Vendor)

theorem escapeChecked_of_fault? {name : String} (h : Identifier.fault? name = none) :
    v.escapeChecked name = .ok (v.escape name) := by
  rw [escapeChecked, h]

theorem qualify_of_fault? {schema table : String} (htable : Identifier.fault? table = none)
    (hschema : schema ≠ "" → Identifier.fault? schema = none) :
    v.qualify schema table =
      .ok (if schema = "" then v.escape table else v.escape schema ++ "." ++ v.escape table) := by
  rw [qualify, v.escapeChecked_of_fault? htable]
  change (if schema = "" then Except.ok (v.escape table) else _) = _
  by_cases hempty : schema = ""
  · rw [if_pos hempty, if_pos hempty]
  · rw [if_neg hempty, if_neg hempty, v.escapeChecked_of_fault? (hschema hempty)]
    rfl

end Vendor

theorem SinkSettings.exists_qualify {s : SinkSettings} (h : s.fault? = none) (v : Vendor) :
    ∃ text, v.qualify s.schemaName s.table = .ok text := by
  rw [fault?] at h
  split at h
  · cases h
  · rename_i htable
    refine ⟨_, v.qualify_of_fault? htable fun hschema => ?_⟩
    rwa [if_neg hschema, Option.map_eq_none_iff] at h

namespace Config

variable {c : Config} {catalog : Catalog}

theorem validate_eq_ok_iff : c.validate catalog = .ok () ↔ c.fault? catalog = none := by
  rw [validate]
  cases c.fault? catalog <;> simp

theorem parts_of_validate (h : c.validate catalog = .ok ()) :
    catalog.contains c.dialect = true ∧
      (∀ s, c.source = some s → s.fault? = none) ∧ ∀ s, c.sink = some s → s.fault? = none := by
  have hnone := validate_eq_ok_iff.1 h
  simp only [fault?] at hnone
  split at hnone
  · cases hnone
  · rename_i hdialect
    split at hnone
    · cases hnone
    · rename_i hparts
      obtain ⟨hsource, hsink⟩ := Option.or_eq_none_iff.1 hparts
      refine ⟨by simpa using hdialect, fun s hs => ?_, fun s hs => ?_⟩
      · rwa [hs, Option.bind_some] at hsource
      · rwa [hs, Option.bind_some] at hsink

/-- What settings are accepted for, they do later: the catalog has a profile for their dialect,
the plan for splitting their source is made, and the table of their sink gets its full name. -/
theorem usable_of_validate (hcatalog : catalog.Registered) (h : c.validate catalog = .ok ()) :
    ∃ p, c.profile catalog = .ok p ∧
      (∀ s, c.source = some s →
        ∃ plan, SplitPlan.make s.importQuery (s.splitBy.getD "") s.splitCount = .ok plan) ∧
      ∀ s, c.sink = some s → ∃ text, p.vendor.qualify s.schemaName s.table = .ok text := by
  obtain ⟨hdialect, hsource, hsink⟩ := parts_of_validate h
  obtain ⟨p, hp⟩ := hcatalog.exists_require_eq_ok hdialect
  refine ⟨p, hp, fun s hs => ?_, fun s hs => ?_⟩
  · exact ⟨_, SourceSettings.make_of_fault? (hsource s hs)⟩
  · exact SinkSettings.exists_qualify (hsink s hs) p.vendor

theorem usable_of_validate_alias :
    ∃ c : Config, c.validate .builtin = .ok () ∧ c.dialect = " MsSQL " ∧
      ∃ p, c.profile .builtin = .ok p ∧
        (∃ plan, SplitPlan.make "SELECT * FROM t WHERE $CONDITIONS" "id" 1 = .ok plan) ∧
        ∃ text, p.vendor.qualify "dbo" "t]" = .ok text := by
  have hnone : fault? {
      dialect := " MsSQL "
      source := some {
        importQuery := "SELECT * FROM t WHERE $CONDITIONS"
        boundingQuery := some "SELECT MIN(id), MAX(id) FROM t"
        splitBy := some "id"
        withNulls := true }
      sink := some { schemaName := "dbo", table := "t]" } } .builtin = none := by
    decide +kernel
  have hvalid := validate_eq_ok_iff.2 hnone
  obtain ⟨p, hp, hsource, hsink⟩ := usable_of_validate Catalog.registered_builtin hvalid
  exact ⟨_, hvalid, rfl, p, hp, hsource _ rfl, hsink _ rfl⟩

end Config

end TableTransfer
