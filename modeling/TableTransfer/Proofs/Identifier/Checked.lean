import Mathlib.Data.String.Basic
import TableTransfer.Proofs.Insert.Statement

namespace TableTransfer

/-- What databases take as the name of a table or column. -/
structure Identifier.IsName (body : List Char) : Prop where
  ne_nil : body ≠ []
  no_nul : '\x00' ∉ body
  size_le : (String.ofList body).utf8ByteSize ≤ Identifier.maxBytes

namespace Quotes

/-- The delimiters with nothing between them. -/
def hollow (q : Quotes) : List Char := [q.opening, q.closing]

variable {q : Quotes} {name : List Char}

theorem isQuoted_iff :
    q.isQuoted name = true ↔ ∃ body, name = q.opening :: (double q.closing body ++ [q.closing]) := by
  constructor
  · exact exists_double_of_isQuoted
  · rintro ⟨body, rfl⟩
    rw [isQuoted, body?_eq_some_iff.2 rfl]
    exact isDoubled_double ..

theorem isQuoted_escape (q : Quotes) (name : List Char) : q.isQuoted (q.escape name) = true :=
  isQuoted_iff.2 ⟨q.content name, escape_eq q name⟩

theorem escape_eq_self_iff : q.escape name = name ↔ q.isQuoted name = true := by
  constructor
  · intro h
    have hquoted := isQuoted_escape q name
    rwa [h] at hquoted
  · exact fun h => if_pos h

/-- A text counts as quoted just if it is a body with each closing delimiter twice, in delimiters.
Whatever is quoted counts as quoted; what does is left as it is, and nothing else is. So no dialect
changes a name that it has quoted. -/
theorem escape_idempotent (q : Quotes) (name : List Char) (vendor : Vendor) (text : String) :
    (q.isQuoted name = true ↔
        ∃ body, name = q.opening :: (double q.closing body ++ [q.closing])) ∧
      q.isQuoted (q.escape name) = true ∧
      q.escape (q.escape name) = q.escape name ∧
      (q.escape name = name ↔ q.isQuoted name = true) ∧
      vendor.escape (vendor.escape text) = vendor.escape text := by
  refine ⟨isQuoted_iff, isQuoted_escape q name, ?_, escape_eq_self_iff, ?_⟩
  · exact escape_eq_self_iff.2 (isQuoted_escape q name)
  · have hquoted := isQuoted_escape vendor.quotes text.toList
    rw [Vendor.escape, Vendor.escape, String.toList_ofList, escape_eq_self_iff.2 hquoted]

theorem sublist_double (closing : Char) (body : List Char) :
    body.Sublist (double closing body) := by
  induction body with
  | nil => exact .slnil
  | cons c body ih =>
      by_cases hc : c = closing
      · rw [double, if_pos hc, hc]
        exact (ih.cons closing).cons_cons closing
      · rw [double, if_neg hc]
        exact ih.cons_cons c

theorem content_sublist (q : Quotes) (name : List Char) : (q.content name).Sublist name := by
  cases hquoted : q.isQuoted name with
  | false => rw [content_of_not_quoted hquoted]
  | true =>
      obtain ⟨body, rfl⟩ := isQuoted_iff.1 hquoted
      rw [content_of_double]
      exact ((sublist_double q.closing body).trans (List.sublist_append_left _ _)).cons _

theorem content_eq_nil_iff (hname : name ≠ []) : q.content name = [] ↔ name = q.hollow := by
  constructor
  · intro hnil
    cases hquoted : q.isQuoted name with
    | false =>
        rw [content_of_not_quoted hquoted] at hnil
        exact absurd hnil hname
    | true =>
        obtain ⟨body, rfl⟩ := isQuoted_iff.1 hquoted
        rw [content_of_double] at hnil
        rw [hnil]
        rfl
  · rintro rfl
    exact content_of_double q []

end Quotes

namespace Identifier

theorem IsName.of_sublist {name body : List Char} (h : IsName name) (hbody : body.Sublist name)
    (hne : body ≠ []) : IsName body where
  ne_nil := hne
  no_nul hmem := h.no_nul (hbody.mem hmem)
  size_le := by
    have hsize := h.size_le
    rw [String.utf8ByteSize_ofList] at hsize ⊢
    exact (String.utf8Len_le_of_sublist hbody).trans hsize

/-- A name that databases take stays one in its delimiters, unless these are all of it. -/
theorem IsName.content_iff {name : List Char} (h : IsName name) (q : Quotes) :
    IsName (q.content name) ↔ name ≠ q.hollow := by
  constructor
  · intro hcontent
    exact mt (Quotes.content_eq_nil_iff h.ne_nil).2 hcontent.ne_nil
  · intro hne
    exact h.of_sublist (q.content_sublist name) (mt (Quotes.content_eq_nil_iff h.ne_nil).1 hne)

theorem fault?_eq_none_iff {name : String} : fault? name = none ↔ IsName name.toList := by
  rw [fault?]
  constructor
  · intro h
    split at h
    · cases h
    · rename_i hempty
      split at h
      · cases h
      · rename_i hnul
        split at h
        · cases h
        · rename_i hsize
          refine ⟨mt String.toList_eq_nil_iff.1 hempty, hnul, ?_⟩
          rw [String.ofList_toList]
          exact Nat.le_of_not_lt hsize
  · intro h
    have hsize := h.size_le
    rw [String.ofList_toList] at hsize
    rw [if_neg (mt String.toList_eq_nil_iff.2 h.ne_nil), if_neg h.no_nul,
      if_neg (Nat.not_lt_of_le hsize)]

end Identifier

namespace Vendor

variable {v : Vendor} {schema table text : String}

theorem exists_escapeChecked_iff {name : String} :
    (∃ text, v.escapeChecked name = .ok text) ↔ Identifier.IsName name.toList := by
  rw [← Identifier.fault?_eq_none_iff, escapeChecked]
  cases Identifier.fault? name <;> simp

theorem isName_of_escapeChecked {name : String} (h : v.escapeChecked name = .ok text) :
    Identifier.IsName name.toList := exists_escapeChecked_iff.1 ⟨text, h⟩

theorem tokens_checked {name : String} (h : v.escapeChecked name = .ok text) :
    v.quotes.tokens text.toList = some [.name (v.quotes.content name.toList)] := by
  have hend : ([] : List Char).head? ≠ some v.quotes.closing := (Option.some_ne_none _).symm
  have htokens := tokens_escaped h hend
  rwa [List.append_nil] at htokens

theorem isName_of_qualify (h : v.qualify schema table = .ok text) :
    Identifier.IsName table.toList ∧ (schema ≠ "" → Identifier.IsName schema.toList) := by
  obtain ⟨tableText, htable, h⟩ := bind_eq_ok.1 h
  refine ⟨isName_of_escapeChecked htable, fun hschema => ?_⟩
  rw [if_neg hschema] at h
  obtain ⟨schemaText, hschemaText, -⟩ := bind_eq_ok.1 h
  exact isName_of_escapeChecked hschemaText

theorem tokens_qualify (h : v.qualify schema table = .ok text) :
    v.quotes.tokens text.toList = some (v.quotes.tableTokens schema table) := by
  have hend : ([] : List Char).head? ≠ some v.quotes.closing := (Option.some_ne_none _).symm
  have htokens := tokens_qualified h hend
  rw [List.append_nil] at htokens
  rw [htokens]
  exact congrArg some (List.append_nil _)

/-- The names that pass the check are those that databases take as they are given. What is written
for one is read as one name, and what is written for a table as the names of schema and table.
Databases take each of them, just if it was not given as two delimiters with nothing between them. -/
theorem isName_of_checked_iff (v : Vendor) (schema table text : String) :
    ((∃ text, v.escapeChecked table = .ok text) ↔ Identifier.IsName table.toList) ∧
      (v.escapeChecked table = .ok text →
        ∃ body, v.quotes.tokens text.toList = some [.name body] ∧
          (Identifier.IsName body ↔ table.toList ≠ v.quotes.hollow)) ∧
      (v.qualify schema table = .ok text → schema = "" →
        ∃ body, v.quotes.tokens text.toList = some [.name body] ∧
          (Identifier.IsName body ↔ table.toList ≠ v.quotes.hollow)) ∧
      (v.qualify schema table = .ok text → schema ≠ "" →
        ∃ first body, v.quotes.tokens text.toList = some [.name first, .mark '.', .name body] ∧
          (Identifier.IsName first ↔ schema.toList ≠ v.quotes.hollow) ∧
          (Identifier.IsName body ↔ table.toList ≠ v.quotes.hollow)) := by
  refine ⟨exists_escapeChecked_iff, fun h => ?_, fun h hschema => ?_, fun h hschema => ?_⟩
  · exact ⟨_, tokens_checked h, (isName_of_escapeChecked h).content_iff v.quotes⟩
  · have htokens := tokens_qualify h
    rw [Quotes.tableTokens, if_pos hschema] at htokens
    exact ⟨_, htokens, (isName_of_qualify h).1.content_iff v.quotes⟩
  · have htokens := tokens_qualify h
    rw [Quotes.tableTokens, if_neg hschema] at htokens
    obtain ⟨htable, hname⟩ := isName_of_qualify h
    exact ⟨_, _, htokens, (hname hschema).content_iff v.quotes, htable.content_iff v.quotes⟩

theorem isName_of_checked_bracket :
    Vendor.sqlServer.qualify "dbo" "[t]]]" = .ok "[dbo].[t]]]" ∧
      ∃ first body, Vendor.sqlServer.quotes.tokens "[dbo].[t]]]".toList =
          some [.name first, .mark '.', .name body] ∧
        Identifier.IsName first ∧ Identifier.IsName body := by
  have hqualify : Vendor.sqlServer.qualify "dbo" "[t]]]" = .ok "[dbo].[t]]]" := rfl
  obtain ⟨first, body, htokens, hfirst, hbody⟩ :=
    (isName_of_checked_iff .sqlServer "dbo" "[t]]]" "[dbo].[t]]]").2.2.2 hqualify (by decide)
  exact ⟨hqualify, first, body, htokens, hfirst.2 (by decide), hbody.2 (by decide)⟩

/-- Two delimiters pass the check as two characters, and are written as a name of none. -/
theorem hollow_name_checked :
    Vendor.generic.escapeChecked "\"\"" = .ok "\"\"" ∧
      Vendor.generic.quotes.tokens "\"\"".toList = some [.name []] ∧
      ¬Identifier.IsName [] :=
  ⟨rfl, rfl, fun h => h.ne_nil rfl⟩

end Vendor

end TableTransfer
