import TableTransfer.Proofs.Insert.Tokens
import TableTransfer.Proofs.Marshaller.Atomic
import TableTransfer.Transfer.Sink

namespace TableTransfer

namespace Quotes

def separated (ts : List Token) : List Token := ts.intersperse (.mark ',')

def tableTokens (q : Quotes) (schema table : String) : List Token :=
  if schema = "" then [.name (q.content table.toList)]
  else [.name (q.content schema.toList), .mark '.', .name (q.content table.toList)]

def insertTokens (q : Quotes) (schema table : String) (names : List String) : List Token :=
  [.word "INSERT".toList, .word "INTO".toList] ++ q.tableTokens schema table ++ [.mark '('] ++
    separated (names.map fun name => .name (q.content name.toList)) ++
    [.mark ')', .word "VALUES".toList, .mark '('] ++
    separated (names.map fun _ => .mark '?') ++ [.mark ')']

variable {q : Quotes}

theorem Apart.head?_ne_closing (h : q.Apart) {c : Char} (hc : c ∈ separators) (rest : List Char) :
    (c :: rest).head? ≠ some q.closing := fun heq =>
  (h.ne_of_separator hc).2 (Option.some.inj heq)

theorem tokens_insert (h : q.Apart) (rest : List Char) :
    q.tokens ("INSERT INTO ".toList ++ rest) =
      (q.tokens rest).map ([.word "INSERT".toList, .word "INTO".toList] ++ ·) := by
  have htext : "INSERT INTO ".toList ++ rest =
      'I' :: "NSERT".toList ++ ' ' :: ('I' :: "NTO".toList ++ ' ' :: rest) := rfl
  rw [htext, h.tokens_word (by decide) (by decide), h.tokens_word (by decide) (by decide),
    Option.map_map]
  rfl

theorem tokens_values (h : q.Apart) (rest : List Char) :
    q.tokens (')' :: (" VALUES (".toList ++ rest)) =
      (q.tokens rest).map ([.mark ')', .word "VALUES".toList, .mark '('] ++ ·) := by
  have htext : " VALUES (".toList ++ rest = ' ' :: ('V' :: "ALUES".toList ++ ' ' :: '(' :: rest) := rfl
  rw [htext, h.tokens_mark (by decide), tokens_blank (by decide),
    h.tokens_word (by decide) (by decide), h.tokens_mark (by decide), Option.map_map,
    Option.map_map]
  rfl

/-- Pieces that are each read as one token before a comma or a bracket are read as these tokens with
the commas that stand between them. -/
theorem tokens_intercalate (h : q.Apart) {α : Type} {piece : α → List Char} {token : α → Token}
    (hpiece : ∀ a c rest, c = ')' ∨ c = ',' →
      q.tokens (piece a ++ c :: rest) = (q.tokens (c :: rest)).map (token a :: ·))
    (as : List α) (rest : List Char) :
    q.tokens (", ".toList.intercalate (as.map piece) ++ ')' :: rest) =
      (q.tokens (')' :: rest)).map (separated (as.map token) ++ ·) := by
  induction as with
  | nil => simp [List.intercalate_nil, separated]
  | cons a as ih =>
      cases as with
      | nil => simpa [separated] using hpiece a ')' rest (.inl rfl)
      | cons b as =>
          have htext : ", ".toList.intercalate ((a :: b :: as).map piece) ++ ')' :: rest =
              piece a ++ ',' :: ' ' ::
                (", ".toList.intercalate ((b :: as).map piece) ++ ')' :: rest) := by
            simp [List.intercalate_cons_cons]
          rw [htext, hpiece a _ _ (.inr rfl), h.tokens_mark (by decide), tokens_blank (by decide), ih,
            Option.map_map, Option.map_map]
          rfl

end Quotes

namespace Marshaller

variable {v : Vendor} {fields : List Field} {cs : List Column} {m : Marshaller}

theorem map_field_ordinal_forSink (h : forSink v fields cs = .ok m) :
    (m.bindings.map fun b => (b.field, b.column.ordinal)) = fields.zipIdx 1 :=
  calc m.bindings.map (fun b => (b.field, b.column.ordinal))
      = (m.bindings.map Binding.field).zip (m.columns.map ColumnType.ordinal) := by
        rw [columns, List.map_map, List.zip_map']
        rfl
    _ = fields.zip (List.range' 1 fields.length) := by
        rw [(sound_forSink h).fields_eq, ordinals_forSink h]
    _ = fields.zipIdx 1 := List.zipIdx_eq_zip_range'.symm

theorem name_eq_forSink (h : forSink v fields cs = .ok m) :
    ∀ b ∈ m.bindings, b.column.name = b.field.name := by
  obtain ⟨hall, -⟩ := sinkBindings_eq_ok (forSink_eq_ok h).2
  intro b hb
  obtain ⟨f, -, rfl, i, hcolumn⟩ := exists_left_of_forall₂ hall hb
  obtain ⟨c, hfound, hc⟩ := Option.map_eq_some_iff.1 hcolumn
  have hname := List.find?_some hfound
  rw [← hc]
  exact beq_iff_eq.1 hname

end Marshaller

namespace Vendor

open Quotes

theorem apart_quotes (v : Vendor) : v.quotes.Apart := by
  cases v <;> exact ⟨by decide, by decide, by decide⟩

variable {v : Vendor} {schema table qualified : String} {fields : List Field}

theorem escapeChecked_eq_ok {name text : String} (h : v.escapeChecked name = .ok text) :
    text.toList = v.quotes.escape name.toList := by
  rw [escapeChecked] at h
  cases hfault : Identifier.fault? name with
  | some fault =>
      rw [hfault] at h
      cases h
  | none =>
      rw [hfault] at h
      cases h
      exact String.toList_ofList

theorem tokens_escaped {name text : String} (h : v.escapeChecked name = .ok text)
    {rest : List Char} (hrest : rest.head? ≠ some v.quotes.closing) :
    v.quotes.tokens (text.toList ++ rest) =
      (v.quotes.tokens rest).map (.name (v.quotes.content name.toList) :: ·) := by
  rw [escapeChecked_eq_ok h]
  exact tokens_escape v.apart_quotes.opening_not_blank _ hrest

theorem tokens_qualified (h : v.qualify schema table = .ok qualified) {rest : List Char}
    (hrest : rest.head? ≠ some v.quotes.closing) :
    v.quotes.tokens (qualified.toList ++ rest) =
      (v.quotes.tokens rest).map (v.quotes.tableTokens schema table ++ ·) := by
  obtain ⟨tableText, htable, h⟩ := bind_eq_ok.1 h
  by_cases hschema : schema = ""
  · rw [if_pos hschema] at h
    cases h
    rw [tokens_escaped htable hrest, tableTokens, if_pos hschema]
    rfl
  · rw [if_neg hschema] at h
    obtain ⟨schemaText, hschemaText, h⟩ := bind_eq_ok.1 h
    cases h
    have htext : (schemaText ++ "." ++ tableText).toList ++ rest =
        schemaText.toList ++ '.' :: (tableText.toList ++ rest) := by
      simp
    have hpoint := v.apart_quotes.head?_ne_closing (c := '.') (by decide) (tableText.toList ++ rest)
    rw [htext, tokens_escaped hschemaText hpoint, v.apart_quotes.tokens_mark (by decide),
      tokens_escaped htable hrest, tableTokens, if_neg hschema, Option.map_map, Option.map_map]
    rfl

def insertText (v : Vendor) (qualified : String) (fields : List Field) : String :=
  "INSERT INTO " ++ qualified ++ " (" ++ ", ".intercalate (fields.map fun f => v.escape f.name) ++
    ") VALUES (" ++ ", ".intercalate (fields.map fun _ => "?") ++ ")"

theorem insertStatement_eq_ok (hfields : fields ≠ [])
    (hnames : ∀ f ∈ fields, Identifier.fault? f.name = none) :
    insertStatement v qualified fields = .ok (v.insertText qualified fields) := by
  have hescape : ∀ f ∈ fields, v.escapeChecked f.name = .ok (v.escape f.name) := by
    intro f hf
    rw [escapeChecked, hnames f hf]
  have hcolumns : fields.mapM (fun f => v.escapeChecked f.name) =
      .ok (fields.map fun f => v.escape f.name) := mapM_eq_ok_map hescape
  have hempty : fields.isEmpty = false := List.isEmpty_eq_false_iff.2 hfields
  simp only [insertStatement, hempty, hcolumns]
  rfl

theorem toList_insertText (v : Vendor) (qualified : String) (fields : List Field) :
    (v.insertText qualified fields).toList =
      "INSERT INTO ".toList ++ (qualified.toList ++ ' ' :: '(' ::
        (", ".toList.intercalate (fields.map fun f => v.quotes.escape f.name.toList) ++ ')' ::
          (" VALUES (".toList ++
            (", ".toList.intercalate (fields.map fun _ => ['?']) ++ [')'])))) := by
  have htext : v.insertText qualified fields = "INSERT INTO " ++ qualified ++ " (" ++
      ", ".intercalate (fields.map fun f => v.escape f.name) ++ ") VALUES (" ++
      ", ".intercalate (fields.map fun _ => "?") ++ ")" := rfl
  simp only [htext, escape, String.toList_append, String.toList_intercalate,
    String.toList_ofList, List.map_map, Function.comp_def, List.append_assoc]
  rfl

theorem tokens_insertText (hqualified : v.qualify schema table = .ok qualified)
    (fields : List Field) :
    v.quotes.tokens (v.insertText qualified fields).toList =
      some (v.quotes.insertTokens schema table (fields.map Field.name)) := by
  have hquotes := v.apart_quotes
  have hname : ∀ (f : Field) c rest, c = ')' ∨ c = ',' →
      v.quotes.tokens (v.quotes.escape f.name.toList ++ c :: rest) =
        (v.quotes.tokens (c :: rest)).map (.name (v.quotes.content f.name.toList) :: ·) := by
    intro f c rest hc
    have hseparates : c ∈ separators := by rcases hc with rfl | rfl <;> decide
    exact tokens_escape hquotes.opening_not_blank _ (hquotes.head?_ne_closing hseparates rest)
  have hparameter : ∀ (f : Field) c rest, c = ')' ∨ c = ',' →
      v.quotes.tokens (['?'] ++ c :: rest) = (v.quotes.tokens (c :: rest)).map (.mark '?' :: ·) :=
    fun f c rest _ => hquotes.tokens_mark (by decide) _
  have hend : v.quotes.tokens [')'] = some [.mark ')'] := hquotes.tokens_mark (by decide) []
  rw [toList_insertText, tokens_insert hquotes,
    tokens_qualified hqualified (hquotes.head?_ne_closing (by decide) _),
    tokens_blank (by decide), hquotes.tokens_mark (by decide), tokens_intercalate hquotes hname,
    tokens_values hquotes, tokens_intercalate hquotes hparameter, hend]
  simp only [insertTokens, Option.map_some, List.map_map, Function.comp_def, List.append_assoc,
    List.cons_append, List.nil_append]

/-- The statement for fields whose names can be written is read as the table, one name for each
field, which is called as the field is, and one parameter for each name. No name, whatever it is,
is read as less or more than one name. A marshaller for the table binds each field at the parameter
that stands where the name of the field stands. -/
theorem insertStatement_names_fields (hqualified : v.qualify schema table = .ok qualified)
    (hfields : fields ≠ []) (hnames : ∀ f ∈ fields, Identifier.fault? f.name = none) :
    (∃ text, insertStatement v qualified fields = .ok text ∧
        v.quotes.tokens text.toList =
          some (v.quotes.insertTokens schema table (fields.map Field.name))) ∧
      (∀ (name : String) (rest : List Char), rest.head? ≠ some v.quotes.closing →
        v.quotes.tokens ((v.escape name).toList ++ rest) =
          (v.quotes.tokens rest).map (.name (v.quotes.content name.toList) :: ·)) ∧
      ∀ cs m, Marshaller.forSink v fields cs = .ok m →
        (m.bindings.map fun b => (b.field, b.column.ordinal)) = fields.zipIdx 1 ∧
          (∀ b ∈ m.bindings, b.column.name = b.field.name) ∧
          ∀ (r : Record) (s s' : Statement), (m.writeRecord r).runOn s = (.ok (), s') →
            ∃ ps, s' = { s with params := s.params ++ ps } ∧
              List.Forall₂ (Marshaller.Fills v r) m.bindings ps := by
  refine ⟨⟨_, insertStatement_eq_ok hfields hnames, tokens_insertText hqualified fields⟩,
    fun name rest hrest => ?_, fun cs m hm => ⟨?_, ?_, fun r s s' hwrite => ?_⟩⟩
  · rw [escape, String.toList_ofList]
    exact tokens_escape v.apart_quotes.opening_not_blank _ hrest
  · exact Marshaller.map_field_ordinal_forSink hm
  · exact Marshaller.name_eq_forSink hm
  · rcases (Marshaller.sound_forSink hm).writeRecord_runOn r s with ⟨e, he⟩ | ⟨ps, hps, hall⟩
    · rw [he] at hwrite
      cases hwrite
    · rw [hps] at hwrite
      cases hwrite
      exact ⟨ps, rfl, hall⟩

theorem insertStatement_names_brackets :
    Vendor.sqlServer.qualify "dbo" "t]" = .ok "[dbo].[t]]]" ∧
      (∃ text, insertStatement .sqlServer "[dbo].[t]]]"
            [⟨"a]b", ⟨.int, true⟩⟩, ⟨"[x]]y]", ⟨.long, true⟩⟩, ⟨"c], [d]) --", ⟨.string, true⟩⟩] =
            .ok text ∧
          Vendor.sqlServer.quotes.tokens text.toList =
            some [.word "INSERT".toList, .word "INTO".toList, .name "dbo".toList, .mark '.',
              .name "t]".toList, .mark '(', .name "a]b".toList, .mark ',', .name "x]y".toList,
              .mark ',', .name "c], [d]) --".toList, .mark ')', .word "VALUES".toList, .mark '(',
              .mark '?', .mark ',', .mark '?', .mark ',', .mark '?', .mark ')']) ∧
      ∃ m, Marshaller.forSink .sqlServer
            [⟨"a]b", ⟨.int, true⟩⟩, ⟨"[x]]y]", ⟨.long, true⟩⟩, ⟨"c], [d]) --", ⟨.string, true⟩⟩]
            [{ name := "c], [d]) --", code := StandardType.varchar.code, typeName := "VARCHAR" },
              { name := "[x]]y]", code := StandardType.bigInt.code, typeName := "BIGINT" },
              { name := "a]b", code := StandardType.integer.code, typeName := "INT" }] = .ok m ∧
        m.bindings.map (fun b => (b.field.name, b.column.ordinal)) =
          [("a]b", 1), ("[x]]y]", 2), ("c], [d]) --", 3)] := by
  have hqualified : Vendor.sqlServer.qualify "dbo" "t]" = .ok "[dbo].[t]]]" := by rfl
  have hstatement := @insertStatement_names_fields .sqlServer "dbo" "t]" _
    [⟨"a]b", ⟨.int, true⟩⟩, ⟨"[x]]y]", ⟨.long, true⟩⟩, ⟨"c], [d]) --", ⟨.string, true⟩⟩]
    hqualified (List.cons_ne_nil _ _) (by decide +kernel)
  obtain ⟨⟨text, htext, htokens⟩, -⟩ := hstatement
  exact ⟨hqualified, ⟨text, htext, htokens⟩, _, rfl, rfl⟩

end Vendor

end TableTransfer
