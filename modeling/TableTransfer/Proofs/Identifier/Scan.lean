import TableTransfer.Proofs.Insert.Tokens

namespace TableTransfer.Quotes

/-- What stands before the first closing delimiter that is not written twice, with those that are
written twice read as one, and what comes after it. -/
def scanBody? (closing : Char) : List Char → Option (List Char × List Char)
  | [] => none
  | c :: cs =>
    if c = closing then
      match cs with
      | [] => some ([], [])
      | d :: rest =>
        if d = closing then (scanBody? closing rest).map fun p => (closing :: p.1, p.2)
        else some ([], d :: rest)
    else (scanBody? closing cs).map fun p => (c :: p.1, p.2)

/-- What a text that begins with a name in delimiters has between them and after them. -/
def scan? (q : Quotes) : List Char → Option (List Char × List Char)
  | [] => none
  | c :: cs => if c = q.opening then scanBody? q.closing cs else none

variable {q : Quotes} {closing : Char} {text body rest : List Char}

theorem scanBody?_double (h : rest.head? ≠ some closing) (body : List Char) :
    scanBody? closing (double closing body ++ closing :: rest) = some (body, rest) := by
  induction body with
  | nil =>
      cases rest with
      | nil => simp [double, scanBody?]
      | cons d rest =>
          have hd : d ≠ closing := fun hd => h (congrArg some hd)
          simp [double, scanBody?, hd]
  | cons c body ih =>
      by_cases hc : c = closing
      · simp [double, scanBody?, hc, ih]
      · rw [double, if_neg hc, List.cons_append, scanBody?.eq_def]
        simp [hc, ih]

theorem double_of_scanBody? (h : scanBody? closing text = some (body, rest)) :
    text = double closing body ++ closing :: rest ∧ rest.head? ≠ some closing := by
  fun_induction scanBody? closing text generalizing body with
  | case1 => cases h
  | case2 =>
      obtain ⟨rfl, rfl⟩ := Prod.mk.inj (Option.some.inj h)
      simp [double]
  | case3 cs ih =>
      obtain ⟨p, hp, h⟩ := Option.map_eq_some_iff.1 h
      obtain ⟨rfl, rfl⟩ := Prod.mk.inj h
      obtain ⟨rfl, hrest⟩ := ih hp
      simp [double, hrest]
  | case4 d cs hd =>
      obtain ⟨rfl, rfl⟩ := Prod.mk.inj (Option.some.inj h)
      simp [double, hd]
  | case5 c cs hc ih =>
      obtain ⟨p, hp, h⟩ := Option.map_eq_some_iff.1 h
      obtain ⟨rfl, rfl⟩ := Prod.mk.inj h
      obtain ⟨rfl, hrest⟩ := ih hp
      simp [double, hc, hrest]

/-- The scanner takes a body with each closing delimiter twice, in delimiters, and stops before
every character but one more closing delimiter. -/
theorem scan?_eq_some_iff :
    q.scan? text = some (body, rest) ↔
      text = q.opening :: (double q.closing body ++ q.closing :: rest) ∧
        rest.head? ≠ some q.closing := by
  constructor
  · intro h
    cases text with
    | nil => cases h
    | cons c text =>
        rw [scan?] at h
        split at h
        · rename_i hc
          obtain ⟨rfl, hrest⟩ := double_of_scanBody? h
          exact ⟨by rw [hc], hrest⟩
        · cases h
  · rintro ⟨rfl, hrest⟩
    rw [scan?, if_pos rfl, scanBody?_double hrest]

theorem scan?_escape (name : List Char) (h : rest.head? ≠ some q.closing) :
    q.scan? (q.escape name ++ rest) = some (q.content name, rest) := by
  apply scan?_eq_some_iff.2
  refine ⟨?_, h⟩
  rw [escape_eq, List.cons_append, List.append_assoc, List.singleton_append]

theorem exists_body_of_isQuoted {name : List Char} (h : q.isQuoted name = true) :
    ∃ inner, name = q.opening :: (inner ++ [q.closing]) ∧
      q.content name = undouble q.closing inner ∧ double q.closing (q.content name) = inner := by
  obtain ⟨body, rfl⟩ := exists_double_of_isQuoted h
  exact ⟨double q.closing body, rfl, by rw [content_of_double, undouble_double],
    by rw [content_of_double]⟩

/-- A text that goes on after a quoted name, but not with a closing delimiter, is scanned up to the
end of the name. It is read as the name itself or, where this is quoted already, as what stands in
its delimiters. Names that are not quoted already are told apart by how they are quoted. -/
theorem scan_escape_append (q : Quotes) (name rest : List Char) :
    (rest.head? ≠ some q.closing →
      ∃ body, q.scan? (q.escape name ++ rest) = some (body, rest) ∧
        (q.isQuoted name = false → body = name) ∧
        (q.isQuoted name = true →
          ∃ inner, name = q.opening :: (inner ++ [q.closing]) ∧ body = undouble q.closing inner ∧
            double q.closing body = inner)) ∧
      ∀ other, q.isQuoted name = false → q.isQuoted other = false → name ≠ other →
        q.escape name ≠ q.escape other := by
  constructor
  · intro hrest
    exact ⟨q.content name, scan?_escape name hrest, content_of_not_quoted,
      exists_body_of_isQuoted⟩
  · intro other hname hother hne h
    have hend : ([] : List Char).head? ≠ some q.closing := (Option.some_ne_none _).symm
    have hscan := scan?_escape name hend
    rw [h, scan?_escape other hend, content_of_not_quoted hname,
      content_of_not_quoted hother] at hscan
    exact hne (Prod.mk.inj (Option.some.inj hscan)).1.symm

theorem scan_escape_append_delimiter :
    ∃ body, scan? ⟨'"', '"'⟩ (escape ⟨'"', '"'⟩ ['"'] ++ ['.', 'x']) = some (body, ['.', 'x']) ∧
      body = ['"'] := by
  obtain ⟨body, hscan, hbody, -⟩ :=
    (scan_escape_append ⟨'"', '"'⟩ ['"'] ['.', 'x']).1 (by decide)
  exact ⟨body, hscan, hbody rfl⟩

end TableTransfer.Quotes
