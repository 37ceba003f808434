import TableTransfer.Identifier

namespace TableTransfer

inductive Token where
  | word (letters : List Char)
  | name (body : List Char)
  | mark (c : Char)
deriving DecidableEq, Repr

namespace Quotes

def undouble (closing : Char) : List Char → List Char
  | [] => []
  | c :: cs =>
    if c = closing then
      match cs with
      | [] => [c]
      | _ :: cs => c :: undouble closing cs
    else c :: undouble closing cs

/-- What the name is called: it itself or, where it is quoted already, what its delimiters hold. -/
def content (q : Quotes) (name : List Char) : List Char :=
  match q.body? name with
  | some body => if isDoubled q.closing body then undouble q.closing body else name
  | none => name

/-- What is read between two characters of a statement. After a closing delimiter the name has
ended or goes on with this delimiter. -/
inductive Reading where
  | between
  | word (letters : List Char)
  | name (body : List Char)
  | closed (body : List Char)

variable (q : Quotes)

/-- The tokens that a character completes, and what is read after it, where no token is begun. -/
def begin (c : Char) : List Token × Reading :=
  if c.isWhitespace then ([], .between)
  else if c = q.opening then ([], .name [])
  else if c.isAlpha then ([], .word [c])
  else ([.mark c], .between)

def step (r : Reading) (c : Char) : List Token × Reading :=
  match r with
  | .between => q.begin c
  | .word letters =>
    if c.isAlpha then ([], .word (letters ++ [c]))
    else (.word letters :: (q.begin c).1, (q.begin c).2)
  | .name body => if c = q.closing then ([], .closed body) else ([], .name (body ++ [c]))
  | .closed body =>
    if c = q.closing then ([], .name (body ++ [c]))
    else (.name body :: (q.begin c).1, (q.begin c).2)

/-- The tokens of a text, if it does not end inside a name. -/
def tokensFrom (r : Reading) : List Char → Option (List Token)
  | [] =>
    match r with
    | .between => some []
    | .word letters => some [.word letters]
    | .name _ => none
    | .closed body => some [.name body]
  | c :: cs => (tokensFrom (q.step r c).2 cs).map ((q.step r c).1 ++ ·)

def tokens (cs : List Char) : Option (List Token) := q.tokensFrom .between cs

def separators : List Char := [' ', '(', ')', ',', '.', '?']

/-- The delimiters are neither blanks nor letters nor what separates the tokens of a statement. -/
structure Apart : Prop where
  opening_not_blank : q.opening.isWhitespace = false
  opening_not_letter : q.opening.isAlpha = false
  not_separator : separators.all (fun c => c != q.opening && c != q.closing) = true

variable {q}

theorem Apart.ne_of_separator (h : q.Apart) {c : Char} (hc : c ∈ separators) :
    c ≠ q.opening ∧ c ≠ q.closing := by
  simpa using List.all_eq_true.1 h.not_separator c hc

theorem undouble_double (closing : Char) (cs : List Char) :
    undouble closing (double closing cs) = cs := by
  induction cs with
  | nil => rfl
  | cons c cs ih =>
      by_cases h : c = closing
      · simp [double, undouble, h, ih]
      · rw [double, if_neg h, undouble.eq_def]
        simp [h, ih]

theorem double_undouble {closing : Char} {cs : List Char} (h : isDoubled closing cs = true) :
    double closing (undouble closing cs) = cs := by
  fun_induction isDoubled closing cs with
  | case1 => rfl
  | case2 => cases h
  | case3 d cs ih =>
      obtain ⟨hd, hcs⟩ := Bool.and_eq_true_iff.1 h
      obtain rfl := beq_iff_eq.1 hd
      simp [undouble, double, ih hcs]
  | case4 c cs hne ih =>
      rw [undouble.eq_def]
      simp [hne, double, ih h]

theorem body?_eq_some_iff {name body : List Char} :
    q.body? name = some body ↔ name = q.opening :: (body ++ [q.closing]) := by
  cases name with
  | nil => simp [body?]
  | cons c rest =>
      by_cases hc : c = q.opening
      · simp [body?, hc, Text.dropEnd?_eq_some_iff]
      · simp [body?, hc]

theorem content_of_not_quoted {name : List Char} (h : q.isQuoted name = false) :
    q.content name = name := by
  rw [isQuoted] at h
  rw [content]
  cases hbody : q.body? name with
  | none => rfl
  | some body =>
      rw [hbody] at h
      dsimp only at h ⊢
      rw [h]
      rfl

theorem content_of_double (q : Quotes) (body : List Char) :
    q.content (q.opening :: (double q.closing body ++ [q.closing])) = body := by
  rw [content, body?_eq_some_iff.2 rfl]
  dsimp only
  rw [if_pos (isDoubled_double ..), undouble_double]

theorem exists_double_of_isQuoted {name : List Char} (h : q.isQuoted name = true) :
    ∃ body, name = q.opening :: (double q.closing body ++ [q.closing]) := by
  rw [isQuoted] at h
  cases hbody : q.body? name with
  | none =>
      rw [hbody] at h
      cases h
  | some body =>
      rw [hbody] at h
      exact ⟨undouble q.closing body, by rw [double_undouble h]; exact body?_eq_some_iff.1 hbody⟩

theorem escape_eq (q : Quotes) (name : List Char) :
    q.escape name = q.opening :: (double q.closing (q.content name) ++ [q.closing]) := by
  rw [escape]
  cases hquoted : q.isQuoted name with
  | false =>
      rw [content_of_not_quoted hquoted]
      rfl
  | true =>
      obtain ⟨body, rfl⟩ := exists_double_of_isQuoted hquoted
      rw [content_of_double]
      rfl

theorem tokensFrom_name (body read rest : List Char) :
    q.tokensFrom (.name read) (double q.closing body ++ q.closing :: rest) =
      q.tokensFrom (.closed (read ++ body)) rest := by
  induction body generalizing read with
  | nil => simp [double, tokensFrom, step]
  | cons c body ih =>
      by_cases hc : c = q.closing
      · simp [double, tokensFrom, step, hc, ih]
      · simp [double, tokensFrom, step, hc, ih]

theorem tokensFrom_closed {rest : List Char} (h : rest.head? ≠ some q.closing)
    (body : List Char) :
    q.tokensFrom (.closed body) rest = (q.tokens rest).map (.name body :: ·) := by
  cases rest with
  | nil => rfl
  | cons c rest =>
      have hc : c ≠ q.closing := fun hc => h (congrArg some hc)
      simp [tokens, tokensFrom, step, hc, Function.comp_def]

/-- Whatever a name is called, it is read as one name, and the rest is read as if it stood alone. -/
theorem tokens_escape (hopening : q.opening.isWhitespace = false) (name : List Char)
    {rest : List Char} (h : rest.head? ≠ some q.closing) :
    q.tokens (q.escape name ++ rest) = (q.tokens rest).map (.name (q.content name) :: ·) := by
  have hbegin : q.begin q.opening = ([], .name []) := by simp [begin, hopening]
  rw [escape_eq, List.cons_append, List.append_assoc, List.cons_append, List.nil_append, tokens,
    tokensFrom, step, hbegin]
  dsimp only
  rw [tokensFrom_name, List.nil_append, tokensFrom_closed h, Option.map_map]
  rfl

theorem tokens_blank {c : Char} (h : c.isWhitespace = true) (rest : List Char) :
    q.tokens (c :: rest) = q.tokens rest := by
  simp [tokens, tokensFrom, step, begin, h]

theorem tokensFrom_word {letters : List Char} (hletters : letters.all Char.isAlpha = true)
    (read rest : List Char) :
    q.tokensFrom (.word read) (letters ++ ' ' :: rest) =
      (q.tokens rest).map (.word (read ++ letters) :: ·) := by
  induction letters generalizing read with
  | nil => simp [tokens, tokensFrom, step, begin]
  | cons c letters ih =>
      obtain ⟨hc, hletters⟩ := Bool.and_eq_true_iff.1 hletters
      simp [tokensFrom, step, hc, ih hletters, Function.comp_def]

theorem Apart.tokens_word (h : q.Apart) {c : Char} {letters : List Char}
    (hblank : c.isWhitespace = false) (hletters : (c :: letters).all Char.isAlpha = true)
    (rest : List Char) :
    q.tokens (c :: letters ++ ' ' :: rest) = (q.tokens rest).map (.word (c :: letters) :: ·) := by
  obtain ⟨hc, hletters⟩ := Bool.and_eq_true_iff.1 hletters
  have hopening : c ≠ q.opening := by
    rintro rfl
    rw [h.opening_not_letter] at hc
    cases hc
  have hbegin : q.begin c = ([], .word [c]) := by simp [begin, hblank, hopening, hc]
  rw [List.cons_append, tokens, tokensFrom, step, hbegin]
  dsimp only
  rw [tokensFrom_word hletters, Option.map_map]
  rfl

theorem Apart.tokens_mark (h : q.Apart) {c : Char} (hc : c ∈ separators.tail)
    (rest : List Char) : q.tokens (c :: rest) = (q.tokens rest).map (.mark c :: ·) := by
  have hopening : c ≠ q.opening := (h.ne_of_separator (List.mem_of_mem_tail hc)).1
  have hmarks : separators.tail.all (fun c => !c.isWhitespace && !c.isAlpha) = true := by decide
  obtain ⟨hblank, hletter⟩ := Bool.and_eq_true_iff.1 (List.all_eq_true.1 hmarks c hc)
  simp_all [tokens, tokensFrom, step, begin]

end Quotes

end TableTransfer
