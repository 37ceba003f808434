namespace TableTransfer.Text

def lower (s : String) : String := String.ofList (s.toList.map Char.toLower)

def upper (s : String) : String := String.ofList (s.toList.map Char.toUpper)

def sameLetters (s t : String) : Bool := lower s == lower t

def dropStart? : List Char → List Char → Option (List Char)
  | [], cs => some cs
  | _ :: _, [] => none
  | a :: start, c :: cs => if a = c then dropStart? start cs else none

def dropEnd? (final cs : List Char) : Option (List Char) :=
  (dropStart? final.reverse cs.reverse).map List.reverse

def dropEndAll (final cs : List Char) : List Char :=
  go cs.length cs
where
  go : Nat → List Char → List Char
    | 0, cs => cs
    | fuel + 1, cs =>
      match dropEnd? final cs with
      | some rest => go fuel rest
      | none => cs

def isOneOf (names : List String) (s : String) : Bool := names.any (sameLetters s)

theorem sameLetters_congr {s t : String} (h : sameLetters s t = true) :
    sameLetters s = sameLetters t := by
  funext u
  rw [sameLetters, sameLetters, beq_iff_eq.1 h]

theorem isOneOf_congr {s t : String} (h : sameLetters s t = true) (names : List String) :
    isOneOf names s = isOneOf names t := by
  rw [isOneOf, isOneOf, sameLetters_congr h]

theorem dropStart?_eq_some_iff {start cs rest : List Char} :
    dropStart? start cs = some rest ↔ cs = start ++ rest := by
  induction start generalizing cs with
  | nil => simp [dropStart?, eq_comm]
  | cons a start ih =>
    cases cs with
    | nil => simp [dropStart?]
    | cons c cs =>
      by_cases h : a = c
      · simp [dropStart?, h, ih]
      · simp [dropStart?, h, Ne.symm h]

theorem dropEnd?_eq_some_iff {final cs rest : List Char} :
    dropEnd? final cs = some rest ↔ cs = rest ++ final := by
  simp only [dropEnd?, Option.map_eq_some_iff, dropStart?_eq_some_iff]
  constructor
  · rintro ⟨r, h, rfl⟩
    simpa using congrArg List.reverse h
  · rintro rfl
    exact ⟨rest.reverse, by simp, by simp⟩

def holds (word : List Char) : List Char → Bool
  | [] => word.isEmpty
  | c :: cs => (dropStart? word (c :: cs)).isSome || holds word cs

def consPiece (c : Char) : List (List Char) → List (List Char)
  | [] => [[c]]
  | piece :: pieces => (c :: piece) :: pieces

/-- The pieces between the occurrences of `word`, the first `skip` characters left out. -/
def piecesFrom (word : List Char) : Nat → List Char → List (List Char)
  | _, [] => [[]]
  | skip + 1, _ :: cs => piecesFrom word skip cs
  | 0, c :: cs =>
    if (dropStart? word (c :: cs)).isSome then [] :: piecesFrom word (word.length - 1) cs
    else consPiece c (piecesFrom word 0 cs)

def pieces (word cs : List Char) : List (List Char) := piecesFrom word 0 cs

def replace (word new cs : List Char) : List Char := new.intercalate (pieces word cs)

end TableTransfer.Text
