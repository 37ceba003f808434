import Mathlib.Data.List.NodupEquivFin
import Mathlib.Data.Nat.Find
import TableTransfer.Proofs.Marshaller.Found

namespace TableTransfer

theorem find?_reverse_of_last {α : Type} {p : α → Bool} {xs : List α} {x : α} {j : Nat}
    (hj : xs[j]? = some x) (hx : p x = true)
    (hafter : ∀ k y, j < k → xs[k]? = some y → p y = false) : xs.reverse.find? p = some x := by
  obtain ⟨hlt, rfl⟩ := List.getElem?_eq_some_iff.1 hj
  rw [List.find?_eq_some_iff_append]
  refine ⟨hx, (xs.drop (j + 1)).reverse, (xs.take j).reverse, ?_, fun y hy => ?_⟩
  · conv_lhs => rw [← List.take_append_drop j xs, List.drop_eq_getElem_cons hlt]
    simp
  · obtain ⟨k, hk⟩ := List.mem_iff_getElem?.1 (List.mem_reverse.1 hy)
    rw [List.getElem?_drop] at hk
    rw [hafter (j + 1 + k) y (by omega) hk, Bool.not_false]

namespace Column

def IsLast (names : List String) (name : String) (j : Nat) : Prop :=
  names[j]? = some name ∧ ∀ k, j < k → names[k]? ≠ some name

def IsFirst (names : List String) (name : String) (j : Nat) : Prop :=
  names[j]? = some name ∧ ∀ k, k < j → names[k]? ≠ some name

section

variable {names : List String} {name : String} {i j : Nat}

theorem exists_isFirst (h : name ∈ names) : ∃ j, IsFirst names name j := by
  have hex : ∃ j, names[j]? = some name := List.mem_iff_getElem?.1 h
  exact ⟨Nat.find hex, Nat.find_spec hex, fun k hk => Nat.find_min hex hk⟩

theorem exists_isLast (h : name ∈ names) : ∃ j, IsLast names name j := by
  obtain ⟨i, hi⟩ := List.mem_iff_getElem?.1 h
  have hlt : i ≤ names.length := Nat.le_of_lt (List.getElem?_eq_some_iff.1 hi).1
  refine ⟨Nat.findGreatest (fun j => names[j]? = some name) names.length,
    Nat.findGreatest_spec (P := fun j => names[j]? = some name) hlt hi, fun k hk hname => ?_⟩
  exact Nat.findGreatest_is_greatest hk (Nat.le_of_lt (List.getElem?_eq_some_iff.1 hname).1) hname

theorem IsLast.unique (hi : IsLast names name i) (hj : IsLast names name j) : i = j := by
  rcases Nat.lt_trichotomy i j with h | h | h
  · exact absurd hj.1 (hi.2 j h)
  · exact h
  · exact absurd hi.1 (hj.2 i h)

theorem IsFirst.eq_last_iff (hi : IsFirst names name i) (hj : IsLast names name j) :
    i = j ↔ names.count name ≤ 1 := by
  have hrepeated : 2 ≤ names.count name ↔ i < j := by
    rw [← List.duplicate_iff_two_le_count, List.duplicate_iff_exists_distinct_get]
    constructor
    · rintro ⟨n, m, hnm, hn, hm⟩
      have hin : i ≤ n := by
        by_contra hlt
        exact hi.2 n (Nat.lt_of_not_le hlt) (List.getElem?_eq_some_iff.2 ⟨n.2, hn.symm⟩)
      have hmj : m ≤ j := by
        by_contra hlt
        exact hj.2 m (Nat.lt_of_not_le hlt) (List.getElem?_eq_some_iff.2 ⟨m.2, hm.symm⟩)
      exact Nat.lt_of_le_of_lt hin (Nat.lt_of_lt_of_le hnm hmj)
    · intro hij
      obtain ⟨hilt, hieq⟩ := List.getElem?_eq_some_iff.1 hi.1
      obtain ⟨hjlt, hjeq⟩ := List.getElem?_eq_some_iff.1 hj.1
      exact ⟨⟨i, hilt⟩, ⟨j, hjlt⟩, hij, hieq.symm, hjeq.symm⟩
  have hle : i ≤ j := by
    by_contra hlt
    exact hi.2 j (Nat.lt_of_not_le hlt) hj.1
  omega

end

/-- The answer for a name is that for the column at the position: it follows whichever column of the
name stands there. -/
structure DecidedAt {α : Type} (cs : List Column) (name : String) (i : Nat)
    (answer : List Column → α) (own : Column → α) : Prop where
  named : ∃ c, cs[i]? = some c ∧ c.name = name
  follows (d : Column) : d.name = name → answer (cs.set i d) = own d

section

variable {cs : List Column} {name : String} {i j : Nat} {c : Column}

theorem getElem?_of_map_name (h : (cs.map Column.name)[i]? = some name) :
    ∃ c, cs[i]? = some c ∧ c.name = name := by
  rwa [List.getElem?_map, Option.map_eq_some_iff] at h

theorem cover_of_map_name_eq {cs' : List Column} {fields : List Field}
    (h : cs.map Column.name = cs'.map Column.name) (hcover : Cover cs fields) : Cover cs' fields :=
  fun f hf => List.mem_map.1 (h ▸ List.mem_map.2 (hcover f hf))

theorem map_name_set (hi : cs[i]? = some c) {d : Column} (hd : d.name = c.name) :
    (cs.set i d).map Column.name = cs.map Column.name := by
  have hnames : (cs.map Column.name)[i]? = some c.name := by
    rw [List.getElem?_map, hi, Option.map_some]
  obtain ⟨hlt, hname⟩ := List.getElem?_eq_some_iff.1 hnames
  rw [List.map_set, hd, ← hname, List.set_getElem_self]

theorem decidedAt_iff {α : Type} {answer : List Column → α} (own : Nat → Column → α)
    (hj : cs[j]? = some c) (hname : c.name = name)
    (hanswer : ∀ cs' d, cs'.map Column.name = cs.map Column.name → cs'[j]? = some d →
      answer cs' = own j d)
    (hown : ∃ d d' : Column, d.name = name ∧ d'.name = name ∧ own i d ≠ own i d') :
    DecidedAt cs name i answer (own i) ↔ i = j := by
  constructor
  · rintro ⟨⟨b, hb, hbname⟩, hfollows⟩
    by_contra hij
    -- Whatever stands at the other position, the answer stays that for the column here.
    have hsame : ∀ d : Column, d.name = name → own i d = own j c := by
      intro d hd
      rw [← hfollows d hd]
      refine hanswer _ c (map_name_set hb (hd.trans hbname.symm)) ?_
      rw [List.getElem?_set_ne hij, hj]
    obtain ⟨d, d', hd, hd', hne⟩ := hown
    exact hne ((hsame d hd).trans (hsame d' hd').symm)
  · rintro rfl
    refine ⟨⟨c, hj, hname⟩, fun d hd => ?_⟩
    refine hanswer _ d (map_name_set hj (hd.trans hname.symm)) ?_
    rw [List.getElem?_set_self (List.getElem?_eq_some_iff.1 hj).1]

theorem last?_of_isLast (h : IsLast (cs.map Column.name) name j) (hj : cs[j]? = some c) :
    last? name cs = some c := by
  refine find?_reverse_of_last hj ?_ fun k d hk hd => ?_
  · simpa [hj] using h.1
  · simpa [hd] using h.2 k hk

end

end Column

namespace Marshaller

variable {cs : List Column} {name : String} {j : Nat} {c : Column}

theorem sourceColumn?_of_isLast (h : Column.IsLast (cs.map Column.name) name j)
    (hj : cs[j]? = some c) : sourceColumn? cs name = some (c.columnType (j + 1)) := by
  have hcolumn (k : Nat) : (Column.columnTypes cs)[k]? = cs[k]?.map fun c => c.columnType (k + 1) :=
    List.getElem?_mapIdx
  refine find?_reverse_of_last (j := j) ?_ ?_ fun k d hk hd => ?_
  · rw [hcolumn, hj, Option.map_some]
  · simpa [hj, Column.columnType] using h.1
  · rw [hcolumn] at hd
    obtain ⟨b, hb, rfl⟩ := Option.map_eq_some_iff.1 hd
    simpa [hb, Column.columnType] using h.2 k hk

theorem sinkColumn?_of_isFirst (h : Column.IsFirst (cs.map Column.name) name j)
    (hj : cs[j]? = some c) (ordinal : Nat) :
    sinkColumn? cs ordinal name = some (c.columnType ordinal) := by
  have hfound : cs.find? (fun c => c.name == name) = some c := by
    obtain ⟨hlt, rfl⟩ := List.getElem?_eq_some_iff.1 hj
    rw [List.find?_eq_some_iff_getElem]
    refine ⟨?_, j, hlt, rfl, fun k hk => ?_⟩
    · simpa [hj] using h.1
    · have hne := h.2 k hk
      simpa [Nat.lt_trans hk hlt] using hne
  rw [sinkColumn?, hfound, Option.map_some]

end Marshaller

namespace Role

def marshaller (role : Role) (v : Vendor) (fields : List Field) (cs : List Column) :
    Except Error Marshaller :=
  match role with
  | source => Marshaller.forSource v fields cs
  | sink => Marshaller.forSink v fields cs

def bound? (role : Role) (v : Vendor) (fields : List Field) (n : Nat) (cs : List Column) :
    Option ColumnType :=
  match role.marshaller v fields cs with
  | .ok m => m.columns[n]?
  | .error _ => none

def ordinal (role : Role) (n i : Nat) : Nat :=
  match role with
  | source => i + 1
  | sink => n + 1

/-- The position of the column that fields of the name are bound to. -/
def Binds (role : Role) (names : List String) (name : String) (j : Nat) : Prop :=
  match role with
  | source => Column.IsLast names name j
  | sink => Column.IsFirst names name j

theorem Binds.getElem?_eq {role : Role} {names : List String} {name : String} {j : Nat}
    (h : role.Binds names name j) : names[j]? = some name := by
  cases role with
  | source => exact h.1
  | sink => exact h.1

theorem exists_binds (role : Role) {names : List String} {name : String} (h : name ∈ names) :
    ∃ j, role.Binds names name j := by
  cases role with
  | source => exact Column.exists_isLast h
  | sink => exact Column.exists_isFirst h

section

variable {role : Role} {v : Vendor} {fields : List Field} {cs : List Column} {n j : Nat} {f : Field}
  {c : Column}

theorem bound?_of_binds (hcover : Column.Cover cs fields) (hf : fields[n]? = some f)
    (h : role.Binds (cs.map Column.name) f.name j) (hj : cs[j]? = some c) :
    role.bound? v fields n cs = some (c.columnType (role.ordinal n j)) := by
  cases role with
  | source =>
      obtain ⟨m, hm⟩ := Marshaller.exists_forSource v hcover
      simp only [bound?, marshaller, hm]
      rw [Marshaller.getElem?_columns_forSource hm hf, Marshaller.sourceColumn?_of_isLast h hj,
        ordinal]
  | sink =>
      obtain ⟨m, hm⟩ := Marshaller.exists_forSink v hcover
      simp only [bound?, marshaller, hm]
      rw [Marshaller.getElem?_columns_forSink hm hf, Marshaller.sinkColumn?_of_isFirst h hj, ordinal]

theorem cover_of_marshaller {m : Marshaller} (h : role.marshaller v fields cs = .ok m) :
    Column.Cover cs fields := by
  intro f hf
  cases role with
  | source =>
      obtain ⟨b, -, -, hcolumn⟩ := exists_right_of_forall₂ (Marshaller.forSource_eq_ok h).2 hf
      obtain ⟨i, c, hc, hname, -⟩ := Marshaller.sourceColumn?_eq_some hcolumn
      exact ⟨c, List.mem_of_getElem? hc, hname⟩
  | sink =>
      obtain ⟨hall, -⟩ := Marshaller.sinkBindings_eq_ok (Marshaller.forSink_eq_ok h).2
      obtain ⟨b, -, -, i, hcolumn⟩ := exists_right_of_forall₂ hall hf
      obtain ⟨c, hc, -⟩ := Option.map_eq_some_iff.1 hcolumn
      exact ⟨c, List.mem_of_find?_eq_some hc, by simpa using List.find?_some hc⟩

theorem exists_unbound_of_sinkBindings {ordinal : Nat} {e : Error}
    (h : Marshaller.sinkBindings cs ordinal fields = .error e) :
    ∃ f ∈ fields, e = .conversion f.name .noDestinationColumn ∧ ∀ c ∈ cs, c.name ≠ f.name := by
  induction fields generalizing ordinal with
  | nil => cases h
  | cons f fields ih =>
      rw [Marshaller.sinkBindings] at h
      split at h
      · obtain h | ⟨rest, -, h⟩ := bind_eq_error.1 h
        · obtain ⟨g, hg, hunbound⟩ := ih h
          exact ⟨g, List.mem_cons_of_mem _ hg, hunbound⟩
        · cases h
      · rename_i hnone
        cases h
        exact ⟨f, List.mem_cons_self, rfl, Marshaller.sinkColumn?_eq_none_iff.1 hnone⟩

/-- A marshaller is refused only for want of a column for some field. -/
theorem exists_unbound {e : Error} (h : role.marshaller v fields cs = .error e) :
    ∃ f ∈ fields, (∃ fault, e = .conversion f.name fault) ∧ ∀ c ∈ cs, c.name ≠ f.name := by
  cases role with
  | source =>
      obtain h | ⟨bs, -, h⟩ := bind_eq_error.1 h
      · obtain ⟨f, hf, hfault⟩ := exists_of_mapM_error h
        split at hfault
        · cases hfault
        · rename_i hnone
          cases hfault
          exact ⟨f, hf, ⟨_, rfl⟩, Marshaller.sourceColumn?_eq_none_iff.1 hnone⟩
      · cases h
  | sink =>
      obtain h | ⟨bs, -, h⟩ := bind_eq_error.1 h
      · obtain ⟨f, hf, rfl, hnone⟩ := exists_unbound_of_sinkBindings h
        exact ⟨f, hf, ⟨_, rfl⟩, hnone⟩
      · cases h

end

end Role

namespace Schema

variable {v : Vendor} {role : Role} {fields : List Field} {cs : List Column} {name : String}
  {i j : Nat} {c : Column}

theorem absent_mem_validate {f : Field} (hf : f ∈ fields) (hnone : ∀ c ∈ cs, c.name ≠ f.name) :
    Failure.absent role f ∈ validate v role fields cs := by
  have hlast : Column.last? f.name cs = none := by
    rw [Option.eq_none_iff_forall_ne_some]
    intro c hc
    exact hnone c (Column.of_last? hc).1 (Column.of_last? hc).2
  refine List.mem_append_left _ (List.mem_filterMap.2 ⟨f, hf, ?_⟩)
  rw [fieldFailureBy?, hlast]

/-- Fields of the name are checked against the column at the position. -/
def ChecksAt (v : Vendor) (role : Role) (cs : List Column) (name : String) (i : Nat) : Prop :=
  Column.DecidedAt cs name i (fun cs (type : UniversalType) => fieldFailure? v role cs ⟨name, type⟩)
    fun c type => fieldFailure? v role [c] ⟨name, type⟩

theorem last?_singleton (hname : c.name = name) : Column.last? name [c] = some c := by
  rw [Column.last?, List.reverse_singleton, List.find?_singleton, if_pos (beq_iff_eq.2 hname)]

theorem fieldFailure?_singleton {f : Field} (hlast : Column.last? f.name cs = some c) :
    fieldFailure? v role [c] f = fieldFailure? v role cs f := by
  rw [fieldFailure?, fieldFailure?, fieldFailureBy?, fieldFailureBy?, hlast,
    last?_singleton (Column.of_last? hlast).2]

theorem exists_fieldFailure?_ne (v : Vendor) (role : Role) (name : String) :
    ∃ c d : Column, c.name = name ∧ d.name = name ∧
      (fun type => fieldFailure? v role [c] ⟨name, type⟩) ≠
        fun type => fieldFailure? v role [d] ⟨name, type⟩ := by
  let column (type : StandardType) : Column := ⟨name, type.code, "", 0, 0, true, false⟩
  let flag : Field := ⟨name, ⟨.boolean, false⟩⟩
  have hboolean : fieldFailure? v role [column .boolean] flag = none := by
    rw [fieldFailure?, fieldFailureBy?, last?_singleton (c := column .boolean) rfl]
    cases v <;> cases role <;> rfl
  have hbinary : fieldFailure? v role [column .binary] flag =
      some (.mismatch role flag (column .binary)) := by
    rw [fieldFailure?, fieldFailureBy?, last?_singleton (c := column .binary) rfl]
    cases v <;> cases role <;> rfl
  refine ⟨column .boolean, column .binary, rfl, rfl, fun h => ?_⟩
  have hflag : fieldFailure? v role [column .boolean] flag =
      fieldFailure? v role [column .binary] flag := congrFun h ⟨.boolean, false⟩
  rw [hboolean, hbinary] at hflag
  cases hflag

theorem checksAt_iff (h : Column.IsLast (cs.map Column.name) name j) :
    ChecksAt v role cs name i ↔ i = j := by
  obtain ⟨c, hj, hname⟩ := Column.getElem?_of_map_name h.1
  refine Column.decidedAt_iff
    (fun _ c (type : UniversalType) => fieldFailure? v role [c] ⟨name, type⟩) hj hname
    (fun cs' d hnames hd => ?_) (exists_fieldFailure?_ne v role name)
  funext type
  exact (fieldFailure?_singleton (Column.last?_of_isLast (hnames ▸ h) hd)).symm

end Schema

namespace Role

variable {role : Role} {v : Vendor} {fields : List Field} {cs : List Column} {n i j : Nat}
  {name : String} {f : Field}

def BindsAt (role : Role) (v : Vendor) (fields : List Field) (cs : List Column) (n : Nat)
    (name : String) (i : Nat) : Prop :=
  Column.DecidedAt cs name i (role.bound? v fields n) fun c => some (c.columnType (role.ordinal n i))

theorem bindsAt_iff (hcover : Column.Cover cs fields) (hf : fields[n]? = some f)
    (h : role.Binds (cs.map Column.name) f.name j) :
    role.BindsAt v fields cs n f.name i ↔ i = j := by
  obtain ⟨c, hj, hname⟩ := Column.getElem?_of_map_name h.getElem?_eq
  refine Column.decidedAt_iff (fun i c => some (c.columnType (role.ordinal n i))) hj hname
    (fun cs' d hnames hd => ?_) ?_
  · rw [← hnames] at h
    exact bound?_of_binds (Column.cover_of_map_name_eq hnames.symm hcover) hf h hd
  · let column (typeName : String) : Column := ⟨f.name, ⟨0⟩, typeName, 0, 0, true, true⟩
    refine ⟨column "INTEGER", column "VARCHAR", rfl, rfl, fun h => ?_⟩
    have htype := congrArg ColumnType.typeName (Option.some.inj h)
    simp [column, Column.columnType] at htype

/-- One column of the name is both the one that the field is checked against and the one that it is
bound to. -/
def ChecksBound (role : Role) (v : Vendor) (fields : List Field) (cs : List Column) (n : Nat)
    (name : String) : Prop :=
  ∃ i, ∀ k, (Schema.ChecksAt v role cs name k ↔ k = i) ∧
    (role.BindsAt v fields cs n name k ↔ k = i)

theorem checksBound_iff (hcover : Column.Cover cs fields) (hf : fields[n]? = some f) :
    role.ChecksBound v fields cs n f.name ↔
      role = source ∨ (cs.map Column.name).count f.name ≤ 1 := by
  have hmem : f.name ∈ cs.map Column.name := List.mem_map.2 (hcover f (List.mem_of_getElem? hf))
  obtain ⟨i, hi⟩ := role.exists_binds hmem
  obtain ⟨j, hj⟩ := Column.exists_isLast hmem
  have hsame : role.ChecksBound v fields cs n f.name ↔ i = j := by
    constructor
    · rintro ⟨k, hk⟩
      have hki : i = k := (hk i).2.1 ((bindsAt_iff hcover hf hi).2 rfl)
      have hkj : j = k := (hk j).1.1 ((Schema.checksAt_iff hj).2 rfl)
      exact hki.trans hkj.symm
    · rintro rfl
      exact ⟨i, fun k => ⟨Schema.checksAt_iff hj, bindsAt_iff hcover hf hi⟩⟩
  rw [hsame]
  cases role with
  | source => exact iff_of_true (hi.unique hj) (.inl rfl)
  | sink => rw [hi.eq_last_iff hj, or_iff_right nofun]

end Role

namespace Schema

/-- A marshaller is refused only for a field that validation reports as absent. In one that is made,
a field that is read is bound to the column that it is checked against; one that is written is so just
if no two columns have its name. -/
theorem checksBound_marshaller_iff (role : Role) (v : Vendor) (fields : List Field)
    (cs : List Column) :
    (∀ e, role.marshaller v fields cs = .error e →
      ∃ f ∈ fields, (∃ fault, e = .conversion f.name fault) ∧
        Failure.absent role f ∈ validate v role fields cs) ∧
    ∀ m, role.marshaller v fields cs = .ok m → ∀ n f, fields[n]? = some f →
      (role.ChecksBound v fields cs n f.name ↔
        role = .source ∨ (cs.map Column.name).count f.name ≤ 1) := by
  constructor
  · intro e he
    obtain ⟨f, hf, hfault, hnone⟩ := Role.exists_unbound he
    exact ⟨f, hf, hfault, absent_mem_validate hf hnone⟩
  · intro m hm n f hf
    exact Role.checksBound_iff (Role.cover_of_marshaller hm) hf

def repeatedColumns : List Column :=
  [{ name := "X", code := StandardType.varchar.code, typeName := "VARCHAR" },
    { name := "X", code := StandardType.integer.code, typeName := "INTEGER" }]

def numberField (name : String) : Field := ⟨name, ⟨.int, false⟩⟩

theorem checksBound_marshaller_repeated :
    (∃ m, Role.source.marshaller .generic [numberField "X"] repeatedColumns = .ok m) ∧
      Role.source.ChecksBound .generic [numberField "X"] repeatedColumns 0 "X" ∧
      Role.sink.marshaller .generic [numberField "X", numberField "Y"] repeatedColumns =
        .error (.conversion "Y" .noDestinationColumn) ∧
      ∃ f ∈ [numberField "X", numberField "Y"],
        (∃ fault, Error.conversion "Y" .noDestinationColumn = .conversion f.name fault) ∧
          Failure.absent .sink f ∈
            validate .generic .sink [numberField "X", numberField "Y"] repeatedColumns := by
  obtain ⟨-, hmade⟩ :=
    checksBound_marshaller_iff .source .generic [numberField "X"] repeatedColumns
  obtain ⟨hrefused, -⟩ :=
    checksBound_marshaller_iff .sink .generic [numberField "X", numberField "Y"] repeatedColumns
  exact ⟨⟨_, rfl⟩, (hmade _ rfl 0 (numberField "X") rfl).2 (.inl rfl), rfl, hrefused _ rfl⟩

/-- The number is checked against the column of numbers and written to the one of text, which refuses
it. -/
theorem repeated_column_unchecked :
    validate .generic .sink [numberField "X"] repeatedColumns = [] ∧
      (∃ m, Role.sink.marshaller .generic [numberField "X"] repeatedColumns = .ok m ∧
        (m.writeRecord (.ofList [("X", .int 5)])).runOn ({} : Statement) =
          (.error (.conversion "X" (.unwritable "int" "VARCHAR" "X")), {})) ∧
      ¬Role.sink.ChecksBound .generic [numberField "X"] repeatedColumns 0 "X" := by
  obtain ⟨m, hm⟩ :
      ∃ m, Role.sink.marshaller .generic [numberField "X"] repeatedColumns = .ok m := ⟨_, rfl⟩
  have hcover := Role.cover_of_marshaller hm
  refine ⟨rfl, ⟨_, rfl, rfl⟩, fun h => ?_⟩
  rcases (Role.checksBound_iff hcover (n := 0) rfl).1 h with hrole | hcount
  · cases hrole
  · exact absurd hcount (by decide)

end Schema

end TableTransfer
