import TableTransfer.Proofs.Catalog.Resolved
import TableTransfer.Proofs.Text.Ascii

namespace TableTransfer

namespace Text

theorem trim_sublist (cs : List Char) : (trim cs).Sublist cs := by
  have hend : (trimEnd (trimStart cs)).reverse.Sublist (trimStart cs).reverse := by
    rw [trimEnd, List.reverse_reverse]
    exact List.dropWhile_sublist _
  exact (List.reverse_sublist.1 hend).trans (List.dropWhile_sublist _)

theorem lower_trimmed {s : String} (h : lower s = s) : lower (trimmed s) = trimmed s := by
  rw [lower_eq_self_iff] at h ⊢
  rw [trimmed, String.toList_ofList]
  exact fun c hc => h c ((trim_sublist s.toList).subset hc)

end Text

namespace Catalog

/-- The catalog finds the name under itself, as what was last registered as it. -/
structure Answers (c : Catalog) (rs : List Registration) (id : String) : Prop where
  contains_eq : c.contains id = true
  normalize_eq : c.normalize? id = some id
  require_eq : ∃ r, Latest (fun r => r.key = id) rs r ∧ c.require id = .ok r.profile

/-- Without the blanks around it, the name is not registered, but is an alias of the name with them. -/
def IsOwnAlias (rs : List Registration) (id : String) : Prop :=
  (∀ r ∈ rs, r.key ≠ Text.trimmed id) ∧
    ∃ r, Latest (fun r => r.Lists (Text.trimmed id)) rs r ∧ r.key = id

namespace Reflects

variable {c : Catalog} {rs : List Registration} {id : String}

theorem lower_of_mem_names (h : c.Reflects rs) (hid : id ∈ c.names) : Text.lower id = id := by
  obtain ⟨r, -, rfl⟩ := h.mem_names_iff.1 hid
  exact Text.lower_lower r.profile.id

/-- A listed name is found just if its look-up ends at the name itself. -/
theorem answers_iff_normalize? (h : c.Reflects rs) (hid : id ∈ c.names) :
    c.Answers rs id ↔ c.normalize? id = some id := by
  refine ⟨Answers.normalize_eq, fun hnormal => ⟨?_, hnormal, ?_⟩⟩
  · rw [contains, hnormal]
    rfl
  · obtain ⟨r, hr⟩ := exists_latest (h.mem_names_iff.1 hid)
    refine ⟨r, hr, require_eq_ok_iff.2 ?_⟩
    rw [get?, hnormal, Option.bind_some]
    exact h.profile_iff.2 ⟨r, hr, rfl⟩

theorem normalize?_eq_self_iff (h : c.Reflects rs) (hid : id ∈ c.names) :
    c.normalize? id = some id ↔ Text.trimmed id = id ∨ IsOwnAlias rs id := by
  rw [normalize?, Text.lower_trimmed (h.lower_of_mem_names hid)]
  by_cases hown : ∃ r ∈ rs, r.key = Text.trimmed id
  · obtain ⟨r, hr⟩ := exists_latest hown
    have hprofile : c.profiles.lookup (Text.trimmed id) = some r.profile :=
      h.profile_iff.2 ⟨r, hr, rfl⟩
    have hnot : ¬IsOwnAlias rs id := fun halias => halias.1 r hr.mem hr.holds
    simp only [hprofile, Option.isSome_some, if_true, Option.some.injEq, hnot, or_false]
  · push Not at hown
    have hnone : c.profiles.lookup (Text.trimmed id) = none := h.lookup_profiles_eq_none hown
    have hne : Text.trimmed id ≠ id := by
      intro heq
      obtain ⟨r, hr, hkey⟩ := h.mem_names_iff.1 hid
      exact hown r hr (hkey.trans heq.symm)
    simp only [hnone, Option.isSome_none, Bool.false_eq_true, if_false, hne, false_or]
    exact h.alias_iff.trans ⟨fun halias => ⟨hown, halias⟩, And.right⟩

end Reflects

theorem require_eq_error {c : Catalog} {name : String} {e : Error}
    (h : c.require name = .error e) : e = .config (.unknownDialect name c.names) := by
  rw [require] at h
  cases hfound : c.get? name with
  | some p =>
      rw [hfound] at h
      cases h
  | none =>
      rw [hfound] at h
      exact (Except.error.inj h).symm

theorem message_unknownDialect (name : String) (available : List String) :
    (Error.config (.unknownDialect name available)).message =
      "Configuration error: Unknown dialect '" ++ name ++ "'. Available dialects: " ++
        ", ".intercalate available := by
  have hstart : "Configuration error: " ++ "Unknown dialect '" =
      "Configuration error: Unknown dialect '" := by decide +kernel
  change "Configuration error: " ++ ("Unknown dialect '" ++ name ++ "'. Available dialects: " ++
    ", ".intercalate available) = _
  simp only [← String.append_assoc, hstart]

/-- A name that a catalog lists is found under itself, as the profile that was last registered as it,
just if it has no blanks around it or, without them, is an alias of itself. The names that are offered
in place of an unknown one are the listed names. -/
theorem listed_names_answer_iff (start : Start) (rs : List Registration) :
    (∀ id ∈ (start.catalog.registerAll rs).names,
      ((start.catalog.registerAll rs).Answers (start.registrations ++ rs) id ↔
        Text.trimmed id = id ∨ IsOwnAlias (start.registrations ++ rs) id)) ∧
      ∀ name e, (start.catalog.registerAll rs).require name = .error e →
        e.message = "Configuration error: Unknown dialect '" ++ name ++
          "'. Available dialects: " ++ ", ".intercalate (start.catalog.registerAll rs).names := by
  have hreflects : (start.catalog.registerAll rs).Reflects (start.registrations ++ rs) := by
    rw [start.catalog_eq]
    exact (Reflects.empty.registerAll start.registrations).registerAll rs
  refine ⟨fun id hid => ?_, fun name e he => ?_⟩
  · exact (hreflects.answers_iff_normalize? hid).trans (hreflects.normalize?_eq_self_iff hid)
  · rw [require_eq_error he, message_unknownDialect]

def lakes : List Registration := [⟨⟨" Lake ", .generic⟩, ["Lake"]⟩]

theorem listed_names_answer_lakes :
    " lake " ∈ (Start.empty.catalog.registerAll lakes).names ∧
      (Start.empty.catalog.registerAll lakes).Answers lakes " lake " := by
  have hnames : (Start.empty.catalog.registerAll lakes).names = [" lake "] := by cbv
  have hlisted : " lake " ∈ (Start.empty.catalog.registerAll lakes).names := by
    rw [hnames]
    exact List.mem_singleton_self _
  have halias : IsOwnAlias lakes " lake " :=
    ⟨by decide +kernel, _, ⟨[], [], rfl, ⟨"Lake", List.mem_singleton_self _, by decide +kernel⟩,
      fun _ hmem => absurd hmem List.not_mem_nil⟩, by decide +kernel⟩
  exact ⟨hlisted, ((listed_names_answer_iff .empty lakes).1 " lake " hlisted).2 (.inr halias)⟩

def blankNamed : Catalog := Catalog.empty.register ⟨" lake ", .generic⟩ []

/-- A profile that is listed under its name, offered in place of that name, and not found under it. -/
theorem blank_name_unanswered :
    blankNamed.names = [" lake "] ∧ blankNamed.contains " lake " = false ∧
      blankNamed.normalize? " lake " = none ∧
      blankNamed.require " lake " = .error (.config (.unknownDialect " lake " [" lake "])) := by
  have hnames : blankNamed.names = [" lake "] := by cbv
  have hnormal : blankNamed.normalize? " lake " = none := by decide +kernel
  have hcontains : blankNamed.contains " lake " = false := by decide +kernel
  refine ⟨hnames, hcontains, hnormal, ?_⟩
  rw [require, get?, hnormal, hnames]
  rfl

end Catalog

end TableTransfer
