import Mathlib.Data.String.Basic
import TableTransfer.Proofs.Catalog.Registered
import TableTransfer.Proofs.Keyed

namespace TableTransfer

namespace Catalog

structure Registration where
  profile : Profile
  aliases : List String := []

namespace Registration

def key (r : Registration) : String := Text.lower r.profile.id

def Lists (r : Registration) (key : String) : Prop := ∃ a ∈ r.aliases, Text.lower a = key

def builtins : List Registration :=
  [⟨Vendor.generic.profile, []⟩, ⟨Vendor.mysql.profile, ["mariadb"]⟩,
    ⟨Vendor.postgres.profile, ["postgresql", "pg"]⟩, ⟨Vendor.oracle.profile, []⟩,
    ⟨Vendor.sqlServer.profile, ["mssql", "sql_server"]⟩, ⟨Vendor.db2.profile, []⟩]

end Registration

/-- What the registrations make of a name in small letters. -/
inductive Resolves (rs : List Registration) (key : String) : Option Profile → Prop
  | ofId {r : Registration} (hid : Latest (fun r => r.key = key) rs r) :
      Resolves rs key (some r.profile)
  | ofAlias {r s : Registration} (hid : ∀ r ∈ rs, r.key ≠ key)
      (halias : Latest (fun r => r.Lists key) rs r) (howner : Latest (fun s => s.key = r.key) rs s) :
      Resolves rs key (some s.profile)
  | unknown (hid : ∀ r ∈ rs, r.key ≠ key) (halias : ∀ r ∈ rs, ¬r.Lists key) : Resolves rs key none

theorem Resolves.unique {rs : List Registration} {key : String} {o o' : Option Profile}
    (h : Resolves rs key o) (h' : Resolves rs key o') : o = o' := by
  cases h with
  | ofId hid =>
      cases h' with
      | ofId hid' => rw [hid.unique hid']
      | ofAlias hnone _ _ | unknown hnone _ => exact absurd hid.holds (hnone _ hid.mem)
  | ofAlias hnone halias howner =>
      cases h' with
      | ofId hid => exact absurd hid.holds (hnone _ hid.mem)
      | ofAlias _ halias' howner' =>
          obtain rfl := halias.unique halias'
          rw [howner.unique howner']
      | unknown _ hno => exact absurd halias.holds (hno _ halias.mem)
  | unknown hnone hno =>
      cases h' with
      | ofId hid => exact absurd hid.holds (hnone _ hid.mem)
      | ofAlias _ halias _ => exact absurd halias.holds (hno _ halias.mem)
      | unknown _ _ => rfl

def registerAll (c : Catalog) (rs : List Registration) : Catalog :=
  rs.foldl (fun c r => c.register r.profile r.aliases) c

theorem registerAll_append_singleton (c : Catalog) (rs : List Registration) (r : Registration) :
    c.registerAll (rs ++ [r]) = (c.registerAll rs).register r.profile r.aliases :=
  List.foldl_append

inductive Start where
  | empty
  | builtin

def Start.catalog : Start → Catalog
  | empty => .empty
  | builtin => .builtin

def Start.registrations : Start → List Registration
  | empty => []
  | builtin => Registration.builtins

theorem Start.catalog_eq (start : Start) :
    start.catalog = Catalog.empty.registerAll start.registrations := by
  cases start <;> rfl

theorem registered_registerAll {c : Catalog} (h : c.Registered) (rs : List Registration) :
    (c.registerAll rs).Registered := by
  induction rs generalizing c with
  | nil => exact h
  | cons r rs ih => exact ih (h.register r.profile r.aliases)

/-- The two lookups of a catalog find what was registered last. -/
structure Reflects (c : Catalog) (rs : List Registration) : Prop where
  keys_eq : c.profiles.map Prod.fst = (rs.map Registration.key).reverse
  profile_iff {key : String} {p : Profile} :
    c.profiles.lookup key = some p ↔ ∃ r, Latest (fun r => r.key = key) rs r ∧ r.profile = p
  alias_iff {key id : String} :
    c.aliases.lookup key = some id ↔ ∃ r, Latest (fun r => r.Lists key) rs r ∧ r.key = id

section

variable {r : Registration} {key : String}

theorem lookup_aliases_of_lists (h : r.Lists key) :
    ((r.aliases.map fun a => (Text.lower a, r.key)).reverse).lookup key = some r.key := by
  obtain ⟨a, ha, rfl⟩ := h
  have hsome : ((r.aliases.map fun a => (Text.lower a, r.key)).reverse.lookup
      (Text.lower a)).isSome = true := by
    rw [List.lookup_isSome_iff]
    exact ⟨_, List.mem_reverse.2 (List.mem_map_of_mem ha), beq_self_eq_true _⟩
  obtain ⟨id, hid⟩ := Option.isSome_iff_exists.1 hsome
  obtain ⟨before, after, hsplit, -⟩ := List.lookup_eq_some_iff.1 hid
  have hmem : (Text.lower a, id) ∈ (r.aliases.map fun a => (Text.lower a, r.key)).reverse := by
    rw [hsplit]
    exact List.mem_append_right _ List.mem_cons_self
  obtain ⟨b, -, hb⟩ := List.mem_map.1 (List.mem_reverse.1 hmem)
  rw [hid, ← (Prod.mk.inj hb).2]

theorem lookup_aliases_of_not_lists (h : ¬r.Lists key) :
    ((r.aliases.map fun a => (Text.lower a, r.key)).reverse).lookup key = none := by
  rw [List.lookup_eq_none_iff]
  intro entry hentry
  obtain ⟨a, ha, rfl⟩ := List.mem_map.1 (List.mem_reverse.1 hentry)
  exact bne_iff_ne.2 fun heq => h ⟨a, ha, heq.symm⟩

end

namespace Reflects

variable {c : Catalog} {rs : List Registration}

theorem empty : Reflects .empty [] where
  keys_eq := rfl
  profile_iff := by simp [Catalog.empty, Latest]
  alias_iff := by simp [Catalog.empty, Latest]

theorem register (h : c.Reflects rs) (r : Registration) :
    (c.register r.profile r.aliases).Reflects (rs ++ [r]) where
  keys_eq := by
    rw [List.map_append, List.reverse_append, ← h.keys_eq]
    rfl
  profile_iff {key p} := by
    change ((r.key, r.profile) :: c.profiles).lookup key = some p ↔ _
    simp only [latest_append_singleton]
    by_cases hkey : r.key = key
    · subst hkey
      simp
    · have hbeq : (key == r.key) = false := beq_false_of_ne (Ne.symm hkey)
      rw [List.lookup_cons, hbeq]
      simp only [hkey, false_and, false_or, not_false_eq_true, true_and]
      exact h.profile_iff
  alias_iff {key id} := by
    change ((r.aliases.map fun a => (Text.lower a, r.key)).reverse ++ c.aliases).lookup key =
      some id ↔ _
    rw [List.lookup_append]
    simp only [latest_append_singleton]
    by_cases hlists : r.Lists key
    · rw [lookup_aliases_of_lists hlists]
      simp [hlists]
    · rw [lookup_aliases_of_not_lists hlists, Option.none_or]
      simp only [hlists, false_and, false_or, not_false_eq_true, true_and]
      exact h.alias_iff

theorem registerAll (h : c.Reflects rs) (rs' : List Registration) :
    (c.registerAll rs').Reflects (rs ++ rs') := by
  induction rs' using List.reverseRecOn with
  | nil => rwa [List.append_nil]
  | append_singleton rs' r ih =>
      rw [registerAll_append_singleton, ← List.append_assoc]
      exact ih.register r

theorem lookup_profiles_eq_none (h : c.Reflects rs) {key : String} (hid : ∀ r ∈ rs, r.key ≠ key) :
    c.profiles.lookup key = none := by
  rw [Option.eq_none_iff_forall_ne_some]
  intro p hp
  obtain ⟨r, hr, -⟩ := h.profile_iff.1 hp
  exact hid r hr.mem hr.holds

theorem lookup_aliases_eq_none (h : c.Reflects rs) {key : String}
    (halias : ∀ r ∈ rs, ¬r.Lists key) : c.aliases.lookup key = none := by
  rw [Option.eq_none_iff_forall_ne_some]
  intro id hid
  obtain ⟨r, hr, -⟩ := h.alias_iff.1 hid
  exact halias r hr.mem hr.holds

theorem resolves (h : c.Reflects rs) (name : String) :
    Resolves rs (Text.lower (Text.trimmed name)) (c.get? name) := by
  rw [get?, normalize?]
  generalize Text.lower (Text.trimmed name) = key
  by_cases hid : ∃ r ∈ rs, r.key = key
  · obtain ⟨r, hr⟩ := exists_latest hid
    have hprofile : c.profiles.lookup key = some r.profile := h.profile_iff.2 ⟨r, hr, rfl⟩
    simp only [hprofile, Option.isSome_some, if_true, Option.bind_some]
    exact .ofId hr
  · push Not at hid
    have hnone : c.profiles.lookup key = none := h.lookup_profiles_eq_none hid
    simp only [hnone, Option.isSome_none, Bool.false_eq_true, if_false]
    by_cases halias : ∃ r ∈ rs, r.Lists key
    · obtain ⟨r, hr⟩ := exists_latest halias
      obtain ⟨s, hs⟩ := exists_latest (p := fun s : Registration => s.key = r.key) ⟨r, hr.mem, rfl⟩
      rw [h.alias_iff.2 ⟨r, hr, rfl⟩, Option.bind_some, h.profile_iff.2 ⟨s, hs, rfl⟩]
      exact .ofAlias hid hr hs
    · push Not at halias
      rw [h.lookup_aliases_eq_none halias, Option.bind_none]
      exact .unknown hid halias

theorem mem_names_iff (h : c.Reflects rs) {id : String} :
    id ∈ c.names ↔ ∃ r ∈ rs, r.key = id := by
  rw [names, List.mem_mergeSort, List.mem_eraseDups, h.keys_eq, List.mem_reverse, List.mem_map]

end Reflects

theorem nodup_eraseDups {xs : List String} : xs.eraseDups.Nodup := by
  induction hn : xs.length using Nat.strongRecOn generalizing xs with
  | ind n ih =>
      cases xs with
      | nil => simp
      | cons x xs =>
          rw [List.eraseDups_cons, List.nodup_cons]
          refine ⟨?_, ih _ ?_ rfl⟩
          · simp
          · subst hn
            exact Nat.lt_succ_of_le (List.length_filter_le _ _)

theorem pairwise_names (c : Catalog) : c.names.Pairwise (· < ·) := by
  have hle : c.names.Pairwise (· ≤ ·) := by
    refine (List.pairwise_mergeSort ?_ ?_ _).imp fun h => of_decide_eq_true h
    · intro a b d hab hbd
      exact decide_eq_true (String.le_trans (of_decide_eq_true hab) (of_decide_eq_true hbd))
    · intro a b
      simpa using String.le_total a b
  have hnodup : c.names.Nodup := (List.mergeSort_perm _ _).nodup_iff.2 nodup_eraseDups
  exact hle.imp₂ (fun a b hle hne => lt_of_le_of_ne hle hne) hnodup

theorem require_eq_ok_iff {c : Catalog} {name : String} {p : Profile} :
    c.require name = .ok p ↔ c.get? name = some p := by
  rw [require]
  cases c.get? name <;> simp

theorem Registered.contains_eq {c : Catalog} (h : c.Registered) (name : String) :
    c.contains name = (c.get? name).isSome := by
  rw [contains, get?]
  cases hkey : c.normalize? name with
  | none => rfl
  | some key => exact (h.isSome_lookup_of_normalize? hkey).symm

/-- The latest registration of an id counts for its name; a name that is no id stands for the latest
profile of the id that it was last given as an alias of, and any other name for nothing. All ways to
ask for a name agree, and the names are those of the ids, in order and each once. -/
theorem resolves_registerAll_iff (start : Start) (rs : List Registration) (name : String) :
    (∀ o, Resolves (start.registrations ++ rs) (Text.lower (Text.trimmed name)) o ↔
        (start.catalog.registerAll rs).get? name = o) ∧
      (start.catalog.registerAll rs).contains name =
        ((start.catalog.registerAll rs).get? name).isSome ∧
      (∀ p, (start.catalog.registerAll rs).require name = .ok p ↔
        (start.catalog.registerAll rs).get? name = some p) ∧
      (start.catalog.registerAll rs).names.Pairwise (· < ·) ∧
      ∀ id, id ∈ (start.catalog.registerAll rs).names ↔
        ∃ r ∈ start.registrations ++ rs, r.key = id := by
  have hstart : start.catalog.Reflects start.registrations := by
    rw [start.catalog_eq]
    exact Reflects.empty.registerAll start.registrations
  have hstartRegistered : start.catalog.Registered := by
    rw [start.catalog_eq]
    exact registered_registerAll .empty start.registrations
  have hreflects := hstart.registerAll rs
  have hresolves := hreflects.resolves name
  refine ⟨fun o => ⟨fun ho => hresolves.unique ho, fun ho => ho ▸ hresolves⟩, ?_,
    fun p => require_eq_ok_iff, pairwise_names _, fun id => hreflects.mem_names_iff⟩
  exact (registered_registerAll hstartRegistered rs).contains_eq name

/-- The alias moves to another profile, which is then registered once more. -/
example :
    ((Catalog.builtin.register ⟨"Lake", .generic⟩ ["PG"]).register ⟨"LAKE", .db2⟩ []).get? " pg " =
      some ⟨"LAKE", .db2⟩ := by
  decide +kernel

end Catalog

end TableTransfer
