import TableTransfer.Dialect.Catalog

namespace TableTransfer.Catalog

inductive Registered : Catalog → Prop
  | empty : Registered .empty
  | register {c : Catalog} (p : Profile) (aliases : List String) :
      Registered c → Registered (c.register p aliases)

theorem registered_builtin : Registered .builtin :=
  Registered.empty.register _ _ |>.register _ _ |>.register _ _ |>.register _ _ |>.register _ _
    |>.register _ _

namespace Registered

variable {c : Catalog} {name : String}

theorem isSome_lookup_of_mem (h : c.Registered) {a : String × String} (ha : a ∈ c.aliases) :
    (c.profiles.lookup a.2).isSome = true := by
  induction h with
  | empty => cases ha
  | register p aliases _ ih =>
      rcases List.mem_append.1 ha with hnew | hold
      · obtain ⟨given, -, rfl⟩ := List.mem_map.1 (List.mem_reverse.1 hnew)
        exact Option.isSome_iff_exists.2 ⟨p, List.lookup_cons_self⟩
      · exact (List.sublist_cons_self _ _).lookup_isSome (ih hold)

theorem isSome_lookup_of_normalize? (h : c.Registered) {key : String}
    (hkey : c.normalize? name = some key) : (c.profiles.lookup key).isSome = true := by
  simp only [normalize?] at hkey
  split at hkey
  · rename_i hown
    obtain rfl := Option.some.inj hkey
    exact hown
  · obtain ⟨before, after, heq, -⟩ := List.lookup_eq_some_iff.1 hkey
    have hmem : (Text.lower (Text.trimmed name), key) ∈ c.aliases := by
      rw [heq]
      exact List.mem_append_right _ List.mem_cons_self
    exact h.isSome_lookup_of_mem hmem

theorem exists_require_eq_ok (h : c.Registered) (hname : c.contains name = true) :
    ∃ p, c.require name = .ok p := by
  obtain ⟨key, hkey⟩ := Option.isSome_iff_exists.1 hname
  obtain ⟨p, hp⟩ := Option.isSome_iff_exists.1 (h.isSome_lookup_of_normalize? hkey)
  refine ⟨p, ?_⟩
  rw [require, get?, hkey, Option.bind_some, hp]

end Registered

end TableTransfer.Catalog
