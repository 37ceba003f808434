import Mathlib.Data.List.Count
import TableTransfer.Registry

namespace TableTransfer

def DriverCall.driver : DriverCall → Driver
  | register d | deregister d => d

/-- Calls in which the driver that is registered is always the next one to be deregistered, and
the driver that is registered after them. -/
inductive Paired : List DriverCall → Option Driver → Prop
  | nil : Paired [] none
  | register {calls : List DriverCall} (d : Driver) :
      Paired calls none → Paired (calls ++ [.register d]) (some d)
  | deregister {calls : List DriverCall} {d : Driver} :
      Paired calls (some d) → Paired (calls ++ [.deregister d]) none

namespace Registry

variable {r s : Registry} {d : Driver} {g : Registration} {id : String}

def callsOn (r : Registry) (id : String) : List DriverCall :=
  r.calls.filter fun call => call.driver.id == id

theorem callsOn_of_eq (gs : List Registration) (call : DriverCall) (h : call.driver.id = id) :
    callsOn ⟨gs, r.calls ++ [call]⟩ id = r.callsOn id ++ [call] := by
  simp [callsOn, h]

theorem callsOn_of_ne (gs : List Registration) (call : DriverCall) (h : call.driver.id ≠ id) :
    callsOn ⟨gs, r.calls ++ [call]⟩ id = r.callsOn id := by
  simp [callsOn, h]

theorem id_of_find? (h : r.find? id = some g) : g.driver.id = id := by
  simpa using List.find?_some h

theorem find?_update {n : Nat} (h : r.find? id = some g) (name : String) :
    (r.update { g with handles := n }).find? name =
      if name = id then some { g with handles := n } else r.find? name := by
  have hid := id_of_find? h
  have hsame : ((fun k : Registration => k.driver.id == name) ∘
      fun k => if k.driver.id == g.driver.id then { g with handles := n } else k) =
      fun k => k.driver.id == name := by
    funext k
    by_cases hk : k.driver.id = g.driver.id <;> simp [hk]
  change (r.registrations.map _).find? _ = _
  rw [List.find?_map, hsame]
  change (r.find? name).map _ = _
  by_cases hname : name = id
  · simp [hname, h]
  · cases hk : r.find? name with
    | none => simp [hname]
    | some k => simp [id_of_find? hk, hid, hname]

theorem find?_register (h : r.find? d.id = none) (calls : List DriverCall) (name : String) :
    find? ⟨r.registrations ++ [⟨d, 1⟩], calls⟩ name =
      if name = d.id then some ⟨d, 1⟩ else r.find? name := by
  change (r.registrations ++ [(⟨d, 1⟩ : Registration)]).find? _ = _
  rw [List.find?_append]
  change (r.find? name).or _ = _
  by_cases hname : name = d.id
  · simp [hname, h]
  · simp [hname, Ne.symm hname]

theorem find?_deregister (calls : List DriverCall) (id name : String) :
    find? ⟨r.registrations.filter fun h => h.driver.id != id, calls⟩ name =
      if name = id then none else r.find? name := by
  change (r.registrations.filter _).find? _ = _
  rw [List.find?_filter]
  by_cases hname : name = id
  · simp [hname]
  · rw [if_neg hname, find?]
    congr 1
    funext k
    by_cases hk : k.driver.id = name <;> simp [hk, hname]

inductive Granted (r : Registry) (d : Driver) : Registry → Prop
  | counted {g : Registration} (h : r.find? d.id = some g) :
      Granted r d (r.update { g with handles := g.handles + 1 })
  | registered (h : r.find? d.id = none) :
      Granted r d ⟨r.registrations ++ [⟨d, 1⟩], r.calls ++ [.register d]⟩

inductive Returned (r : Registry) (id : String) : Registry → Prop
  | unknown (h : r.find? id = none) : Returned r id r
  | counted {g : Registration} (h : r.find? id = some g) (hmore : 1 < g.handles) :
      Returned r id (r.update { g with handles := g.handles - 1 })
  | deregistered {g : Registration} (h : r.find? id = some g) (hlast : g.handles ≤ 1) :
      Returned r id ⟨r.registrations.filter fun h => h.driver.id != id,
        r.calls ++ [.deregister g.driver]⟩

theorem acquire_granted_or_refused (r : Registry) (d : Driver) (fault : Option Error) :
    (∃ s, r.acquire d fault = (.ok (), s) ∧ Granted r d s) ∨
      ∃ e, r.acquire d fault = (.error e, r) := by
  simp only [acquire]
  split
  · exact .inl ⟨_, rfl, .counted ‹_›⟩
  · cases fault with
    | none => exact .inl ⟨_, rfl, .registered ‹_›⟩
    | some e => exact .inr ⟨_, rfl⟩

theorem release_returned (r : Registry) (id : String) : Returned r id (r.release id) := by
  simp only [release]
  split
  · exact .unknown ‹_›
  · split
    · exact .counted ‹_› ‹_›
    · exact .deregistered ‹_› (Nat.le_of_not_lt ‹_›)

theorem Granted.frame (h : Granted r d s) (hid : id ≠ d.id) :
    s.find? id = r.find? id ∧ s.callsOn id = r.callsOn id := by
  cases h with
  | counted hg => exact ⟨(find?_update hg id).trans (if_neg hid), rfl⟩
  | registered hnone =>
      exact ⟨(find?_register hnone _ id).trans (if_neg hid),
        callsOn_of_ne _ _ (Ne.symm hid)⟩

theorem Returned.frame {gone : String} (h : Returned r gone s) (hid : id ≠ gone) :
    s.find? id = r.find? id ∧ s.callsOn id = r.callsOn id := by
  cases h with
  | unknown _ => exact ⟨rfl, rfl⟩
  | counted hg _ => exact ⟨(find?_update hg id).trans (if_neg hid), rfl⟩
  | deregistered hg _ =>
      refine ⟨(find?_deregister _ gone id).trans (if_neg hid), callsOn_of_ne _ _ ?_⟩
      exact (id_of_find? hg).trans_ne (Ne.symm hid)

/-- As many handles on the name are held as are counted, and the calls about it go with what is
registered. -/
def Accounts (r : Registry) (id : String) (held : Nat) : Prop :=
  match r.find? id with
  | none => held = 0 ∧ Paired (r.callsOn id) none
  | some g => held = g.handles ∧ 0 < g.handles ∧ Paired (r.callsOn id) (some g.driver)

theorem Accounts.congr {held : Nat} (h : r.Accounts id held)
    (hframe : s.find? id = r.find? id ∧ s.callsOn id = r.callsOn id) : s.Accounts id held := by
  rw [Accounts, hframe.1, hframe.2]
  exact h

theorem Granted.accounts {held : Nat} (h : Granted r d s) (haccounts : r.Accounts d.id held) :
    s.Accounts d.id (held + 1) := by
  cases h with
  | counted hg =>
      rw [Accounts, hg] at haccounts
      obtain ⟨hcount, -, hpaired⟩ := haccounts
      rw [Accounts, find?_update hg, if_pos rfl]
      exact ⟨congrArg (· + 1) hcount, Nat.succ_pos _, hpaired⟩
  | registered hnone =>
      rw [Accounts, hnone] at haccounts
      obtain ⟨hcount, hpaired⟩ := haccounts
      rw [Accounts, find?_register hnone, if_pos rfl,
        callsOn_of_eq _ (.register d) (rfl : d.id = d.id)]
      exact ⟨congrArg (· + 1) hcount, Nat.one_pos, .register d hpaired⟩

theorem Returned.accounts {held : Nat} (h : Returned r id s)
    (haccounts : r.Accounts id (held + 1)) : s.Accounts id held := by
  cases h with
  | unknown hnone =>
      rw [Accounts, hnone] at haccounts
      exact absurd haccounts.1 (Nat.succ_ne_zero held)
  | @counted g hg hmore =>
      rw [Accounts, hg] at haccounts
      obtain ⟨hcount, -, hpaired⟩ := haccounts
      rw [Accounts, find?_update hg, if_pos rfl]
      exact ⟨Nat.eq_sub_of_add_eq hcount, Nat.sub_pos_of_lt hmore, hpaired⟩
  | @deregistered g hg hlast =>
      rw [Accounts, hg] at haccounts
      obtain ⟨hcount, -, hpaired⟩ := haccounts
      rw [Accounts, find?_deregister, if_pos rfl,
        callsOn_of_eq _ (.deregister g.driver) (id_of_find? hg)]
      exact ⟨by omega, .deregister hpaired⟩

theorem Accounts.handleCount_eq {held : Nat} (h : r.Accounts id held) :
    r.handleCount id = held := by
  rw [Accounts] at h
  rw [handleCount]
  split at h <;> simp_all

end Registry

namespace Leases

open Registry

/-- How many handles on a name are not given back yet. -/
def held (l : Leases) (id : String) : Nat := l.handles.count (some id)

def Balanced (l : Leases) : Prop := ∀ id, l.registry.Accounts id (l.held id)

variable {l : Leases}

theorem held_append (r : Registry) (h : Option String) (id : String) :
    held ⟨r, l.handles ++ [h]⟩ id = l.held id + if h = some id then 1 else 0 := by
  simp [held, List.count_append, List.count_singleton]

theorem held_set {n : Nat} {gone : String} (r : Registry) (h : l.handles[n]? = some (some gone))
    (id : String) :
    l.held id = held ⟨r, l.handles.set n none⟩ id + if gone = id then 1 else 0 := by
  obtain ⟨hn, hget⟩ := List.getElem?_eq_some_iff.1 h
  have hle : (if gone = id then 1 else 0) ≤ l.handles.count (some id) := by
    split
    · rename_i hid
      exact List.count_pos_iff.2 (hid ▸ hget ▸ List.getElem_mem hn)
    · exact Nat.zero_le _
  have hcount := List.count_set (a := none) (b := some id) hn
  simp only [hget, beq_iff_eq, Option.some.injEq, reduceCtorEq, if_false, Nat.add_zero] at hcount
  simp only [held]
  rw [hcount]
  omega

theorem Balanced.acquire (h : l.Balanced) (d : Driver) (fault : Option Error) :
    (l.acquire d fault).2.Balanced := by
  intro id
  simp only [Leases.acquire]
  rcases l.registry.acquire_granted_or_refused d fault with ⟨s, hs, hgranted⟩ | ⟨e, he⟩
  · rw [hs]
    dsimp only
    rw [held_append]
    by_cases hid : id = d.id
    · subst hid
      rw [if_pos rfl]
      exact hgranted.accounts (h d.id)
    · rw [if_neg (by simpa using Ne.symm hid)]
      exact (h id).congr (hgranted.frame hid)
  · rw [he]
    dsimp only
    rw [held_append]
    exact h id

theorem Balanced.release (h : l.Balanced) (n : Nat) : (l.release n).2.Balanced := by
  intro id
  simp only [Leases.release]
  split
  · rename_i gone hgone
    have hheld := held_set (l.registry.release gone) (Option.join_eq_some_iff.1 hgone) id
    have hreturned := l.registry.release_returned gone
    have haccounts := h id
    rw [hheld] at haccounts
    by_cases hid : id = gone
    · subst hid
      rw [if_pos rfl] at haccounts
      exact hreturned.accounts haccounts
    · rw [if_neg (Ne.symm hid)] at haccounts
      exact haccounts.congr (hreturned.frame hid)
  · exact h id

theorem release_of_held {n : Nat} {id : String} (hn : l.handles[n]? = some (some id)) :
    (l.release n).2 = ⟨l.registry.release id, l.handles.set n none⟩ := by
  simp only [Leases.release]
  rw [hn]
  rfl

theorem Balanced.handleCount_release (h : l.Balanced) {n : Nat} {id : String}
    (hn : l.handles[n]? = some (some id)) :
    l.registry.handleCount id = (l.release n).2.registry.handleCount id + 1 := by
  have hheld := held_set (l.registry.release id) hn id
  rw [if_pos rfl] at hheld
  rw [(h id).handleCount_eq, (h.release n id).handleCount_eq, release_of_held hn]
  exact hheld

end Leases

end TableTransfer
