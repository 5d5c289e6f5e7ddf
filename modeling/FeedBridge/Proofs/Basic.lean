import Mathlib.Data.List.Nodup
import Mathlib.Data.List.Perm.Basic

namespace FeedBridge

theorem filterMap_set_perm {α β : Type} (f : α → Option β) {list : List α} {place : Nat} {old : α}
    (located : list[place]? = some old) (new : α) :
    ∃ others, (list.filterMap f).Perm ((f old).toList ++ others) ∧
      ((list.set place new).filterMap f).Perm ((f new).toList ++ others) := by
  obtain ⟨inside, rfl⟩ := List.getElem?_eq_some_iff.mp located
  have first (a : α) (rest : List α) :
      (a :: rest).filterMap f = (f a).toList ++ rest.filterMap f := by
    cases found : f a <;> simp [found]
  refine ⟨(list.eraseIdx place).filterMap f, ?_, ?_⟩
  · rw [← first]
    exact (List.getElem_cons_eraseIdx_perm inside).symm.filterMap _
  · rw [← first]
    exact (List.set_perm_cons_eraseIdx inside new).filterMap _

theorem filterMap_set_same {α β : Type} {f : α → Option β} {list : List α} {place : Nat} {old : α}
    (located : list[place]? = some old) (new : α) (same : f new = f old) :
    (list.set place new).filterMap f = list.filterMap f := by
  induction list generalizing place with
  | nil => cases located
  | cons a rest ih =>
      cases place with
      | zero =>
          cases located
          simp [List.filterMap_cons, same]
      | succ place => simp only [List.set_cons_succ, List.filterMap_cons, ih located]

theorem lookup_iff_mem {α β : Type} [DecidableEq α] {list : List (α × β)}
    (once : (list.map Prod.fst).Nodup) (key : α) (value : β) :
    list.lookup key = some value ↔ (key, value) ∈ list := by
  constructor
  · intro found
    obtain ⟨before, after, split, -⟩ := List.lookup_eq_some_iff.mp found
    rw [split]
    exact List.mem_append_right _ List.mem_cons_self
  · intro listed
    obtain ⟨before, after, split⟩ := List.append_of_mem listed
    refine List.lookup_eq_some_iff.mpr ⟨before, after, split, fun other earlier => ?_⟩
    rw [split, List.map_append, List.map_cons] at once
    have absent := (List.nodup_cons.mp (List.nodup_middle.mp once)).1
    rw [bne_iff_ne]
    intro same
    have listed : other.1 ∈ before.map Prod.fst := List.mem_map_of_mem earlier
    exact absent (List.mem_append_left _ (same ▸ listed))

theorem nodup_numbers {count : Nat} (few : count ≤ UInt64.size) :
    ((List.range count).map fun k => 1 + UInt64.ofNat k).Nodup := by
  refine List.Nodup.map_on ?_ List.nodup_range
  intro k early l later same
  have remainders := congrArg UInt64.toNat ((UInt64.add_right_inj 1).mp same)
  rw [List.mem_range] at early later
  rwa [UInt64.toNat_ofNat_of_lt' (Nat.lt_of_lt_of_le early few),
    UInt64.toNat_ofNat_of_lt' (Nat.lt_of_lt_of_le later few)] at remainders

theorem bind_eq_ok {ε α β : Type} {x : Except ε α} {f : α → Except ε β} {result : β} :
    (x >>= f) = .ok result ↔ ∃ a, x = .ok a ∧ f a = .ok result := by
  cases x with
  | error cause => exact ⟨nofun, nofun⟩
  | ok a => exact ⟨fun found => ⟨a, rfl, found⟩, fun ⟨_, same, found⟩ => by cases same; exact found⟩

end FeedBridge
