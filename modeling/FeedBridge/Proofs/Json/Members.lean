import FeedBridge.Json.Basic
import Mathlib.Data.List.Nodup
import Mathlib.Data.List.Perm.Basic
import Mathlib.Tactic.SplitIfs

namespace FeedBridge.Json

namespace Members

variable {key other : String} {value : Json}

theorem lookup_cons_of_ne (different : other ≠ key) (members : Members) :
    List.lookup other ((key, value) :: members) = List.lookup other members := by
  have apart : (other == key) = false := by simpa using different
  rw [List.lookup_cons, apart]

@[simp] theorem lookup_insert_self (key : String) (value : Json) (members : Members) :
    (insert key value members).lookup key = some value := by
  induction members with
  | nil => simp [insert]
  | cons member rest ih =>
      obtain ⟨k, v⟩ := member
      unfold insert
      split_ifs with before same
      · exact List.lookup_cons_self
      · exact List.lookup_cons_self
      · rw [lookup_cons_of_ne same, ih]

theorem lookup_insert_of_ne (different : other ≠ key) (members : Members) :
    (insert key value members).lookup other = members.lookup other := by
  induction members with
  | nil => exact lookup_cons_of_ne different []
  | cons member rest ih =>
      obtain ⟨k, v⟩ := member
      unfold insert
      split_ifs with before same
      · exact lookup_cons_of_ne different _
      · subst same
        rw [lookup_cons_of_ne different, lookup_cons_of_ne different]
      · by_cases found : other = k
        · subst found
          rw [List.lookup_cons_self, List.lookup_cons_self]
        · rw [lookup_cons_of_ne found, lookup_cons_of_ne found, ih]

theorem lookup_foldl_insert (key : String) (members : List (String × Json)) (sorted : Members) :
    (members.foldl (fun sorted member => insert member.1 member.2 sorted) sorted).lookup key =
      (members.reverse.lookup key).or (sorted.lookup key) := by
  induction members generalizing sorted with
  | nil => rfl
  | cons member rest ih =>
      obtain ⟨k, v⟩ := member
      rw [List.foldl_cons, ih, List.reverse_cons, List.lookup_append, Option.or_assoc]
      congr 1
      by_cases same : key = k
      · subst same
        rw [lookup_insert_self, List.lookup_cons_self, Option.some_or]
      · rw [lookup_insert_of_ne same, lookup_cons_of_ne same, List.lookup_nil, Option.none_or]

end Members

theorem get?_ofMembers (key : String) (members : List (String × Json)) :
    (ofMembers members).get? key = members.reverse.lookup key := by
  change (members.foldl _ []).lookup key = _
  rw [Members.lookup_foldl_insert]
  simp

theorem Members.insert_perm {key : String} {members : Members}
    (fresh : key ∉ members.map Prod.fst) (value : Json) :
    (insert key value members).Perm ((key, value) :: members) := by
  induction members with
  | nil => exact List.Perm.refl _
  | cons member rest ih =>
      obtain ⟨k, v⟩ := member
      rw [List.map_cons, List.mem_cons, not_or] at fresh
      unfold insert
      rw [if_neg fresh.1]
      split_ifs with before
      · exact List.Perm.refl _
      · exact ((ih fresh.2).cons (k, v)).trans (List.Perm.swap _ _ _)

def IsObjectOf (value : Json) (members : List (String × Json)) : Prop :=
  ∃ sorted, value = object sorted ∧ sorted.Perm members

theorem isObjectOf_ofMembers {members : List (String × Json)}
    (distinct : (members.map Prod.fst).Nodup) : (ofMembers members).IsObjectOf members := by
  have grown : ∀ (members sorted : List (String × Json)),
      ((sorted ++ members).map Prod.fst).Nodup →
        (members.foldl (fun sorted member => Members.insert member.1 member.2 sorted) sorted).Perm
          (sorted ++ members) := by
    intro members
    induction members with
    | nil => simp
    | cons member rest ih =>
        intro sorted distinct
        have middle : (sorted ++ member :: rest).Perm (member :: sorted ++ rest) := List.perm_middle
        have reordered := (middle.map Prod.fst).nodup_iff.mp distinct
        have fresh : member.1 ∉ sorted.map Prod.fst := by
          rw [List.cons_append, List.map_cons, List.map_append, List.nodup_cons] at reordered
          exact fun listed => reordered.1 (List.mem_append_left _ listed)
        have inserted := Members.insert_perm fresh member.2
        have later := (inserted.append_right rest).map Prod.fst
        exact (ih _ (later.nodup_iff.mpr reordered)).trans
          ((inserted.append_right rest).trans middle.symm)
  exact ⟨_, rfl, grown members [] (by simpa using distinct)⟩

end FeedBridge.Json
