import FeedBridge.Proofs.Json.Members
import FeedBridge.Proofs.Json.Writing

namespace FeedBridge.Json

def mapMember (key : String) (change : Json → Json) : Json → Json
  | object members =>
    object (members.map fun member =>
      (member.1, if member.1 = key then change member.2 else member.2))
  | value => value

def reworded (text : String) : Json → Json
  | string _ => string text
  | value => value

theorem lookup_map_member (key other : String) (change : Json → Json) (members : Members) :
    (members.map fun member =>
        (member.1, if member.1 = key then change member.2 else member.2)).lookup other =
      (members.lookup other).map fun value => if other = key then change value else value := by
  induction members with
  | nil => rfl
  | cons member rest ih =>
      obtain ⟨k, v⟩ := member
      by_cases same : other = k
      · subst same
        rw [List.map_cons, List.lookup_cons_self, List.lookup_cons_self]
        rfl
      · rw [List.map_cons, Members.lookup_cons_of_ne same, Members.lookup_cons_of_ne same, ih]

theorem get?_mapMember (key other : String) (change : Json → Json) (value : Json) :
    (value.mapMember key change).get? other =
      (value.get? other).map fun member => if other = key then change member else member := by
  cases value with
  | object members => exact lookup_map_member key other change members
  | _ => rfl

theorem get?_mapMember_self (key : String) (change : Json → Json) (value : Json) :
    (value.mapMember key change).get? key = (value.get? key).map change := by
  simp [get?_mapMember]

theorem get?_mapMember_of_ne {key other : String} (different : other ≠ key) (change : Json → Json)
    (value : Json) : (value.mapMember key change).get? other = value.get? other := by
  simp [get?_mapMember, different]

def ToldApart (v w : Json) : Prop :=
  ∀ rest rest' : List Char, v.chars ++ rest = w.chars ++ rest' → v = w ∧ rest = rest'

namespace ToldApart

theorem refl (v : Json) : v.ToldApart v :=
  fun _ _ same => ⟨rfl, List.append_cancel_left same⟩

theorem eq_of_text {v w : Json} (apart : v.ToldApart w) (same : v.text = w.text) : v = w := by
  have chars : v.chars = w.chars := String.ofList_injective same
  exact (apart [] [] (congrArg (· ++ []) chars)).1

theorem strings (s s' : String) : (string s).ToldApart (string s') := by
  intro rest rest' same
  have inner : s.toList.flatMap escapeChar ++ '"' :: rest =
      s'.toList.flatMap escapeChar ++ '"' :: rest' := by
    simpa [chars, quoteChars] using same
  have read := Document.readText_append (TextUnit.ofString_spelled s) rest
  rw [inner, Document.readText_append (TextUnit.ofString_spelled s') rest', Option.some.injEq,
    Prod.mk.injEq] at read
  have units := congrArg Document.stringOf? read.1
  rw [Document.stringOf?_ofString, Document.stringOf?_ofString, Option.some.injEq] at units
  exact ⟨congrArg string units.symm, read.2.symm⟩

theorem reworded (text : String) (v : Json) : v.ToldApart (v.reworded text) := by
  cases v with
  | string s => exact strings s text
  | _ => exact refl _

theorem head {v w : Json} (apart : v.ToldApart w) (rest : List Json) :
    (array (v :: rest)).ToldApart (array (w :: rest)) := by
  intro after after' same
  cases rest with
  | nil =>
      have inner : v.chars ++ ([']'] ++ after) = w.chars ++ ([']'] ++ after') := by
        simpa [chars, itemsChars] using same
      obtain ⟨rfl, ends⟩ := apart _ _ inner
      exact ⟨rfl, List.append_cancel_left ends⟩
  | cons next rest =>
      have inner : v.chars ++ ((',' :: itemsChars (next :: rest)) ++ after) =
          w.chars ++ ((',' :: itemsChars (next :: rest)) ++ after') := by
        simpa [chars, itemsChars] using same
      obtain ⟨rfl, ends⟩ := apart _ _ inner
      exact ⟨rfl, List.append_cancel_left ends⟩

theorem members {change : String × Json → Json}
    (apart : ∀ member : String × Json, member.2.ToldApart (change member))
    (list : List (String × Json)) {rest rest' : List Char}
    (same : membersChars list ++ rest =
      membersChars (list.map fun member => (member.1, change member)) ++ rest') :
    list = list.map (fun member => (member.1, change member)) ∧ rest = rest' := by
  induction list with
  | nil => exact ⟨rfl, List.append_cancel_left same⟩
  | cons member others ih =>
      obtain ⟨key, value⟩ := member
      cases others with
      | nil =>
          have inner : value.chars ++ (['}'] ++ rest) =
              (change (key, value)).chars ++ (['}'] ++ rest') := by
            simpa [membersChars] using same
          obtain ⟨equal, ends⟩ := apart (key, value) _ _ inner
          exact ⟨by simp [← equal], List.append_cancel_left ends⟩
      | cons next others =>
          have inner : value.chars ++ (',' :: membersChars (next :: others) ++ rest) =
              (change (key, value)).chars ++
                (',' :: membersChars ((next :: others).map fun m => (m.1, change m)) ++ rest') := by
            simpa [membersChars] using same
          obtain ⟨equal, ends⟩ := apart (key, value) _ _ inner
          rw [List.cons_append, List.cons_append, List.cons.injEq] at ends
          obtain ⟨later, after⟩ := ih ends.2
          refine ⟨?_, after⟩
          rw [List.map_cons, ← later, ← equal]

theorem mapMember {change : Json → Json} (apart : ∀ v : Json, v.ToldApart (change v))
    (key : String) (v : Json) :
    v.ToldApart (v.mapMember key change) := by
  cases v with
  | object list =>
      intro rest rest' same
      have step (member : String × Json) :
          member.2.ToldApart (if member.1 = key then change member.2 else member.2) := by
        split
        · exact apart member.2
        · exact refl member.2
      rw [Json.mapMember, chars, chars, List.cons_append, List.cons_append, List.cons.injEq] at same
      obtain ⟨equal, after⟩ := members step list same.2
      exact ⟨congrArg object equal, after⟩
  | _ => exact refl _

end ToldApart

end FeedBridge.Json
