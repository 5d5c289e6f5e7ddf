import FeedBridge.Proofs.Json.Members
import FeedBridge.Proofs.Json.Writing

namespace FeedBridge

theorem Json.parse?_eq_some_iff {text : String} {value : Json} : Json.parse? text = some value ↔
    ∃ document : Document, document.Fills text ∧ document.toJson? = some value := by
  simp only [Json.parse?, Option.bind_eq_some_iff, Document.parse?_eq_some_iff]

namespace Document

theorem toJson?_eq_some_iff {document : Document} {value : Json} :
    document.toJson? = some value ↔ document.depth ≤ maxDepth ∧ document.value? = some value := by
  unfold toJson?
  split_ifs with deep
  · simp [deep]
  · simp [deep]

def last? (key : String) : Document → Option Document
  | object members => (members.reverse.find? fun member => stringOf? member.1 = some key).map (·.2)
  | _ => none

theorem memberValues?_eq_some_iff {members : List (List TextUnit × Document)}
    {values : List (String × Json)} : memberValues? members = some values ↔
      List.Forall₂ (fun member value => stringOf? member.1 = some value.1 ∧
        member.2.value? = some value.2) members values := by
  induction members generalizing values with
  | nil => simp [memberValues?, eq_comm]
  | cons member members ih =>
      obtain ⟨key, document⟩ := member
      simp only [memberValues?, bind, Option.bind_eq_some_iff, pure, Option.some.injEq]
      constructor
      · rintro ⟨name, named, value, found, others, rest, rfl⟩
        exact .cons ⟨named, found⟩ (ih.mp rest)
      · rintro (_ | ⟨⟨named, found⟩, rest⟩)
        exact ⟨_, named, _, found, _, ih.mpr rest, rfl⟩

theorem lookup_of_memberValues {members : List (List TextUnit × Document)}
    {values : List (String × Json)} (key : String)
    (same : List.Forall₂ (fun member value => stringOf? member.1 = some value.1 ∧
      member.2.value? = some value.2) members values) :
    (values.lookup key).map some =
      ((members.find? fun member => stringOf? member.1 = some key).map (·.2)).map value? := by
  induction same with
  | nil => rfl
  | @cons member value members values first _ ih =>
      obtain ⟨name, document⟩ := member
      obtain ⟨key', value⟩ := value
      obtain ⟨named, found⟩ := first
      dsimp only at named found
      by_cases equal : key = key'
      · subst equal
        simp [named, found]
      · rw [Json.Members.lookup_cons_of_ne equal, ih]
        simp [named, Ne.symm equal]

theorem get?_of_value? {document : Document} {value : Json} (found : document.value? = some value)
    (key : String) : (value.get? key).map some = (document.last? key).map value? := by
  cases document with
  | object members =>
      obtain ⟨values, members, rfl⟩ := Option.map_eq_some_iff.mp (by simpa [value?] using found)
      -- The members are put in one after another, so the last of equal keys is the first from behind.
      rw [Json.get?_ofMembers]
      exact lookup_of_memberValues key (List.rel_reverse (memberValues?_eq_some_iff.mp members))
  | null | bool b =>
      cases found
      rfl
  | numeral | text | array =>
      obtain ⟨_, _, rfl⟩ := Option.map_eq_some_iff.mp (by simpa [value?] using found)
      rfl

variable {document : Document} {value : Json} {key : String}

theorem exists_get? (found : document.value? = some value) {entry : Document}
    (last : document.last? key = some entry) :
    ∃ member, value.get? key = some member ∧ entry.value? = some member := by
  have same := get?_of_value? found key
  rw [last] at same
  obtain ⟨member, got, read⟩ := Option.map_eq_some_iff.mp same
  exact ⟨member, got, read.symm⟩

theorem get?_eq_bind (found : document.value? = some value) (key : String) :
    value.get? key = (document.last? key).bind value? := by
  cases last : document.last? key with
  | none => simpa [last] using get?_of_value? found key
  | some entry =>
      obtain ⟨member, got, read⟩ := exists_get? found last
      rw [got, Option.bind_some, read]

theorem get?_eq_some_iff (found : document.value? = some value) {member : Json} :
    value.get? key = some member ↔
      ∃ entry, document.last? key = some entry ∧ entry.value? = some member := by
  rw [get?_eq_bind found, Option.bind_eq_some_iff]

theorem get?_eq_none_iff (found : document.value? = some value) :
    value.get? key = none ↔ document.last? key = none := by
  rw [← Option.map_eq_none_iff, get?_of_value? found key, Option.map_eq_none_iff]

theorem string?_eq_some_iff (found : document.value? = some value) {s : String} :
    value.string? = some s ↔ ∃ units, document = .text units ∧ stringOf? units = some s := by
  cases document with
  | text units =>
      obtain ⟨_, stands, rfl⟩ := Option.map_eq_some_iff.mp (by simpa [value?] using found)
      simp [Json.string?, stands]
  | null | bool b =>
      cases found
      simp [Json.string?]
  | numeral | array | object =>
      obtain ⟨_, _, rfl⟩ := Option.map_eq_some_iff.mp (by simpa [value?] using found)
      simp [Json.string?, Json.ofMembers]

theorem exists_object_iff (found : document.value? = some value) :
    (∃ members, value = .object members) ↔ ∃ members, document = .object members := by
  cases document with
  | object members =>
      obtain ⟨_, _, rfl⟩ := Option.map_eq_some_iff.mp (by simpa [value?] using found)
      simp [Json.ofMembers]
  | null | bool b =>
      cases found
      simp
  | numeral | text | array =>
      obtain ⟨_, _, rfl⟩ := Option.map_eq_some_iff.mp (by simpa [value?] using found)
      simp

end Document

namespace Json

theorem Members.insert_of_lt {key : String} {members : Members}
    (after : ∀ member ∈ members, member.1 < key) (value : Json) :
    insert key value members = members ++ [(key, value)] := by
  induction members with
  | nil => rfl
  | cons member rest ih =>
      have before := after member (.head _)
      have notBefore : ¬key < member.1 :=
        fun less => String.lt_irrefl _ (String.lt_trans less before)
      have other : key ≠ member.1 := by
        rintro rfl
        exact String.lt_irrefl _ before
      rw [insert, if_neg notBefore, if_neg other, ih fun member mem => after member (.tail _ mem)]
      rfl

theorem ofMembers_of_sorted {members : List (String × Json)}
    (sorted : (members.map (·.1)).Pairwise (· < ·)) : ofMembers members = object members := by
  have appended : ∀ (members before : List (String × Json)),
      ((before ++ members).map (·.1)).Pairwise (· < ·) →
        members.foldl (fun sorted member => Members.insert member.1 member.2 sorted) before =
          before ++ members := by
    intro members
    induction members with
    | nil => simp
    | cons member rest ih =>
        intro before sorted
        have after : ∀ other ∈ before, other.1 < member.1 := by
          intro other mem
          rw [List.map_append, List.pairwise_append] at sorted
          exact sorted.2.2 _ (List.mem_map_of_mem mem) _ (by simp)
        rw [List.foldl_cons, Members.insert_of_lt after, ih _ (by simpa using sorted)]
        simp
  rw [ofMembers, appended members [] sorted, List.nil_append]

mutual

def Sorted : Json → Prop
  | array items => ItemsSorted items
  | object members => (members.map (·.1)).Pairwise (· < ·) ∧ MembersSorted members
  | _ => True

def ItemsSorted : List Json → Prop
  | [] => True
  | item :: rest => item.Sorted ∧ ItemsSorted rest

def MembersSorted : List (String × Json) → Prop
  | [] => True
  | (_, value) :: rest => value.Sorted ∧ MembersSorted rest

end

mutual

def numbers : Json → List Number
  | number n => [n]
  | array items => itemNumbers items
  | object members => memberNumbers members
  | _ => []

def itemNumbers : List Json → List Number
  | [] => []
  | item :: rest => item.numbers ++ itemNumbers rest

def memberNumbers : List (String × Json) → List Number
  | [] => []
  | (_, value) :: rest => value.numbers ++ memberNumbers rest

end

/-- The number that is read where a number was written. -/
def Number.reread? (n : Number) : Option Number := (Numeral.ofNumber n).toNumber?

theorem Number.reread?_int {n : Int} (low : -(twoTo 63 : Int) ≤ n) (high : n < twoTo 64) :
    (int n).reread? = some (int n) := by
  rw [reread?, Numeral.ofNumber_int, Numeral.toNumber?_ofInt low high]

end Json

namespace Document

theorem keys_of_memberValues? {members values : List (String × Json)}
    (found : memberValues? (ofMembers members) = some values) :
    values.map (·.1) = members.map (·.1) := by
  induction members generalizing values with
  | nil =>
      cases found
      rfl
  | cons member members ih =>
      obtain ⟨key, value⟩ := member
      simp only [ofMembers, memberValues?, stringOf?_ofString, bind, Option.bind_some,
        Option.bind_eq_some_iff, pure, Option.some.injEq] at found
      obtain ⟨value, -, others, rest, rfl⟩ := found
      simp [ih rest]

mutual

theorem isSome_value?_ofJson (value : Json) : (ofJson value).value?.isSome ↔
    ∀ n ∈ value.numbers, n.reread?.isSome := by
  cases value with
  | null | bool b => simp [ofJson, value?, Json.numbers]
  | string s => simp [ofJson, value?, Json.numbers, stringOf?_ofString]
  | number n => simp [ofJson, value?, Json.numbers, Json.Number.reread?]
  | array items => simpa [ofJson, value?, Json.numbers] using isSome_itemValues? items
  | object members => simpa [ofJson, value?, Json.numbers] using isSome_memberValues? members

theorem isSome_itemValues? (items : List Json) : (itemValues? (ofItems items)).isSome ↔
    ∀ n ∈ Json.itemNumbers items, n.reread?.isSome := by
  cases items with
  | nil => simp [ofItems, itemValues?, Json.itemNumbers]
  | cons item rest =>
      have first := isSome_value?_ofJson item
      have others := isSome_itemValues? rest
      simp only [ofItems, itemValues?, Json.itemNumbers, List.mem_append, or_imp, forall_and]
      rw [← first, ← others]
      cases (ofJson item).value? <;> cases itemValues? (ofItems rest) <;> simp

theorem isSome_memberValues? (members : List (String × Json)) :
    (memberValues? (ofMembers members)).isSome ↔
      ∀ n ∈ Json.memberNumbers members, n.reread?.isSome := by
  match members with
  | [] => simp [ofMembers, memberValues?, Json.memberNumbers]
  | (key, value) :: rest =>
      have first := isSome_value?_ofJson value
      have others := isSome_memberValues? rest
      simp only [ofMembers, memberValues?, Json.memberNumbers, List.mem_append, or_imp, forall_and,
        stringOf?_ofString]
      rw [← first, ← others]
      cases (ofJson value).value? <;> cases memberValues? (ofMembers rest) <;> simp

end

mutual

theorem value?_ofJson_eq_self_iff (value : Json) (sorted : value.Sorted) :
    (ofJson value).value? = some value ↔ ∀ n ∈ value.numbers, n.reread? = some n := by
  cases value with
  | null | bool b => simp [ofJson, value?, Json.numbers]
  | string s => simp [ofJson, value?, Json.numbers, stringOf?_ofString]
  | number n => simp [ofJson, value?, Json.numbers, Json.Number.reread?]
  | array items => simpa [ofJson, value?, Json.numbers] using itemValues?_eq_self_iff items sorted
  | object members =>
      rw [Json.numbers, ← memberValues?_eq_self_iff members sorted.2]
      simp only [ofJson, value?, Option.map_eq_some_iff]
      constructor
      · rintro ⟨values, found, same⟩
        have keys := keys_of_memberValues? found
        rw [Json.ofMembers_of_sorted (keys ▸ sorted.1)] at same
        cases same
        exact found
      · exact fun found => ⟨members, found, Json.ofMembers_of_sorted sorted.1⟩

theorem itemValues?_eq_self_iff (items : List Json) (sorted : Json.ItemsSorted items) :
    itemValues? (ofItems items) = some items ↔
      ∀ n ∈ Json.itemNumbers items, n.reread? = some n := by
  cases items with
  | nil => simp [ofItems, itemValues?, Json.itemNumbers]
  | cons item rest =>
      have first := value?_ofJson_eq_self_iff item sorted.1
      have others := itemValues?_eq_self_iff rest sorted.2
      simp only [ofItems, itemValues?, Json.itemNumbers, List.mem_append, or_imp, forall_and]
      rw [← first, ← others]
      cases (ofJson item).value? <;> cases itemValues? (ofItems rest) <;> simp

theorem memberValues?_eq_self_iff (members : List (String × Json))
    (sorted : Json.MembersSorted members) : memberValues? (ofMembers members) = some members ↔
      ∀ n ∈ Json.memberNumbers members, n.reread? = some n := by
  match members, sorted with
  | [], _ => simp [ofMembers, memberValues?, Json.memberNumbers]
  | (key, value) :: rest, sorted =>
      have first := value?_ofJson_eq_self_iff value sorted.1
      have others := memberValues?_eq_self_iff rest sorted.2
      simp only [ofMembers, memberValues?, Json.memberNumbers, List.mem_append, or_imp, forall_and,
        stringOf?_ofString]
      rw [← first, ← others]
      cases (ofJson value).value? <;> cases memberValues? (ofMembers rest) <;> simp

end

theorem last?_ofJson_object (key : String) (members : List (String × Json)) :
    (ofJson (.object members)).last? key = (members.reverse.lookup key).map ofJson := by
  have pairs : ofMembers members = members.map fun m => (TextUnit.ofString m.1, ofJson m.2) := by
    induction members with
    | nil => rfl
    | cons member rest ih =>
        obtain ⟨key, value⟩ := member
        rw [ofMembers, ih, List.map_cons]
  rw [ofJson, last?, pairs, ← List.map_reverse]
  induction members.reverse with
  | nil => rfl
  | cons member rest ih =>
      obtain ⟨name, value⟩ := member
      by_cases equal : key = name
      · subst equal
        simp [stringOf?_ofString]
      · rw [Json.Members.lookup_cons_of_ne equal, ← ih]
        simp [stringOf?_ofString, Ne.symm equal]

end Document

end FeedBridge
