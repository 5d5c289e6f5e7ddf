import FeedBridge.Proofs.Json.Numbers
import FeedBridge.Proofs.Json.Reading

namespace FeedBridge

namespace TextUnit

def ofChar (c : Char) : TextUnit :=
  if c.toNat < 32 ∧ c ∉ ['\n', '\r', '\t', '\x08', '\x0c'] then .escaped c.toNat else .plain c

def ofString (s : String) : List TextUnit := s.toList.map ofChar

theorem codeUnit?_ofByte {n : Nat} (control : n < 32) : Document.codeUnit? '0' '0'
    (Text.Hex.digit (n / 16)) (Text.Hex.digit (n % 16)) = some n := by
  revert n
  decide

theorem ofChar_spelled (c : Char) : (ofChar c).Spelled (Json.escapeChar c) := by
  by_cases short : c ∈ ['\n', '\r', '\t', '\x08', '\x0c']
  · rw [ofChar, if_neg fun control => control.2 short]
    simp only [List.mem_cons, List.not_mem_nil, or_false] at short
    obtain rfl | rfl | rfl | rfl | rfl := short <;> exact .short (by decide)
  by_cases control : c.toNat < 32
  · rw [ofChar, if_pos ⟨control, short⟩]
    have byte : c.toUInt8.toNat = c.toNat := Nat.mod_eq_of_lt (Nat.lt_trans control (by decide))
    have unit := codeUnit?_ofByte control
    have noQuote : c ≠ '"' := by
      rintro rfl
      exact absurd control (by decide)
    have noEscape : c ≠ '\\' := by
      rintro rfl
      exact absurd control (by decide)
    simp only [List.mem_cons, List.not_mem_nil, or_false, not_or] at short
    simp only [Json.escapeChar, noQuote, noEscape, short, control, Text.Hex.ofByte, byte, if_false,
      if_true]
    exact .code unit
  · rw [ofChar, if_neg fun both => control both.1]
    by_cases marked : c = '"' ∨ c = '\\'
    · obtain rfl | rfl := marked <;> exact .short (by decide)
    · rw [not_or] at marked
      simp only [List.mem_cons, List.not_mem_nil, or_false, not_or] at short
      simp only [Json.escapeChar, marked, short, control, if_false]
      exact .plain marked.1 marked.2 (not_lt.mp control)

theorem ofString_spelled (s : String) :
    SpelledAll (ofString s) (s.toList.flatMap Json.escapeChar) := by
  unfold ofString
  induction s.toList with
  | nil => exact .nil
  | cons c cs ih => exact .cons (ofChar_spelled c) ih

theorem decode?_escaped {unit : Nat} (small : unit < 32) (rest : List TextUnit) :
    decode? (escaped unit :: rest) = (decode? rest).map (Char.ofNat unit :: ·) := by
  have noLead : isLead unit = false := by
    simp [isLead]
    omega
  have noTrail : isTrail unit = false := by
    simp [isTrail]
    omega
  cases rest with
  | nil => simp [decode?, noLead, noTrail]
  | cons other rest => cases other <;> simp [decode?, noLead, noTrail]

theorem decode?_ofChar (cs : List Char) : decode? (cs.map ofChar) = some cs := by
  induction cs with
  | nil => rfl
  | cons c cs ih =>
      rw [List.map_cons, ofChar]
      split_ifs with control
      · rw [decode?_escaped control.1, ih, Char.ofNat_toNat]
        rfl
      · rw [decode?, ih]
        rfl

end TextUnit

namespace Document

theorem stringOf?_ofString (s : String) : stringOf? (TextUnit.ofString s) = some s := by
  rw [stringOf?, TextUnit.ofString, TextUnit.decode?_ofChar, Option.map_some, String.ofList_toList]

mutual

def ofJson : Json → Document
  | .null => null
  | .bool b => bool b
  | .number n => numeral (.ofNumber n)
  | .string s => text (TextUnit.ofString s)
  | .array items => array (ofItems items)
  | .object members => object (ofMembers members)

def ofItems : List Json → List Document
  | [] => []
  | item :: rest => ofJson item :: ofItems rest

def ofMembers : List (String × Json) → List (List TextUnit × Document)
  | [] => []
  | (key, value) :: rest => (TextUnit.ofString key, ofJson value) :: ofMembers rest

end

theorem Spelled.padded {document : Document} {cs : List Char} (spelled : document.Spelled cs) :
    document.Padded cs := by
  simpa using Padded.intro blank_nil spelled blank_nil

theorem member_spelled {key : String} {value : Document} {cs : List Char}
    (spelled : value.Spelled cs) :
    SpelledMember (TextUnit.ofString key, value) (Json.quoteChars key ++ ':' :: cs) := by
  simpa [Json.quoteChars] using
    SpelledMember.intro blank_nil (TextUnit.ofString_spelled key) blank_nil spelled.padded

mutual

theorem ofJson_spelled (value : Json) : (ofJson value).Spelled value.chars := by
  cases value with
  | null => exact .null
  | bool b =>
      cases b with
      | true => exact .true
      | false => exact .false
  | number n => exact .numeral (Numeral.ofNumber_spelled n)
  | string s => exact .text (TextUnit.ofString_spelled s)
  | array items =>
      by_cases empty : items = []
      · rw [empty]
        exact .noItems blank_nil
      · obtain ⟨cs, same, spelled⟩ := ofItems_spelled items empty
        rw [Json.chars, same]
        exact .array spelled
  | object members =>
      by_cases empty : members = []
      · rw [empty]
        exact .noMembers blank_nil
      · obtain ⟨cs, same, spelled⟩ := ofMembers_spelled members empty
        rw [Json.chars, same]
        exact .object spelled

theorem ofItems_spelled (items : List Json) (nonempty : items ≠ []) :
    ∃ cs, Json.itemsChars items = cs ++ [']'] ∧ SpelledItems (ofItems items) cs := by
  match items with
  | [] => exact absurd rfl nonempty
  | [item] => exact ⟨_, rfl, .last (ofJson_spelled item).padded⟩
  | item :: next :: rest =>
      obtain ⟨cs, same, spelled⟩ := ofItems_spelled (next :: rest) (by simp)
      exact ⟨_, by simp [Json.itemsChars, same], .more (ofJson_spelled item).padded spelled⟩

theorem ofMembers_spelled (members : List (String × Json)) (nonempty : members ≠ []) :
    ∃ cs, Json.membersChars members = cs ++ ['}'] ∧ SpelledMembers (ofMembers members) cs := by
  match members with
  | [] => exact absurd rfl nonempty
  | [(key, value)] => exact ⟨_, rfl, .last (member_spelled (ofJson_spelled value))⟩
  | (key, value) :: next :: rest =>
      obtain ⟨cs, same, spelled⟩ := ofMembers_spelled (next :: rest) (by simp)
      refine ⟨_, ?_, .more (member_spelled (ofJson_spelled value)) spelled⟩
      simp [Json.membersChars, same]

end

theorem fills_text (value : Json) : (ofJson value).Fills value.text := by
  unfold Fills Json.text
  rw [String.toList_ofList]
  exact (ofJson_spelled value).padded

end Document

theorem Json.parse?_text (value : Json) :
    Json.parse? value.text = (Document.ofJson value).toJson? := by
  rw [Json.parse?, Document.parse?_eq_some_iff.mpr (Document.fills_text value), Option.bind_some]

end FeedBridge
