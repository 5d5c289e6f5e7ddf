import FeedBridge.Proofs.Json.Scalars
import Mathlib.Tactic.SplitIfs

namespace FeedBridge

namespace Document

variable {cs rest : List Char}

def OpensNumber (c : Char) : Prop := c = '-' ∨ ∃ digit, digitValue? c = some digit

theorem exists_opensNumber {n : Numeral} (spelled : n.Spelled cs) :
    ∃ c more, cs = c :: more ∧ OpensNumber c := by
  obtain ⟨negative, whole, fraction, exponent⟩ := n
  obtain ⟨nonempty, -, units, -, -⟩ := spelled
  cases negative with
  | true => exact ⟨'-', _, rfl, .inl rfl⟩
  | false =>
      cases units with
      | nil => exact absurd rfl nonempty
      | cons first others => exact ⟨_, _, rfl, .inr ⟨_, first⟩⟩

theorem OpensNumber.ne {c : Char} (opens : OpensNumber c) (mark : Char) (noSign : '-' ≠ mark)
    (noDigit : digitValue? mark = none) : c ≠ mark := by
  obtain rfl | ⟨digit, found⟩ := opens
  · exact noSign
  · exact ne_of_digit found mark noDigit

theorem OpensNumber.dark {c : Char} (opens : OpensNumber c) : isSpace c = false := by
  simp [isSpace, opens.ne ' ' (by decide) (by decide), opens.ne '\t' (by decide) (by decide),
    opens.ne '\n' (by decide) (by decide), opens.ne '\r' (by decide) (by decide)]

theorem exists_head {document : Document} (spelled : document.Spelled cs) :
    ∃ c more, cs = c :: more ∧ isSpace c = false ∧ c ≠ ']' := by
  cases spelled with
  | null | true | false | text | noItems | array | noMembers | object =>
      exact ⟨_, _, rfl, by decide, by decide⟩
  | numeral spelled =>
      obtain ⟨c, more, rfl, opens⟩ := exists_opensNumber spelled
      exact ⟨c, more, rfl, opens.dark, opens.ne ']' (by decide) (by decide)⟩

theorem readValue_of_number {c : Char} (opens : OpensNumber c) (fuel : Nat) (cs : List Char) :
    readValue (fuel + 1) (c :: cs) = readNumeral (c :: cs) := by
  have apart {mark : Char} {more : List Char} (noSign : '-' ≠ mark)
      (noDigit : digitValue? mark = none) : c :: cs ≠ mark :: more :=
    fun same => opens.ne mark noSign noDigit (List.cons.inj same).1
  rw [readValue, skipSpace_cons opens.dark]
  split
  case h_7 => rfl
  all_goals
    next same => exact absurd same (apart (by decide) (by decide))

theorem readValue_skipSpace (fuel : Nat) (cs : List Char) :
    readValue fuel (skipSpace cs) = readValue fuel cs := by
  cases fuel with
  | zero => rfl
  | succ fuel => rw [readValue, readValue, skipSpace_skipSpace]

theorem readItems_skipSpace (fuel : Nat) (cs : List Char) :
    readItems fuel (skipSpace cs) = readItems fuel cs := by
  cases fuel with
  | zero => rfl
  | succ fuel => rw [readItems, readItems, readValue_skipSpace]

theorem readMembers_skipSpace (fuel : Nat) (cs : List Char) :
    readMembers fuel (skipSpace cs) = readMembers fuel cs := by
  cases fuel with
  | zero => rfl
  | succ fuel => rw [readMembers, readMembers, skipSpace_skipSpace]

theorem endsNumber_append {gap : List Char} (blank : Blank gap) (ends : EndsNumber rest) :
    EndsNumber (gap ++ rest) := by
  cases gap with
  | nil => exact ends
  | cons c gap =>
      rintro _ ⟨⟩
      have space := blank c (.head _)
      simp only [isSpace, Bool.or_eq_true, decide_eq_true_eq] at space
      obtain ((rfl | rfl) | rfl) | rfl := space <;> decide

structure Closed (rest : List Char) : Prop where
  ends : EndsNumber rest
  dark : skipSpace rest = rest

theorem closed_nil : Closed [] := ⟨nofun, rfl⟩

theorem closed_comma (rest : List Char) : Closed (',' :: rest) :=
  ⟨by rintro _ ⟨⟩; decide, rfl⟩

theorem closed_bracket (rest : List Char) : Closed (']' :: rest) :=
  ⟨by rintro _ ⟨⟩; decide, rfl⟩

theorem closed_brace (rest : List Char) : Closed ('}' :: rest) :=
  ⟨by rintro _ ⟨⟩; decide, rfl⟩

/-! ## What is spelled is taken -/

/-- The reader takes what is spelled, if it may take two steps for each of its characters. -/
structure Takes (fuel : Nat) : Prop where
  value {document : Document} {cs rest : List Char} (spelled : document.Spelled cs)
    (ends : EndsNumber rest) (enough : 2 * cs.length ≤ fuel) :
    readValue fuel (cs ++ rest) = some (document, rest)
  items {items : List Document} {cs : List Char} (spelled : SpelledItems items cs)
    (enough : 2 * cs.length + 1 ≤ fuel) (rest : List Char) :
    readItems fuel (cs ++ ']' :: rest) = some (items, rest)
  members {members : List (List TextUnit × Document)} {cs : List Char}
    (spelled : SpelledMembers members cs) (enough : 2 * cs.length + 1 ≤ fuel) (rest : List Char) :
    readMembers fuel (cs ++ '}' :: rest) = some (members, rest)

theorem Takes.padded {fuel : Nat} (takes : Takes fuel) {document : Document}
    (spelled : document.Padded cs) (closed : Closed rest) (enough : 2 * cs.length ≤ fuel) :
    ∃ after, readValue fuel (cs ++ rest) = some (document, after) ∧ skipSpace after = rest := by
  obtain ⟨indent, spelled, blank⟩ := spelled
  rename_i before cs after
  refine ⟨after ++ rest, ?_, ?_⟩
  · obtain ⟨c, more, rfl, dark, -⟩ := exists_head spelled
    simp only [List.length_append] at enough
    have read := takes.value spelled (endsNumber_append blank closed.ends) (by omega)
    rw [List.append_assoc, List.append_assoc, ← readValue_skipSpace, skipSpace_append indent,
      readValue_skipSpace, read]
  · rw [skipSpace_append blank, closed.dark]

theorem exists_head_items {items : List Document} (spelled : SpelledItems items cs)
    (rest : List Char) : ∃ c more, skipSpace (cs ++ rest) = c :: more ∧ c ≠ ']' := by
  have padded {document : Document} {cs rest : List Char} (spelled : document.Padded cs) :
      ∃ c more, skipSpace (cs ++ rest) = c :: more ∧ c ≠ ']' := by
    obtain ⟨indent, spelled, -⟩ := spelled
    obtain ⟨c, more, rfl, dark, noBracket⟩ := exists_head spelled
    simp only [List.append_assoc, List.cons_append, skipSpace_append indent, skipSpace_cons dark]
    exact ⟨c, _, rfl, noBracket⟩
  cases spelled with
  | last spelled => exact padded spelled
  | more spelled others =>
      rw [List.append_assoc]
      exact padded spelled

theorem exists_head_members {members : List (List TextUnit × Document)}
    (spelled : SpelledMembers members cs) (rest : List Char) :
    ∃ more, skipSpace (cs ++ rest) = '"' :: more := by
  have member {member : List TextUnit × Document} {cs rest : List Char}
      (spelled : SpelledMember member cs) : ∃ more, skipSpace (cs ++ rest) = '"' :: more := by
    obtain ⟨indent, -, -, -⟩ := spelled
    rw [List.append_assoc, skipSpace_append indent]
    exact ⟨_, rfl⟩
  cases spelled with
  | last spelled => exact member spelled
  | more spelled others =>
      rw [List.append_assoc]
      exact member spelled

variable {fuel : Nat}

theorem Takes.value_succ (takes : Takes fuel) {document : Document}
    (spelled : document.Spelled cs) (ends : EndsNumber rest) (enough : 2 * cs.length ≤ fuel + 1) :
    readValue (fuel + 1) (cs ++ rest) = some (document, rest) := by
  cases spelled with
  | null | true | false => rfl
  | numeral spelled =>
      obtain ⟨c, more, rfl, opens⟩ := exists_opensNumber spelled
      rw [List.cons_append, readValue_of_number opens, ← List.cons_append,
        readNumeral_append spelled ends]
  | text spelled =>
      have read := readText_append spelled rest
      simp [readValue, skipSpace_cons (c := '"') (by decide), read]
  | noItems blank =>
      have closed := skipSpace_append blank (']' :: rest)
      rw [skipSpace_cons (by decide)] at closed
      simp [readValue, skipSpace_cons (c := '[') (by decide), closed]
  | @array items cs spelled =>
      simp only [List.length_cons, List.length_append, List.length_nil] at enough
      have read := takes.items spelled (by omega) rest
      obtain ⟨c, more, head, noBracket⟩ := exists_head_items spelled (']' :: rest)
      rw [← readItems_skipSpace, head] at read
      simp [readValue, skipSpace_cons (c := '[') (by decide), head, noBracket, read]
  | noMembers blank =>
      have closed := skipSpace_append blank ('}' :: rest)
      rw [skipSpace_cons (by decide)] at closed
      simp [readValue, skipSpace_cons (c := '{') (by decide), closed]
  | @object members cs spelled =>
      simp only [List.length_cons, List.length_append, List.length_nil] at enough
      have read := takes.members spelled (by omega) rest
      obtain ⟨more, head⟩ := exists_head_members spelled ('}' :: rest)
      rw [← readMembers_skipSpace, head] at read
      simp [readValue, skipSpace_cons (c := '{') (by decide), head, read]

theorem Takes.items_succ (takes : Takes fuel) {items : List Document}
    (spelled : SpelledItems items cs) (enough : 2 * cs.length + 1 ≤ fuel + 1) (rest : List Char) :
    readItems (fuel + 1) (cs ++ ']' :: rest) = some (items, rest) := by
  cases spelled with
  | last spelled =>
      obtain ⟨after, read, closed⟩ := takes.padded spelled (closed_bracket rest) (by omega)
      simp [readItems, read, closed]
  | @more item items cs others spelled more =>
      simp only [List.length_cons, List.length_append] at enough
      obtain ⟨after, read, closed⟩ :=
        takes.padded spelled (closed_comma (others ++ ']' :: rest)) (by omega)
      have next := takes.items more (by omega) rest
      simp [readItems, read, closed, next]

def afterMember (fuel : Nat) (member : List TextUnit × Document) :
    List Char → Option (List (List TextUnit × Document) × List Char)
  | ',' :: rest => (readMembers fuel rest).map fun (members, rest) => (member :: members, rest)
  | '}' :: rest => some ([member], rest)
  | _ => none

theorem Takes.member (takes : Takes fuel) {member : List TextUnit × Document}
    (spelled : SpelledMember member cs) (closed : Closed rest) (enough : 2 * cs.length ≤ fuel) :
    readMembers (fuel + 1) (cs ++ rest) = afterMember fuel member rest := by
  obtain ⟨indent, named, blank, spelled⟩ := spelled
  rename_i key value before name gap cs
  simp only [List.length_append, List.length_cons] at enough
  obtain ⟨after, read, followed⟩ := takes.padded spelled closed (by omega)
  have quote : skipSpace (before ++ '"' :: (name ++ '"' :: (gap ++ ':' :: cs)) ++ rest) =
      '"' :: (name ++ '"' :: (gap ++ ':' :: (cs ++ rest))) := by
    rw [List.append_assoc, skipSpace_append indent, List.cons_append, skipSpace_cons (by decide)]
    simp
  have colon : skipSpace (gap ++ ':' :: (cs ++ rest)) = ':' :: (cs ++ rest) := by
    rw [skipSpace_append blank, skipSpace_cons (by decide)]
  rw [readMembers, quote]
  simp only [readText_append named, colon, read, followed, bind, Option.bind_some]
  rfl

theorem Takes.members_succ (takes : Takes fuel) {members : List (List TextUnit × Document)}
    (spelled : SpelledMembers members cs) (enough : 2 * cs.length + 1 ≤ fuel + 1)
    (rest : List Char) : readMembers (fuel + 1) (cs ++ '}' :: rest) = some (members, rest) := by
  cases spelled with
  | last spelled => exact takes.member spelled (closed_brace rest) (by omega)
  | @more member members cs others spelled more =>
      simp only [List.length_cons, List.length_append] at enough
      have next := takes.members more (by omega) rest
      rw [List.append_assoc, List.cons_append, takes.member spelled (closed_comma _) (by omega)]
      simp only [afterMember, next, Option.map_some]

theorem takes (fuel : Nat) : Takes fuel := by
  induction fuel with
  | zero =>
      refine ⟨?_, ?_, ?_⟩
      · intro document cs rest spelled _ enough
        obtain ⟨c, more, rfl, -⟩ := exists_head spelled
        simp at enough
      · intro items cs _ enough
        omega
      · intro members cs _ enough
        omega
  | succ fuel ih => exact ⟨ih.value_succ, ih.items_succ, ih.members_succ⟩

structure Spells (fuel : Nat) : Prop where
  value {document : Document} {cs rest : List Char}
    (read : readValue fuel cs = some (document, rest)) :
    ∃ before body, Blank before ∧ document.Spelled body ∧ cs = before ++ (body ++ rest)
  items {items : List Document} {cs rest : List Char}
    (read : readItems fuel cs = some (items, rest)) :
    ∃ body, SpelledItems items body ∧ cs = body ++ ']' :: rest
  members {members : List (List TextUnit × Document)} {cs rest : List Char}
    (read : readMembers fuel cs = some (members, rest)) :
    ∃ body, SpelledMembers members body ∧ cs = body ++ '}' :: rest

theorem Spells.padded (spells : Spells fuel) {document : Document} {after : List Char}
    (read : readValue fuel cs = some (document, after)) :
    ∃ body, document.Padded body ∧ cs = body ++ skipSpace after := by
  obtain ⟨before, body, indent, spelled, rfl⟩ := spells.value read
  obtain ⟨gap, blank, split⟩ := exists_blank after
  refine ⟨before ++ (body ++ gap), ⟨indent, spelled, blank⟩, ?_⟩
  rw [split]
  simp [skipSpace_append blank]

theorem Spells.value_succ (spells : Spells fuel) {document : Document}
    (read : readValue (fuel + 1) cs = some (document, rest)) :
    ∃ before body, Blank before ∧ document.Spelled body ∧ cs = before ++ (body ++ rest) := by
  obtain ⟨before, indent, split⟩ := exists_blank cs
  -- The reader looks at nothing but what is left behind the blanks.
  suffices ∃ body, document.Spelled body ∧ skipSpace cs = body ++ rest by
    obtain ⟨body, spelled, same⟩ := this
    exact ⟨before, body, indent, spelled, same ▸ split⟩
  unfold readValue at read
  split at read
  · next same =>
    cases read
    exact ⟨_, .null, same⟩
  · next same =>
    cases read
    exact ⟨_, .true, same⟩
  · next same =>
    cases read
    exact ⟨_, .false, same⟩
  · next same =>
    obtain ⟨⟨units, after⟩, found, final⟩ := Option.map_eq_some_iff.mp read
    cases final
    obtain ⟨body, spelled, rfl⟩ := spelledAll_of_readText found
    exact ⟨_, .text spelled, by simp [same]⟩
  · next more same =>
    obtain ⟨gap, blank, inside⟩ := exists_blank more
    split at read
    · next closed =>
      cases read
      rw [closed] at inside
      exact ⟨_, .noItems blank, by simp [same, inside]⟩
    · obtain ⟨⟨items, after⟩, found, final⟩ := Option.map_eq_some_iff.mp read
      cases final
      rw [readItems_skipSpace] at found
      obtain ⟨body, spelled, rfl⟩ := spells.items found
      exact ⟨_, .array spelled, by simp [same]⟩
  · next more same =>
    obtain ⟨gap, blank, inside⟩ := exists_blank more
    split at read
    · next closed =>
      cases read
      rw [closed] at inside
      exact ⟨_, .noMembers blank, by simp [same, inside]⟩
    · obtain ⟨⟨members, after⟩, found, final⟩ := Option.map_eq_some_iff.mp read
      cases final
      rw [readMembers_skipSpace] at found
      obtain ⟨body, spelled, rfl⟩ := spells.members found
      exact ⟨_, .object spelled, by simp [same]⟩
  · obtain ⟨n, body, rfl, spelled, same⟩ := numeralSpelled_of_read read
    exact ⟨body, .numeral spelled, same⟩

theorem Spells.items_succ (spells : Spells fuel) {items : List Document}
    (read : readItems (fuel + 1) cs = some (items, rest)) :
    ∃ body, SpelledItems items body ∧ cs = body ++ ']' :: rest := by
  simp only [readItems, bind, Option.bind_eq_some_iff] at read
  obtain ⟨⟨item, after⟩, found, read⟩ := read
  obtain ⟨first, padded, rfl⟩ := spells.padded found
  split at read
  · next same =>
    obtain ⟨⟨others, after⟩, found, final⟩ := Option.map_eq_some_iff.mp read
    cases final
    obtain ⟨body, spelled, rfl⟩ := spells.items found
    exact ⟨_, .more padded spelled, by simp [same]⟩
  · next same =>
    cases read
    exact ⟨first, .last padded, by rw [same]⟩
  · cases read

theorem Spells.members_succ (spells : Spells fuel) {members : List (List TextUnit × Document)}
    (read : readMembers (fuel + 1) cs = some (members, rest)) :
    ∃ body, SpelledMembers members body ∧ cs = body ++ '}' :: rest := by
  obtain ⟨before, indent, split⟩ := exists_blank cs
  unfold readMembers at read
  split at read
  case h_2 => cases read
  next quote =>
  simp only [bind, Option.bind_eq_some_iff] at read
  obtain ⟨⟨key, named⟩, found, read⟩ := read
  obtain ⟨name, spelledName, rfl⟩ := spelledAll_of_readText found
  obtain ⟨gap, blank, splitGap⟩ := exists_blank named
  split at read
  case h_2 => cases read
  next colon =>
  simp only [Option.bind_eq_some_iff] at read
  obtain ⟨⟨value, after⟩, found, read⟩ := read
  obtain ⟨body, padded, rfl⟩ := spells.padded found
  have member : SpelledMember (key, value) _ := .intro indent spelledName blank padded
  split at read
  · next same =>
    obtain ⟨⟨others, after⟩, found, final⟩ := Option.map_eq_some_iff.mp read
    cases final
    obtain ⟨body, spelled, rfl⟩ := spells.members found
    refine ⟨_, .more member spelled, ?_⟩
    rw [split, quote, splitGap, colon, same]
    simp
  · next same =>
    cases read
    refine ⟨_, .last member, ?_⟩
    rw [split, quote, splitGap, colon, same]
    simp
  · cases read

theorem spells (fuel : Nat) : Spells fuel := by
  induction fuel with
  | zero =>
      refine ⟨?_, ?_, ?_⟩
      · intro document cs rest read
        cases read
      · intro items cs rest read
        cases read
      · intro members cs rest read
        cases read
  | succ fuel ih => exact ⟨ih.value_succ, ih.items_succ, ih.members_succ⟩

theorem parse?_eq_some_iff {text : String} {document : Document} :
    parse? text = some document ↔ document.Fills text := by
  simp only [parse?, Fills, bind, Option.bind_eq_some_iff]
  constructor
  · rintro ⟨⟨found, after⟩, read, final⟩
    split_ifs at final with finished
    cases final
    obtain ⟨body, padded, same⟩ := (spells _).padded read
    rw [List.isEmpty_iff] at finished
    rwa [same, finished, List.append_nil]
  · intro padded
    obtain ⟨after, read, finished⟩ := (takes (2 * text.toList.length + 2)).padded padded closed_nil
      (by omega)
    rw [List.append_nil] at read
    exact ⟨_, read, by simp [finished]⟩

theorem Fills.unique {text : String} {document other : Document} (fills : document.Fills text)
    (otherFills : other.Fills text) : document = other := by
  rw [← parse?_eq_some_iff] at fills otherFills
  exact Option.some.inj (fills.symm.trans otherFills)

end Document

end FeedBridge
