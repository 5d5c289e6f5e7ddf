import FeedBridge.Proofs.Json.Grammar
import Mathlib.Data.List.DropRight
import Mathlib.Data.List.TakeWhile
import Mathlib.Tactic.SplitIfs

namespace FeedBridge

namespace Document

variable {cs rest : List Char}

theorem blank_nil : Blank [] := nofun

theorem skipSpace_append {gap : List Char} (blank : Blank gap) (rest : List Char) :
    skipSpace (gap ++ rest) = skipSpace rest := List.dropWhile_append_of_pos blank

@[simp] theorem skipSpace_skipSpace (cs : List Char) : skipSpace (skipSpace cs) = skipSpace cs :=
  List.dropWhile_idempotent _ _

theorem skipSpace_cons {c : Char} (dark : isSpace c = false) (rest : List Char) :
    skipSpace (c :: rest) = c :: rest := by simp [skipSpace, dark]

theorem exists_blank (cs : List Char) : ∃ gap, Blank gap ∧ cs = gap ++ skipSpace cs :=
  ⟨cs.takeWhile isSpace, fun _ mem => List.mem_takeWhile_imp mem,
    List.takeWhile_append_dropWhile.symm⟩

theorem readText_append {units : List TextUnit} (spelled : TextUnit.SpelledAll units cs)
    (rest : List Char) : readText (cs ++ '"' :: rest) = some (units, rest) := by
  induction spelled with
  | nil => rfl
  | cons first others ih =>
      cases first with
      | plain noQuote noEscape printable => simp [readText, noEscape, printable, ih]
      | @short mark c escape =>
          have noCode : mark ≠ 'u' := by
            rintro rfl
            cases escape
          simp [readText, noCode, escape, ih]
      | code digits => simp [readText, digits, ih]

theorem spelledAll_of_readText {units : List TextUnit} (read : readText cs = some (units, rest)) :
    ∃ body, TextUnit.SpelledAll units body ∧ cs = body ++ '"' :: rest := by
  fun_induction readText cs generalizing units with
  | case1 => cases read
  | case2 rest =>
      cases read
      exact ⟨[], .nil, rfl⟩
  | case3 a b c d more ih =>
      simp only [bind, Option.bind_eq_some_iff] at read
      obtain ⟨unit, digits, ⟨others, after⟩, found, same⟩ := read
      cases same
      obtain ⟨body, spelled, rfl⟩ := ih found
      exact ⟨_, .cons (.code digits) spelled, rfl⟩
  | case4 mark more _ ih =>
      simp only [bind, Option.bind_eq_some_iff] at read
      obtain ⟨char, escape, ⟨others, after⟩, found, same⟩ := read
      cases same
      obtain ⟨body, spelled, rfl⟩ := ih found
      exact ⟨_, .cons (.short escape) spelled, rfl⟩
  | case5 => cases read
  | case6 c more noQuote _ _ plain ih =>
      simp only [bind, Option.bind_eq_some_iff] at read
      obtain ⟨⟨others, after⟩, found, same⟩ := read
      cases same
      obtain ⟨body, spelled, rfl⟩ := ih found
      simp only [Bool.or_eq_true, decide_eq_true_eq, not_or, Nat.not_lt] at plain
      exact ⟨_, .cons (.plain noQuote plain.1 plain.2) spelled, rfl⟩

def EndsDigits (rest : List Char) : Prop := ∀ c ∈ rest.head?, digitValue? c = none

def EndsNumber (rest : List Char) : Prop :=
  ∀ c ∈ rest.head?, digitValue? c = none ∧ c ≠ '.' ∧ c ≠ 'e' ∧ c ≠ 'E'

theorem ne_of_digit {c : Char} {digit : Nat} (found : digitValue? c = some digit) (mark : Char)
    (none : digitValue? mark = none) : c ≠ mark := by
  rintro rfl
  rw [none] at found
  cases found

theorem EndsNumber.endsDigits (ends : EndsNumber rest) : EndsDigits rest :=
  fun c mem => (ends c mem).1

variable {digits : List Nat}

theorem readDigits_append (spelled : Digits digits cs) (ends : EndsDigits rest) :
    readDigits (cs ++ rest) = (digits, rest) := by
  induction spelled with
  | nil =>
      cases rest with
      | nil => rfl
      | cons c rest => simp [readDigits, ends c rfl]
  | cons first _ ih => simp [readDigits, first, ih]

theorem digits_of_readDigits (read : readDigits cs = (digits, rest)) :
    ∃ body, Digits digits body ∧ cs = body ++ rest := by
  fun_induction readDigits cs generalizing digits with
  | case1 =>
      cases read
      exact ⟨[], .nil, rfl⟩
  | case2 c more digit value others after found ih =>
      cases read
      obtain ⟨body, spelled, rfl⟩ := ih found
      exact ⟨c :: body, .cons value spelled, rfl⟩
  | case3 c more value =>
      cases read
      exact ⟨[], .nil, rfl⟩

theorem readFraction_append (spelled : Numeral.FractionSpelled digits cs)
    (ends : ∀ c ∈ rest.head?, digitValue? c = none ∧ c ≠ '.') :
    readFraction (cs ++ rest) = some (digits, rest) := by
  cases spelled with
  | absent =>
      rw [List.nil_append]
      unfold readFraction
      split
      · exact absurd rfl (ends '.' rfl).2
      · rfl
  | present nonempty spelled =>
      simp [readFraction, readDigits_append spelled fun c mem => (ends c mem).1, nonempty]

theorem fractionSpelled_of_read (read : readFraction cs = some (digits, rest)) :
    ∃ body, Numeral.FractionSpelled digits body ∧ cs = body ++ rest := by
  unfold readFraction at read
  split at read
  · next more =>
    obtain ⟨body, spelled, same⟩ := digits_of_readDigits (rfl : readDigits more = (_, _))
    dsimp only at read
    split_ifs at read with empty
    cases read
    exact ⟨'.' :: body, .present (by simpa using empty) spelled, congrArg ('.' :: ·) same⟩
  · cases read
    exact ⟨[], .absent, rfl⟩

variable {exponent : Option (Bool × List Nat)}

theorem readExponentDigits_append (negative : Bool) (nonempty : digits ≠ [])
    (spelled : Digits digits cs) (ends : EndsDigits rest) :
    readExponentDigits negative (cs ++ rest) = some (some (negative, digits), rest) := by
  simp [readExponentDigits, readDigits_append spelled ends, nonempty]

theorem digits_of_readExponentDigits {negative : Bool}
    (read : readExponentDigits negative cs = some (exponent, rest)) :
    ∃ digits body, exponent = some (negative, digits) ∧ digits ≠ [] ∧ Digits digits body ∧
      cs = body ++ rest := by
  obtain ⟨body, spelled, same⟩ := digits_of_readDigits (rfl : readDigits cs = (_, _))
  unfold readExponentDigits at read
  dsimp only at read
  split_ifs at read with empty
  cases read
  exact ⟨_, body, rfl, by simpa using empty, spelled, same⟩

theorem readExponent_append (spelled : Numeral.ExponentSpelled exponent cs)
    (ends : EndsNumber rest) : readExponent (cs ++ rest) = some (exponent, rest) := by
  cases spelled with
  | absent =>
      cases rest with
      | nil => rfl
      | cons c rest =>
          obtain ⟨-, -, small, large⟩ := ends c rfl
          simp [readExponent, small, large]
  | present marked signed nonempty spelled =>
      have read (negative : Bool) := readExponentDigits_append negative nonempty spelled
        ends.endsDigits
      cases signed with
      | plus => simp [readExponent, marked, read]
      | minus => simp [readExponent, marked, read]
      | bare =>
          -- The first digit could be taken for a sign if it were one.
          cases spelled with
          | nil => exact absurd rfl nonempty
          | cons first others =>
              have noPlus := ne_of_digit first '+' (by decide)
              have noMinus := ne_of_digit first '-' (by decide)
              simp_all [readExponent]

theorem exponentSpelled_of_read (read : readExponent cs = some (exponent, rest)) :
    ∃ body, Numeral.ExponentSpelled exponent body ∧ cs = body ++ rest := by
  unfold readExponent at read
  split at read
  · cases read
    exact ⟨[], .absent, rfl⟩
  · next mark more =>
    split_ifs at read with marked
    · simp only [Bool.or_eq_true, decide_eq_true_eq] at marked
      have present {negative : Bool} {sign more : List Char}
          (signed : Numeral.SignSpelled negative sign)
          (read : readExponentDigits negative more = some (exponent, rest)) :
          ∃ body, Numeral.ExponentSpelled exponent body ∧
            mark :: (sign ++ more) = body ++ rest := by
        obtain ⟨digits, body, rfl, nonempty, spelled, rfl⟩ := digits_of_readExponentDigits read
        exact ⟨_, .present marked signed nonempty spelled, by simp⟩
      split at read
      · exact present .plus read
      · exact present .minus read
      · exact present .bare read
    · cases read
      exact ⟨[], .absent, rfl⟩

theorem endsDigits_of_fraction (places : Numeral.FractionSpelled digits cs)
    (ends : EndsDigits rest) : EndsDigits (cs ++ rest) := by
  cases places with
  | absent => exact ends
  | present nonempty spelled =>
      rintro c ⟨⟩
      decide

theorem ends_of_exponent (power : Numeral.ExponentSpelled exponent cs) (ends : EndsNumber rest) :
    ∀ c ∈ (cs ++ rest).head?, digitValue? c = none ∧ c ≠ '.' := by
  cases power with
  | absent => exact fun c mem => ⟨(ends c mem).1, (ends c mem).2.1⟩
  | present marked signed nonempty spelled =>
      rintro c ⟨⟩
      rcases marked with rfl | rfl <;> decide

theorem readUnsigned_eq_some {negative : Bool} {document : Document} :
    readUnsigned negative cs = some (document, rest) ↔
      ∃ whole others fraction power exponent, readDigits cs = (whole, others) ∧ whole ≠ [] ∧
        (whole.head? = some 0 → whole.length = 1) ∧ readFraction others = some (fraction, power) ∧
        readExponent power = some (exponent, rest) ∧
        document = numeral ⟨negative, whole, fraction, exponent⟩ := by
  unfold readUnsigned
  obtain ⟨whole, others⟩ := readDigits cs
  have admitted : (whole.isEmpty || (whole.head? = some 0 && 1 < whole.length)) = true ↔
      ¬(whole ≠ [] ∧ (whole.head? = some 0 → whole.length = 1)) := by
    cases whole with
    | nil => simp
    | cons digit digits => simp [Nat.pos_iff_ne_zero]
  dsimp only
  split_ifs with refused
  · refine ⟨nofun, ?_⟩
    rintro ⟨_, _, _, _, _, same, nonempty, leading, -⟩
    cases same
    exact (admitted.mp refused ⟨nonempty, leading⟩).elim
  · rw [admitted, not_not] at refused
    simp only [bind, Option.bind_eq_some_iff, Prod.exists, Prod.mk.injEq, pure, Option.some.injEq]
    constructor
    · rintro ⟨fraction, power, places, exponent, after, found, rfl, rfl⟩
      exact ⟨_, _, _, _, _, ⟨rfl, rfl⟩, refused.1, refused.2, places, found, rfl⟩
    · rintro ⟨_, _, fraction, power, exponent, ⟨rfl, rfl⟩, -, -, places, found, rfl⟩
      exact ⟨_, _, places, _, _, found, rfl, rfl⟩

theorem readNumeral_append {n : Numeral} (spelled : n.Spelled cs) (ends : EndsNumber rest) :
    readNumeral (cs ++ rest) = some (numeral n, rest) := by
  obtain ⟨negative, whole, fraction, exponent⟩ := n
  obtain ⟨nonempty, leading, units, places, power⟩ := spelled
  have afterPlaces := ends_of_exponent power ends
  have afterWhole := endsDigits_of_fraction places fun c mem => (afterPlaces c mem).1
  have read : readUnsigned negative _ = _ := readUnsigned_eq_some.mpr ⟨_, _, _, _, _,
    readDigits_append units afterWhole, nonempty, leading, readFraction_append places afterPlaces,
    readExponent_append power ends, rfl⟩
  simp only [List.append_assoc]
  cases negative with
  | true => exact read
  | false =>
      cases units with
      | nil => exact absurd rfl nonempty
      | cons first others =>
          have noMinus := ne_of_digit first '-' (by decide)
          unfold readNumeral
          split
          · simp_all
          · exact read

theorem numeralSpelled_of_read {document : Document}
    (read : readNumeral cs = some (document, rest)) :
    ∃ n body, document = numeral n ∧ n.Spelled body ∧ cs = body ++ rest := by
  have unsigned {negative : Bool} {more : List Char}
      (read : readUnsigned negative more = some (document, rest)) : ∃ n body,
      document = numeral n ∧ n.Spelled ((if negative then ['-'] else []) ++ body) ∧
        more = body ++ rest := by
    obtain ⟨whole, others, fraction, power, exponent, units, nonempty, leading, places, found,
      rfl⟩ := readUnsigned_eq_some.mp read
    obtain ⟨wholeChars, spelled, rfl⟩ := digits_of_readDigits units
    obtain ⟨fractionChars, spelledPlaces, rfl⟩ := fractionSpelled_of_read places
    obtain ⟨powerChars, spelledPower, rfl⟩ := exponentSpelled_of_read found
    exact ⟨_, _, rfl, .intro nonempty leading spelled spelledPlaces spelledPower, by simp⟩
  unfold readNumeral at read
  split at read
  · obtain ⟨n, body, rfl, spelled, rfl⟩ := unsigned read
    exact ⟨n, _, rfl, spelled, rfl⟩
  · obtain ⟨n, body, rfl, spelled, rfl⟩ := unsigned read
    exact ⟨n, _, rfl, spelled, rfl⟩

end Document

end FeedBridge
