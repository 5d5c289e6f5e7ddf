import FeedBridge.Json.Reader
import FeedBridge.Json.Writer
import FeedBridge.Proofs.Json.Scalars
import Mathlib.Data.Nat.Digits.Defs

namespace FeedBridge

def digitValues (cs : List Char) : List Nat := cs.map fun c => c.toNat - 48

theorem digits_digitValues {cs : List Char} (all : ∀ c ∈ cs, c.isDigit = true) :
    Digits (digitValues cs) cs := by
  refine List.forall₂_map_left_iff.mpr (List.forall₂_same.mpr fun c mem => ?_)
  have range := Char.isDigit_iff_toNat.mp (all c mem)
  exact if_pos range

theorem isDigit_decimalDigits {n : Nat} {c : Char} (mem : c ∈ decimalDigits n) : c.isDigit = true :=
  Nat.isDigit_of_mem_toDigits (by decide) (by decide) mem

theorem decimalDigits_ne_nil (n : Nat) : decimalDigits n ≠ [] := Nat.toDigits_ne_nil

theorem ofDigits_decimalDigits (n : Nat) : ofDigits (digitValues (decimalDigits n)) = n := by
  rw [ofDigits, digitValues, List.foldl_map]
  exact Nat.ofDigitChars_ten_toDigits

theorem head?_decimalDigits {n : Nat} (positive : n ≠ 0) : (decimalDigits n).head? ≠ some '0' := by
  induction n using Nat.strongRecOn with
  | ind n ih =>
      unfold decimalDigits
      by_cases small : n < 10
      · rw [Nat.toDigits_of_lt_base small]
        simpa using positive
      · have shorter := ih (n / 10) (by omega) (by omega)
        rw [Nat.toDigits_of_base_le (by decide) (by omega), List.head?_append]
        cases front : (Nat.toDigits 10 (n / 10)).head? with
        | none => exact absurd (List.head?_eq_none_iff.mp front) Nat.toDigits_ne_nil
        | some c => simpa [decimalDigits, front] using shorter

theorem tenTo_digitCount_le {n : Nat} (positive : n ≠ 0) : tenTo (digitCount n - 1) ≤ n := by
  by_cases one : digitCount n = 1
  · simpa [one, tenTo] using Nat.one_le_iff_ne_zero.mpr positive
  · have some : 0 < digitCount n := Nat.length_toDigits_pos
    by_contra less
    have fewer := (Nat.length_toDigits_le_iff (by decide) (by omega)).mpr (not_le.mp less)
    change digitCount n ≤ _ at fewer
    omega

namespace Numeral

def ofInt (n : Int) : Numeral := ⟨n < 0, digitValues (decimalDigits n.natAbs), [], none⟩

theorem spelled_of_digits {negative : Bool} {whole fraction power : List Char}
    {places : List Nat} {exponent : Option (Bool × List Nat)} (nonempty : whole ≠ [])
    (all : ∀ c ∈ whole, c.isDigit = true) (leading : whole.head? = some '0' → whole.length = 1)
    (point : FractionSpelled places fraction) (raised : ExponentSpelled exponent power) :
    Spelled ⟨negative, digitValues whole, places, exponent⟩
      ((if negative then ['-'] else []) ++ (whole ++ (fraction ++ power))) := by
  refine .intro (by simpa [digitValues] using nonempty) ?_ (digits_digitValues all) point raised
  cases whole with
  | nil => exact absurd rfl nonempty
  | cons c rest =>
      intro zero
      have value : c.toNat - 48 = 0 := by simpa [digitValues] using zero
      have range := Char.isDigit_iff_toNat.mp (all c (.head _))
      have first : c = '0' :=
        Char.toNat_inj.mp (Nat.le_antisymm (Nat.sub_eq_zero_iff_le.mp value) range.1)
      simpa [digitValues] using leading (by rw [first]; rfl)

theorem ofInt_spelled (n : Int) : (ofInt n).Spelled (Json.intChars n) := by
  have leading : (decimalDigits n.natAbs).head? = some '0' →
      (decimalDigits n.natAbs).length = 1 := by
    intro zero
    have none : n.natAbs = 0 := by
      by_contra positive
      exact head?_decimalDigits positive zero
    rw [none]
    rfl
  have spelled : (ofInt n).Spelled _ := spelled_of_digits (decimalDigits_ne_nil n.natAbs)
    (fun c => isDigit_decimalDigits) leading .absent .absent
  unfold Json.intChars
  split_ifs with negative <;> simpa [negative] using spelled

theorem toNumber?_ofInt {n : Int} (low : -(twoTo 63 : Int) ≤ n) (high : n < twoTo 64) :
    (ofInt n).toNumber? = some (.int n) := by
  have magnitude : ofDigits (ofInt n).whole = n.natAbs := ofDigits_decimalDigits _
  have plain : ¬(!(ofInt n).fraction.isEmpty || (ofInt n).exponent.isSome) = true := by simp [ofInt]
  unfold toNumber?
  rw [magnitude, if_neg plain]
  by_cases negative : n < 0
  · have sign : (ofInt n).negative = true := by simpa [ofInt] using negative
    have small : 0 < n.natAbs ∧ n.natAbs ≤ twoTo 63 := by omega
    simp [sign, small, abs_of_neg negative]
  · have sign : (ofInt n).negative = false := by simpa [ofInt] using negative
    have small : n.natAbs ≤ maxSignificand := by
      unfold maxSignificand
      omega
    simp [sign, small, abs_of_nonneg (not_lt.mp negative)]

end Numeral

namespace ShortDecimal

theorem digits_stripZeros_ne_zero {digits : Nat} {power : Int} (some : digits ≠ 0) :
    (stripZeros digits power).digits ≠ 0 := by
  fun_induction stripZeros digits power with
  | case1 digits power more ih => exact ih (by omega)
  | case2 => exact some

theorem stripZeros_zero (power : Int) : stripZeros 0 power = ⟨0, power⟩ := by
  rw [stripZeros, dif_neg (by simp)]

end ShortDecimal

namespace Binary64

theorem tenTo_decimalExponent_le {num den : Nat} (large : 1 ≤ decimalExponent num den) :
    tenTo (decimalExponent num den).toNat ≤ num / den := by
  by_cases whole : den ≤ num
  · have exponent : decimalExponent num den = digitCount (num / den) - 1 := if_pos whole
    have positive : num / den ≠ 0 := by
      intro zero
      rw [exponent, zero] at large
      exact absurd large (by decide)
    have places : ((digitCount (num / den) : Int) - 1).toNat = digitCount (num / den) - 1 := by
      omega
    rw [exponent, places]
    exact tenTo_digitCount_le positive
  · have some : 0 < digitCount (den / num) := Nat.length_toDigits_pos
    unfold decimalExponent at large
    rw [if_neg whole] at large
    dsimp only at large
    split_ifs at large <;> omega

theorem neighbour?_ne_zero {low value high den digits : Nat} {closed : Bool} {power : Int}
    (found : neighbour? low value high den closed power = some digits) (coarse : 0 ≤ power)
    (fits : tenTo power.toNat ≤ value / den) : digits ≠ 0 := by
  have positive : 0 < den := by
    by_contra none
    have zero : den = 0 := by omega
    have unit : 0 < tenTo power.toNat := Nat.pow_pos (by decide)
    simp [zero] at fits
    omega
  have below : 1 ≤ value * 1 / (den * tenTo power.toNat) := by
    rw [Nat.mul_one, ← Nat.div_div_eq_div_mul]
    exact (Nat.one_le_div_iff (Nat.pow_pos (by decide))).mpr fits
  unfold neighbour? at found
  simp only [if_pos coarse] at found
  split at found
  · cases found
    split_ifs <;> omega
  · cases found
    omega
  · cases found
    omega
  · cases found

theorem searchShortest_leading (low value high den : Nat) (closed : Bool) (fewer : Nat) :
    let short := searchShortest low value high den closed (decimalExponent value den) fewer
    short.digits ≠ 0 ∨ short.leading ≤ 0 := by
  induction fewer with
  | zero =>
      by_cases zero : value / den = 0
      · exact .inr (by simp [searchShortest, zero]; decide)
      · exact .inl zero
  | succ fewer ih =>
      unfold searchShortest
      dsimp only
      split
      · next digits found =>
        -- A neighbour is zero only on a grid coarser than the value, and then its one digit stands
        -- before the point.
        by_cases zero : digits = 0
        · right
          subst zero
          have one : digitCount 0 = 1 := rfl
          rw [ShortDecimal.stripZeros_zero, ShortDecimal.leading, one]
          by_contra large
          dsimp only at large
          have fits : tenTo (decimalExponent value den).toNat ≤ value / den :=
            tenTo_decimalExponent_le (by omega)
          refine neighbour?_ne_zero found (by omega) (le_trans ?_ fits) rfl
          exact Nat.pow_le_pow_right (by decide) (by omega)
        · exact .inl (ShortDecimal.digits_stripZeros_ne_zero zero)
      · exact ih

theorem shortest_leading (x : Binary64) : x.shortest.digits ≠ 0 ∨ x.shortest.leading ≤ 0 :=
  searchShortest_leading _ _ _ _ _ _

end Binary64

namespace Numeral

theorem isDigit_replicate {n : Nat} {c : Char} (mem : c ∈ List.replicate n '0') :
    c.isDigit = true := by
  rw [List.eq_of_mem_replicate mem]
  decide

def IsMagnitude (cs : List Char) : Prop :=
  ∀ negative : Bool, ∃ n : Numeral, n.Spelled ((if negative then ['-'] else []) ++ cs)

theorem isMagnitude_of_digits {whole fraction power : List Char} {places : List Nat}
    {exponent : Option (Bool × List Nat)} (nonempty : whole ≠ [])
    (all : ∀ c ∈ whole, c.isDigit = true) (leading : whole.head? = some '0' → whole.length = 1)
    (point : FractionSpelled places fraction) (raised : ExponentSpelled exponent power) :
    IsMagnitude (whole ++ (fraction ++ power)) :=
  fun _ => ⟨_, spelled_of_digits nonempty all leading point raised⟩

theorem fractionSpelled_of_digits {cs : List Char} (nonempty : cs ≠ [])
    (all : ∀ c ∈ cs, c.isDigit = true) : FractionSpelled (digitValues cs) ('.' :: cs) :=
  .present (by simpa [digitValues] using nonempty) (digits_digitValues all)

theorem isMagnitude_plainChars {digits : List Char} {leading : Int} (nonempty : digits ≠ [])
    (all : ∀ c ∈ digits, c.isDigit = true)
    (front : digits.head? = some '0' → digits.length = 1 ∧ leading ≤ 0) :
    IsMagnitude (Json.plainChars digits leading) := by
  have zero : ∀ c ∈ ['0'], c.isDigit = true := by simp
  unfold Json.plainChars
  split_ifs with whole
  · obtain ⟨places, point⟩ : ∃ places, FractionSpelled places
        ('.' :: if (digits.drop (leading.toNat + 1)).isEmpty then ['0']
          else digits.drop (leading.toNat + 1)) := by
      split_ifs with none
      · exact ⟨_, fractionSpelled_of_digits (by simp) zero⟩
      · exact ⟨_, fractionSpelled_of_digits (by simpa using none) fun c mem =>
          all c (List.mem_of_mem_drop mem)⟩
    have units : ∀ c ∈ digits.take (leading.toNat + 1) ++
        List.replicate (leading.toNat + 1 - digits.length) '0', c.isDigit = true := by
      intro c mem
      rcases List.mem_append.mp mem with digit | zero
      · exact all c (List.mem_of_mem_take digit)
      · exact isDigit_replicate zero
    have magnitude := isMagnitude_of_digits (by simp [nonempty]) units ?_ point .absent
    · simpa using magnitude
    · intro lead
      have first : digits.head? = some '0' := by
        simpa [List.head?_append, List.head?_take, nonempty] using lead
      obtain ⟨single, unit⟩ := front first
      have none : leading = 0 := by omega
      simp [single, none]
  · have places : ∀ c ∈ List.replicate (-leading - 1).toNat '0' ++ digits, c.isDigit = true := by
      intro c mem
      rcases List.mem_append.mp mem with zero | digit
      · exact isDigit_replicate zero
      · exact all c digit
    have magnitude := isMagnitude_of_digits (List.cons_ne_nil '0' []) zero (fun _ => rfl)
      (fractionSpelled_of_digits (by simp [nonempty]) places) .absent
    simpa using magnitude

theorem isMagnitude_scientificChars {digits : List Char} (leading : Int) (nonempty : digits ≠ [])
    (all : ∀ c ∈ digits, c.isDigit = true) : IsMagnitude (Json.scientificChars digits leading) := by
  obtain ⟨places, point⟩ : ∃ places, FractionSpelled places
      (if (digits.drop 1).isEmpty then [] else '.' :: digits.drop 1) := by
    split_ifs with none
    · exact ⟨_, .absent⟩
    · exact ⟨_, fractionSpelled_of_digits (by simpa using none) fun c mem =>
        all c (List.mem_of_mem_drop mem)⟩
  have power : ∃ exponent, ExponentSpelled exponent
      ('e' :: (if 0 ≤ leading then '+' else '-') :: decimalDigits leading.natAbs) := by
    have spelled := digits_digitValues fun c => isDigit_decimalDigits (n := leading.natAbs)
    have nonempty := decimalDigits_ne_nil leading.natAbs
    split_ifs
    · exact ⟨_, .present (.inl rfl) .plus (by simpa [digitValues] using nonempty) spelled⟩
    · exact ⟨_, .present (.inl rfl) .minus (by simpa [digitValues] using nonempty) spelled⟩
  obtain ⟨exponent, raised⟩ := power
  have first : ∀ c ∈ digits.take 1, c.isDigit = true :=
    fun c mem => all c (List.mem_of_mem_take mem)
  have single : (digits.take 1).length = 1 := by
    rw [List.length_take]
    exact Nat.min_eq_left (List.length_pos_of_ne_nil nonempty)
  have magnitude :=
    isMagnitude_of_digits (by simp [nonempty]) first (fun _ => single) point raised
  simpa [Json.scientificChars] using magnitude

theorem exists_isMagnitude (x : Binary64) :
    ∃ cs, IsMagnitude cs ∧ Json.floatChars x = (if x.negative then ['-'] else []) ++ cs := by
  have all : ∀ c ∈ decimalDigits x.shortest.digits, c.isDigit = true :=
    fun c => isDigit_decimalDigits
  have nonempty := decimalDigits_ne_nil x.shortest.digits
  have front : (decimalDigits x.shortest.digits).head? = some '0' →
      (decimalDigits x.shortest.digits).length = 1 ∧ x.shortest.leading ≤ 0 := by
    intro lead
    have zero : x.shortest.digits = 0 := by
      by_contra positive
      exact head?_decimalDigits positive lead
    exact ⟨by rw [zero]; rfl, x.shortest_leading.resolve_left (not_not.mpr zero)⟩
  unfold Json.floatChars
  by_cases none : x.mantissa = 0
  · have zero : IsMagnitude (['0'] ++ (['.', '0'] ++ [])) :=
      isMagnitude_of_digits (by simp) (by simp) (fun _ => rfl)
        (fractionSpelled_of_digits (by simp) (by simp)) .absent
    exact ⟨_, zero, by simp [none]⟩
  · by_cases plain : -5 ≤ x.shortest.leading ∧ x.shortest.leading < 16
    · exact ⟨_, isMagnitude_plainChars nonempty all front, by simp [none, plain]⟩
    · exact ⟨_, isMagnitude_scientificChars x.shortest.leading nonempty all, by simp [none, plain]⟩

theorem exists_spelled (n : Json.Number) : ∃ m : Numeral, m.Spelled n.chars := by
  cases n with
  | int n => exact ⟨_, ofInt_spelled n⟩
  | float x =>
      obtain ⟨cs, magnitude, same⟩ := exists_isMagnitude x
      rw [Json.Number.chars, same]
      exact magnitude x.negative

def ofNumber (n : Json.Number) : Numeral :=
  match Document.readNumeral n.chars with
  | some (.numeral m, _) => m
  | _ => ofInt 0

theorem ofNumber_eq {n : Json.Number} {m : Numeral} (spelled : m.Spelled n.chars) :
    ofNumber n = m := by
  have read : Document.readNumeral (n.chars ++ []) = _ := Document.readNumeral_append spelled nofun
  rw [List.append_nil] at read
  rw [ofNumber, read]

theorem ofNumber_spelled (n : Json.Number) : (ofNumber n).Spelled n.chars := by
  obtain ⟨m, spelled⟩ := exists_spelled n
  rwa [ofNumber_eq spelled]

theorem ofNumber_int (n : Int) : ofNumber (.int n) = ofInt n := ofNumber_eq (ofInt_spelled n)

end Numeral

end FeedBridge
