import FeedBridge.Proofs.Trading.Discipline
import Mathlib.Data.Rat.Floor

namespace FeedBridge.Trading.Token

/-- The age of a token in whole seconds, zero before it was granted, as large as it comes. -/
def age (token : Token) (now : Instant) : Int :=
  max 0 ⌊((now - token.grantedAt : Int) : ℚ) / 10 ^ 9⌋

variable (token : Token) (now : Instant)

theorem age_eq : token.age now = ((now - token.grantedAt).toNat / tenTo 9 : Nat) := by
  have whole :
      ⌊((now - token.grantedAt : Int) : ℚ) / 10 ^ 9⌋ = (now - token.grantedAt) / 10 ^ 9 := by
    have floored := Rat.floor_intCast_div_natCast (now - token.grantedAt) (10 ^ 9)
    exact_mod_cast floored
  have second : tenTo 9 = 1000000000 := rfl
  rw [age, whole, second]
  omega

theorem age_nonneg : 0 ≤ token.age now := le_max_left _ _

theorem secondsSince_eq :
    secondsSince token.grantedAt now = min (token.age now) (twoTo 63 - 1 : Nat) := by
  rw [secondsSince, age_eq]

theorem exceeds_secondsSince_iff {seconds : Int} (fits : seconds < (twoTo 63 - 1 : Nat)) :
    seconds < secondsSince token.grantedAt now ↔ seconds < token.age now := by
  rw [secondsSince_eq, lt_min_iff]
  exact ⟨fun both => both.1, fun exceeded => ⟨exceeded, fits⟩⟩

theorem maxAge_lt_iff {seconds : Int} (elapsed : 0 ≤ seconds) (lifetime : Int64) :
    maxAge lifetime < seconds ↔ lifetime.toInt - 60 < seconds := by
  have lowest : -(twoTo 63 : Int) < seconds := by
    have positive : (0 : Int) < twoTo 63 := by decide
    omega
  rw [maxAge, max_lt_iff]
  exact ⟨fun both => both.1, fun exceeded => ⟨exceeded, lowest⟩⟩

theorem maxAge_lt_limit (lifetime : Int64) : maxAge lifetime < (twoTo 63 - 1 : Nat) := by
  have bound := lifetime.toInt_lt
  have limit : twoTo 63 = 9223372036854775808 := by decide
  have margin : refreshMargin = 60 := rfl
  rw [maxAge, margin, limit]
  omega

theorem needsRefresh_iff :
    token.needsRefresh now = true ↔ token.lifetime.toInt - 60 < token.age now := by
  rw [needsRefresh, decide_eq_true_eq, exceeds_secondsSince_iff token now (maxAge_lt_limit _)]
  exact maxAge_lt_iff (token.age_nonneg now) token.lifetime

theorem needsRefresh_anti {shorter : Int64} (ordered : shorter ≤ token.lifetime)
    (due : token.needsRefresh now = true) :
    needsRefresh { token with lifetime := shorter } now = true := by
  have less : shorter.toInt ≤ token.lifetime.toInt := Int64.le_iff_toInt_le.mp ordered
  rw [needsRefresh_iff] at due ⊢
  have same : age { token with lifetime := shorter } now = token.age now := rfl
  rw [same]
  exact lt_of_le_of_lt (Int.sub_le_sub_right less 60) due

/-- Whatever the lifetime, the moment of the grant and the present: a token is due exactly if its
age exceeds its lifetime less a minute, both as large as they come, so that neither cutting off the
age nor cutting off the difference changes the answer, though both then fit 64 bits. A token that is
due stays due, and with a shorter lifetime it would be due as well. -/
theorem needsRefresh_exact :
    (token.needsRefresh now = true ↔ token.lifetime.toInt - 60 < token.age now) ∧
      (token.needsRefresh now = true ↔
        token.lifetime.toInt - 60 < secondsSince token.grantedAt now) ∧
      (token.needsRefresh now = true ↔ maxAge token.lifetime < token.age now) ∧
      fitsInt64 (secondsSince token.grantedAt now) = true ∧
      fitsInt64 (maxAge token.lifetime) = true ∧
      (∀ later, now ≤ later → token.needsRefresh now = true → token.needsRefresh later = true) ∧
      ∀ shorter ≤ token.lifetime, token.needsRefresh now = true →
        needsRefresh { token with lifetime := shorter } now = true := by
  have whole := token.needsRefresh_iff now
  have limit : (twoTo 63 : Int) = 9223372036854775808 := by decide
  have top : ((twoTo 63 - 1 : Nat) : Int) = 9223372036854775807 := by decide
  have below := token.lifetime.toInt_lt
  have aged := token.age_nonneg now
  refine ⟨whole, ?_, ?_, ?_, ?_, fun later => needsRefresh_mono,
    fun shorter => token.needsRefresh_anti now⟩
  · rw [whole, exceeds_secondsSince_iff]
    omega
  · rw [whole, maxAge_lt_iff aged]
  · rw [secondsSince_eq, top]
    simp only [fitsInt64, limit, Bool.and_eq_true, decide_eq_true_eq]
    omega
  · have bound := maxAge_lt_limit token.lifetime
    rw [top] at bound
    simp only [fitsInt64, limit, Bool.and_eq_true, decide_eq_true_eq]
    exact ⟨limit ▸ le_max_right _ _, by omega⟩

/-- A token of the shortest lifetime is due at its grant, and one of the longest is not due after
the longest age that is told apart from longer ones. -/
example : needsRefresh ⟨"a", -9223372036854775808, 0⟩ 0 = true ∧
    needsRefresh ⟨"a", 9223372036854775807, 0⟩ (9223372036854775747 * 10 ^ 9 + 999999999) = false ∧
    needsRefresh ⟨"a", 9223372036854775807, 0⟩ (9223372036854775748 * 10 ^ 9) = true := by
  decide

end FeedBridge.Trading.Token
