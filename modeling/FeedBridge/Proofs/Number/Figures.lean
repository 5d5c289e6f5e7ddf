import FeedBridge.Number.DecimalReader
import FeedBridge.Proofs.Json.Grammar
import FeedBridge.Proofs.Text.Words

namespace FeedBridge

theorem mapM_eq_some_iff {α β : Type} {f : α → Option β} {xs : List α} {ys : List β} :
    xs.mapM f = some ys ↔ List.Forall₂ (fun y x => f x = some y) ys xs := by
  induction xs generalizing ys with
  | nil => simp [eq_comm]
  | cons x xs ih =>
      simp only [List.mapM_cons, Option.bind_eq_bind, Option.bind_eq_some_iff, ih,
        List.forall₂_cons_right_iff, Option.pure_def, Option.some.injEq]
      exact ⟨fun ⟨y, first, others, rest, whole⟩ => ⟨y, others, first, rest, whole.symm⟩,
        fun ⟨y, others, first, rest, whole⟩ => ⟨y, first, others, rest, whole.symm⟩⟩

theorem natOfDigits?_eq_some_iff {cs : List Char} {n : Nat} :
    natOfDigits? cs = some n ↔ cs ≠ [] ∧ ∃ digits, Digits digits cs ∧ ofDigits digits = n := by
  unfold natOfDigits?
  split_ifs with empty
  · simp [List.isEmpty_iff.mp empty]
  · have nonempty : cs ≠ [] := by simpa using empty
    simp [nonempty, Digits, mapM_eq_some_iff]

theorem isBlank_of_digit {c : Char} {digit : Nat} (value : digitValue? c = some digit) :
    Text.isBlank c = false := by
  unfold digitValue? at value
  split_ifs at value with range
  obtain ⟨low, high⟩ : 48 ≤ c.toNat ∧ c.toNat ≤ 57 := range
  simp only [Text.isBlank, Bool.or_eq_false_iff, Bool.and_eq_false_iff, decide_eq_false_iff_not]
  omega

def IsFigure (c : Char) : Prop :=
  (∃ digit, digitValue? c = some digit) ∨ c ∈ ['_', '.', '+', '-', 'e', 'E']

theorem isBlank_of_figure {c : Char} (figure : IsFigure c) : Text.isBlank c = false := by
  rcases figure with ⟨digit, value⟩ | mark
  · exact isBlank_of_digit value
  · simp only [List.mem_cons, List.not_mem_nil, or_false] at mark
    rcases mark with rfl | rfl | rfl | rfl | rfl | rfl <;> decide

def Figures (cs : List Char) : Prop := ∀ c ∈ cs, IsFigure c

theorem Figures.cons {c : Char} {cs : List Char} (first : IsFigure c) (others : Figures cs) :
    Figures (c :: cs) :=
  List.forall_mem_cons.mpr ⟨first, others⟩

theorem Figures.of_digits {cs : List Char} {n : Nat} (read : natOfDigits? cs = some n) :
    Figures cs := by
  obtain ⟨-, digits, spelled, -⟩ := natOfDigits?_eq_some_iff.mp read
  intro c member
  obtain ⟨place, inside, rfl⟩ := List.getElem_of_mem member
  exact .inl ⟨_, List.Forall₂.get spelled (spelled.length_eq ▸ inside) inside⟩

namespace Decimal

variable {cs : List Char} {d : Decimal}

theorem figures_of_tail (tail : isTail cs = true) : Figures cs := by
  intro c member
  have kind := List.all_eq_true.mp tail c member
  rcases Bool.or_eq_true_iff.mp kind with digit | mark
  · exact .inl (Option.isSome_iff_exists.mp digit)
  · exact .inr (by simp [of_decide_eq_true mark])

theorem figures_of_round {r : Reading} {first : Nat} (read : r.round? first cs = some d) :
    Figures cs := by
  unfold Reading.round? at read
  split_ifs at read with tail <;> exact figures_of_tail (by simpa using tail)

theorem figures_of_run {r : Reading} (read : r.run cs = some d) : Figures cs := by
  induction cs generalizing r with
  | nil => nofun
  | cons c rest ih =>
      unfold Reading.run at read
      cases kind : digitValue? c with
      | some digit =>
          refine .cons (.inl ⟨digit, kind⟩) ?_
          simp only [kind] at read
          split_ifs at read
          · exact figures_of_round read
          · exact figures_of_round read
          · exact ih read
      | none =>
          simp only [kind] at read
          split_ifs at read with point pointed mark full
          · exact .cons (.inr (by simp [point])) (ih read)
          · have underscore : c = '_' := by simp_all
            exact .cons (.inr (by simp [underscore])) (figures_of_round read)
          · have underscore : c = '_' := by simp_all
            exact .cons (.inr (by simp [underscore])) (ih read)

theorem figures_of_plain (read : ofPlain? cs = some d) : Figures cs := by
  unfold ofPlain? at read
  split at read
  · exact .cons (.inr (by decide)) (figures_of_run read)
  · exact .cons (.inr (by decide)) (figures_of_run read)
  · exact figures_of_run read

theorem figures_of_exponent {n : Nat} (read : exponent? cs = some n) : Figures cs := by
  obtain ⟨m, digits, -⟩ := Option.bind_eq_some_iff.mp read
  split at digits
  · exact .cons (.inr (by decide)) (.of_digits digits)
  · exact .of_digits digits

theorem splitExponent?_eq_some {base exponent : List Char}
    (split : splitExponent? cs = some (base, exponent)) :
    ∃ mark, (mark = 'e' ∨ mark = 'E') ∧ cs = base ++ mark :: exponent := by
  induction cs generalizing base with
  | nil => cases split
  | cons c rest ih =>
      unfold splitExponent? at split
      split_ifs at split with mark
      · cases split
        exact ⟨c, by simpa using mark, rfl⟩
      · obtain ⟨⟨front, back⟩, later, same⟩ := Option.map_eq_some_iff.mp split
        cases same
        obtain ⟨mark, known, rfl⟩ := ih later
        exact ⟨mark, known, rfl⟩

theorem figures_of_exponentForm (read : ofExponentForm? cs = some d) : Figures cs := by
  obtain ⟨⟨base, exponent⟩, split, found⟩ := Option.bind_eq_some_iff.mp read
  obtain ⟨plain, based, found⟩ := Option.bind_eq_some_iff.mp found
  obtain ⟨mark, known, whole⟩ := splitExponent?_eq_some split
  rw [whole]
  refine List.forall_mem_append.mpr ⟨figures_of_plain based, Figures.cons (.inr ?_) ?_⟩
  · rcases known with rfl | rfl <;> decide
  · split at found
    · obtain ⟨n, digits, -⟩ := Option.bind_eq_some_iff.mp found
      exact .cons (.inr (by decide)) (figures_of_exponent digits)
    · obtain ⟨n, digits, -⟩ := Option.bind_eq_some_iff.mp found
      exact figures_of_exponent digits

theorem ofText?_eq_none_iff {word : String} :
    ofText? word = none ↔ ofPlain? word.toList = none ∧ ofExponentForm? word.toList = none := by
  unfold ofText?
  cases ofPlain? word.toList <;> simp

theorem solid_of_ofText? {word : String} (read : ofText? word = some d) :
    Text.Solid word.toList := by
  have figures : Figures word.toList := by
    unfold ofText? at read
    split at read
    next plain => exact figures_of_plain plain
    next => exact figures_of_exponentForm read
  refine ⟨fun empty => ?_, fun c member => isBlank_of_figure (figures c member)⟩
  rw [ofText?, empty] at read
  cases read

end Decimal

end FeedBridge
