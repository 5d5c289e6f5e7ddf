namespace FeedBridge

/-- A register of 64 bits that wraps around, after a count that it follows has grown. -/
def raised (register : UInt64) (before after : Nat) : UInt64 :=
  register + UInt64.ofNat (after - before)

theorem toNat_raised {register : UInt64} {before after : Nat} (shown : register.toNat = before)
    (grown : before ≤ after) (fits : after < UInt64.size) :
    (raised register before after).toNat = after := by
  have added : (UInt64.ofNat (after - before)).toNat = after - before :=
    UInt64.toNat_ofNat_of_lt (by omega)
  have whole : before + (after - before) < UInt64.size := by omega
  rw [raised, UInt64.toNat_add, shown, added, Nat.mod_eq_of_lt whole]
  omega

variable {State Step : Type}

def tracked (step : State → Step → State) (count : State → Nat) (register : UInt64) (s : State) :
    List Step → UInt64
  | [] => register
  | action :: rest =>
    tracked step count (raised register (count s) (count (step s action))) (step s action) rest

variable {step : State → Step → State} {count : State → Nat} {Kept : State → Prop}
  {Allowed : Step → Prop} {s : State}

theorem count_le_foldl
    (grows : ∀ {s action}, Kept s → Allowed action →
      Kept (step s action) ∧ count s ≤ count (step s action))
    (kept : Kept s) {actions : List Step} (allowed : ∀ action ∈ actions, Allowed action) :
    Kept (actions.foldl step s) ∧ count s ≤ count (actions.foldl step s) := by
  induction actions generalizing s with
  | nil => exact ⟨kept, Nat.le_refl _⟩
  | cons action rest ih =>
      obtain ⟨first, later⟩ := List.forall_mem_cons.mp allowed
      obtain ⟨next, grown⟩ := grows kept first
      obtain ⟨last, more⟩ := ih next later
      exact ⟨last, Nat.le_trans grown more⟩

theorem toNat_tracked
    (grows : ∀ {s action}, Kept s → Allowed action →
      Kept (step s action) ∧ count s ≤ count (step s action))
    (kept : Kept s) {actions : List Step} (allowed : ∀ action ∈ actions, Allowed action)
    {register : UInt64} (shown : register.toNat = count s)
    (fits : count (actions.foldl step s) < UInt64.size) :
    (tracked step count register s actions).toNat = count (actions.foldl step s) := by
  induction actions generalizing s register with
  | nil => exact shown
  | cons action rest ih =>
      obtain ⟨first, later⟩ := List.forall_mem_cons.mp allowed
      obtain ⟨next, grown⟩ := grows kept first
      have small := Nat.lt_of_le_of_lt (count_le_foldl grows next later).2 fits
      exact ih next later (toNat_raised shown grown small) fits

theorem toNat_tracked_of_grows (grows : ∀ s action, count s ≤ count (step s action))
    {actions : List Step} {register : UInt64} (shown : register.toNat = count s)
    (fits : count (actions.foldl step s) < UInt64.size) :
    (tracked step count register s actions).toNat = count (actions.foldl step s) := by
  have always {s : State} {action : Step} (_ : True) (_ : True) :
      True ∧ count s ≤ count (step s action) := ⟨True.intro, grows s action⟩
  exact toNat_tracked always True.intro (fun _ _ => True.intro) shown fits

end FeedBridge
