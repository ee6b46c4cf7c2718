import Unmask.Kind
/-!
# Taken names

The first free name for a wish: the wish itself, or else the wish with the smallest number from two
on that makes it free (`freeName_eq_self`, `freeName_of_mem`). A registry keeps the names taken for each
kind, so every name it hands out is new for its kind (`register_not_mem`) and of no matter to the
others (`taken_register_of_ne`).
-/

namespace Unmask

/-! ## The smallest free number -/

/-- The smallest number from `n` on whose label is not taken, for labels that tell numbers apart.
A label met once cannot come again, so it is struck off. -/
def freeNumber (label : Nat → String) (taken : List String) (n : Nat) : Nat :=
  if label n ∈ taken then freeNumber label (taken.erase (label n)) (n + 1) else n
termination_by taken.length
decreasing_by
  rename_i h
  rw [List.length_erase_of_mem h]
  exact Nat.sub_lt (List.length_pos_of_mem h) Nat.one_pos

theorem le_freeNumber (label : Nat → String) (taken : List String) (n : Nat) :
    n ≤ freeNumber label taken n := by
  fun_induction freeNumber label taken n with
  | case1 taken n h ih => omega
  | case2 taken n h => exact Nat.le_refl n

theorem freeNumber_le (label : Nat → String) (taken : List String) (n : Nat) :
    freeNumber label taken n ≤ n + taken.length := by
  fun_induction freeNumber label taken n with
  | case1 taken n h ih =>
    rw [List.length_erase_of_mem h] at ih
    have := List.length_pos_of_mem h
    omega
  | case2 taken n h => exact Nat.le_add_right n _

theorem freeNumber_not_mem {label : Nat → String} (hl : ∀ m n, label m = label n → m = n)
    (taken : List String) (n : Nat) : label (freeNumber label taken n) ∉ taken := by
  fun_induction freeNumber label taken n with
  | case1 taken n h ih =>
    intro hm
    have hle := le_freeNumber label (taken.erase (label n)) (n + 1)
    have hne : label (freeNumber label (taken.erase (label n)) (n + 1)) ≠ label n := fun he => by
      have := hl _ _ he
      omega
    exact ih ((List.mem_erase_of_ne hne).2 hm)
  | case2 taken n h => exact h

theorem mem_of_lt_freeNumber (label : Nat → String) (taken : List String) (n : Nat) :
    ∀ m, n ≤ m → m < freeNumber label taken n → label m ∈ taken := by
  fun_induction freeNumber label taken n with
  | case1 taken n h ih =>
    intro m hle hlt
    by_cases he : m = n
    · exact he ▸ h
    · exact List.mem_of_mem_erase (ih m (by omega) hlt)
  | case2 taken n h =>
    intro m hle hlt
    omega

/-- A wish with a number. -/
def numberedName (separator wish : String) (n : Nat) : String := wish ++ separator ++ toString n

theorem numberedName_injective (separator wish : String) (m n : Nat)
    (h : numberedName separator wish m = numberedName separator wish n) : m = n := by
  have hd : Nat.toDigits 10 m = Nat.toDigits 10 n := by
    have := congrArg String.toList ((String.append_right_inj _).1 h)
    simpa only [Nat.toString_eq_repr, Nat.toList_repr] using this
  simpa using congrArg (Nat.ofDigitChars 10 · 0) hd

/-- The wish if it is free, or else the wish with the separator and the smallest free number. -/
def freeName (separator wish : String) (taken : List String) : String :=
  if wish ∈ taken then
    numberedName separator wish (freeNumber (numberedName separator wish) taken 2)
  else wish

theorem freeName_eq_self {separator wish : String} {taken : List String} (h : wish ∉ taken) :
    freeName separator wish taken = wish := if_neg h

/-- A taken wish gets the smallest number from two on that makes it free. -/
theorem freeName_of_mem (separator : String) {wish : String} {taken : List String} (h : wish ∈ taken) :
    ∃ n, 2 ≤ n ∧ freeName separator wish taken = numberedName separator wish n ∧
      numberedName separator wish n ∉ taken ∧
      ∀ m, 2 ≤ m → m < n → numberedName separator wish m ∈ taken :=
  ⟨_, le_freeNumber _ taken 2, if_pos h,
    freeNumber_not_mem (numberedName_injective separator wish) taken 2,
    mem_of_lt_freeNumber _ taken 2⟩

theorem freeName_not_mem (separator wish : String) (taken : List String) :
    freeName separator wish taken ∉ taken := by
  by_cases h : wish ∈ taken
  · obtain ⟨n, -, he, hn, -⟩ := freeName_of_mem separator h
    exact he ▸ hn
  · rw [freeName_eq_self h]
    exact h

/-! ## Registries -/

/-- The names taken so far for each kind, the latest first. -/
structure Registry where
  /-- What stands between a wish and the number that tells it apart. -/
  separator : String := "_"
  taken : PerKind (List String) := PerKind.replicate []

namespace Registry

/-- Takes the first free name for a wish. -/
def register (r : Registry) (k : Kind) (wish : String) : String × Registry :=
  let name := freeName r.separator wish (r.taken.get k)
  (name, { r with taken := r.taken.set k (name :: r.taken.get k) })

/-- How many names of a kind are taken. -/
def count (r : Registry) (k : Kind) : Nat := (r.taken.get k).length

theorem register_not_mem (r : Registry) (k : Kind) (wish : String) :
    (r.register k wish).1 ∉ r.taken.get k := freeName_not_mem _ _ _

@[simp] theorem taken_register_self (r : Registry) (k : Kind) (wish : String) :
    (r.register k wish).2.taken.get k = (r.register k wish).1 :: r.taken.get k := by
  simp [register]

theorem taken_register_of_ne (r : Registry) {k l : Kind} (wish : String) (h : l ≠ k) :
    (r.register k wish).2.taken.get l = r.taken.get l := PerKind.get_set_of_ne _ _ h

@[simp] theorem separator_register (r : Registry) (k : Kind) (wish : String) :
    (r.register k wish).2.separator = r.separator := rfl

end Registry

end Unmask
