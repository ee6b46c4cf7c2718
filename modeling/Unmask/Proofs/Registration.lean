import Mathlib.Algebra.GroupWithZero.Nat
import Mathlib.Data.Finset.Card
import Mathlib.Data.List.Nodup
import Unmask.Alias.Registry
/-!
# Registering names

A registry that is asked for a taken name counts up from two until it meets a number that makes the name free. The
counter has 32 bits and nothing bounds the search but what is taken: numbers give different names, so among one more
number than there are taken names one is free (`freeNumber_le`). `finds_of_taken` follows the search turn by turn.

`registerAll` hands out names for one wish after another. What is taken for a kind then is what was handed out for it,
each name once (`taken_registerAll`, `nodup_taken_registerAll`), so that a call is known by the set of names that it
finds. `register_first_free` says what a call does with that set.
-/

namespace Unmask

/-! ## Counting up -/

/-- A turn of the search: it ends with the name of the number, or goes on with the next number. -/
def probe (separator wish : String) (emitted : Finset String) (n : UInt32) : String ⊕ UInt32 :=
  let name := numberedName separator wish n.toNat
  if name ∈ emitted then .inr (n + 1) else .inl name

/-- The search ends with a name after some turns, and the counter does not run over on the way. -/
inductive Finds (separator wish : String) (emitted : Finset String) : UInt32 → Nat → String → Prop
  | last {n : UInt32} {name : String} (h : probe separator wish emitted n = .inl name) :
      Finds separator wish emitted n 1 name
  | more {n next : UInt32} {turns : Nat} {name : String} (h : probe separator wish emitted n = .inr next)
      (hroom : n.toNat + 1 < 2 ^ 32) (hrest : Finds separator wish emitted next turns name) :
      Finds separator wish emitted n (turns + 1) name

theorem finds_of_taken {separator wish : String} {emitted : Finset String} {start stop : Nat} (hle : start ≤ stop)
    (hstop : stop < 2 ^ 32) (htaken : ∀ m, start ≤ m → m < stop → numberedName separator wish m ∈ emitted)
    (hfree : numberedName separator wish stop ∉ emitted) :
    Finds separator wish emitted (UInt32.ofNat start) (stop - start + 1) (numberedName separator wish stop) := by
  -- On the distance to the number that is free.
  induction hdistance : stop - start generalizing start with
  | zero =>
    obtain rfl : start = stop := by omega
    apply Finds.last
    simp only [probe, UInt32.toNat_ofNat_of_lt' hstop]
    exact if_neg hfree
  | succ distance ih =>
    have hstart : start < 2 ^ 32 := by omega
    have hnext : UInt32.ofNat start + 1 = UInt32.ofNat (start + 1) := by simp
    have hprobe : probe separator wish emitted (UInt32.ofNat start) = .inr (UInt32.ofNat (start + 1)) := by
      simp only [probe, UInt32.toNat_ofNat_of_lt' hstart, hnext]
      exact if_pos (htaken start (Nat.le_refl _) (by omega))
    apply Finds.more hprobe
    · rw [UInt32.toNat_ofNat_of_lt' hstart]
      omega
    · exact ih (by omega) (fun m hm => htaken m (by omega)) (by omega)

namespace Registry

/-! ## One wish after another -/

/-- The names taken for a kind, as a set. -/
def emitted (r : Registry) (k : Kind) : Finset String := (r.taken.get k).toFinset

/-- Registers wishes one after another. Gives the names back, each with its kind. -/
def registerAll : Registry → List (Kind × String) → List (Kind × String) × Registry
  | r, [] => ([], r)
  | r, (k, wish) :: rest =>
    let (name, after) := r.register k wish
    let (names, last) := registerAll after rest
    ((k, name) :: names, last)

/-- The names of a kind among names with their kinds. -/
def ofKind (k : Kind) (names : List (Kind × String)) : List String := (names.filter (·.1 = k)).map (·.2)

variable {r : Registry} {k : Kind}

theorem registerAll_cons (r : Registry) (k : Kind) (wish : String) (rest : List (Kind × String)) :
    r.registerAll ((k, wish) :: rest) =
      ((k, (r.register k wish).1) :: ((r.register k wish).2.registerAll rest).1,
        ((r.register k wish).2.registerAll rest).2) := rfl

theorem separator_registerAll (r : Registry) (calls : List (Kind × String)) :
    (r.registerAll calls).2.separator = r.separator := by
  induction calls generalizing r with
  | nil => rfl
  | cons call rest ih =>
    rw [registerAll_cons, ih]
    rfl

theorem map_fst_registerAll (r : Registry) (calls : List (Kind × String)) :
    (r.registerAll calls).1.map (·.1) = calls.map (·.1) := by
  induction calls generalizing r with
  | nil => rfl
  | cons call rest ih => rw [registerAll_cons, List.map_cons, List.map_cons, ih]

/-- What is taken is what was handed out, the latest first. -/
theorem taken_registerAll (r : Registry) (calls : List (Kind × String)) (k : Kind) :
    (r.registerAll calls).2.taken.get k = (ofKind k (r.registerAll calls).1).reverse ++ r.taken.get k := by
  induction calls generalizing r with
  | nil => rfl
  | cons call rest ih =>
    obtain ⟨l, wish⟩ := call
    rw [registerAll_cons, ih]
    by_cases h : l = k
    · subst h
      simp [ofKind]
    · rw [taken_register_of_ne r wish (Ne.symm h)]
      simp [ofKind, h]

theorem nodup_taken_register (h : (r.taken.get k).Nodup) (l : Kind) (wish : String) :
    ((r.register l wish).2.taken.get k).Nodup := by
  by_cases hl : k = l
  · subst hl
    rw [taken_register_self, List.nodup_cons]
    exact ⟨register_not_mem r k wish, h⟩
  · rwa [taken_register_of_ne r wish hl]

theorem nodup_taken_registerAll (h : (r.taken.get k).Nodup) (calls : List (Kind × String)) :
    ((r.registerAll calls).2.taken.get k).Nodup := by
  induction calls generalizing r with
  | nil => exact h
  | cons call rest ih => exact ih (nodup_taken_register h call.1 call.2)

theorem count_eq_card (h : (r.taken.get k).Nodup) : r.count k = (r.emitted k).card :=
  (List.toFinset_card_of_nodup h).symm

theorem length_ofKind_registerAll (r : Registry) (calls : List (Kind × String)) (k : Kind) :
    (ofKind k (r.registerAll calls).1).length = calls.countP (·.1 = k) := by
  have hkinds : ∀ names : List (Kind × String), names.countP (·.1 = k) = (names.map (·.1)).countP (· = k) := by
    intro names
    rw [List.countP_map]
    rfl
  rw [ofKind, List.length_map, ← List.countP_eq_length_filter, hkinds, map_fst_registerAll, ← hkinds]

/-! ## What a call does -/

/-- What a call for a wish gives back and leaves behind: the wish itself if it is free, or else the wish with the
smallest number from two on that makes it free, which counting up finds. The set of that kind gains the name, and
those of the others stay. -/
structure Hands (r : Registry) (k : Kind) (wish name : String) (after : Registry) : Prop where
  free : wish ∉ r.emitted k → name = wish
  numbered : wish ∈ r.emitted k → ∃ n, 2 ≤ n ∧ n < 2 ^ 32 ∧ name = wish ++ r.separator ++ toString n ∧
    (∀ m, 2 ≤ m → m < n → wish ++ r.separator ++ toString m ∈ r.emitted k) ∧
    Finds r.separator wish (r.emitted k) 2 (n - 1) name
  new : name ∉ r.emitted k
  gained : after.emitted k = insert name (r.emitted k)
  others : ∀ l, l ≠ k → after.emitted l = r.emitted l

theorem mem_emitted {name : String} : name ∈ r.emitted k ↔ name ∈ r.taken.get k := List.mem_toFinset

theorem hands_register (hroom : r.count k < 2 ^ 32 - 2) (wish : String) :
    Hands r k wish (r.register k wish).1 (r.register k wish).2 where
  free h := freeName_eq_self fun hmem => h (mem_emitted.2 hmem)
  numbered h := by
    have hlow := le_freeNumber (numberedName r.separator wish) (r.taken.get k) 2
    have hhigh := freeNumber_le (numberedName r.separator wish) (r.taken.get k) 2
    have htaken := mem_of_lt_freeNumber (numberedName r.separator wish) (r.taken.get k) 2
    have hfree := freeNumber_not_mem (numberedName_injective r.separator wish) (r.taken.get k) 2
    have hname : (r.register k wish).1 = numberedName r.separator wish _ := if_pos (mem_emitted.1 h)
    generalize freeNumber (numberedName r.separator wish) (r.taken.get k) 2 = n at *
    unfold count at hroom
    have hfinds := finds_of_taken hlow (by omega) (fun m hm hlt => mem_emitted.2 (htaken m hm hlt))
      (fun hmem => hfree (mem_emitted.1 hmem))
    have hturns : n - 2 + 1 = n - 1 := by omega
    rw [hturns, ← hname] at hfinds
    exact ⟨n, hlow, by omega, hname, fun m hm hlt => mem_emitted.2 (htaken m hm hlt), hfinds⟩
  new h := register_not_mem r k wish (mem_emitted.1 h)
  gained := by
    unfold emitted
    rw [taken_register_self, List.toFinset_cons]
  others l h := by
    unfold emitted
    rw [taken_register_of_ne r wish h]

/-- Whatever a registry was asked for before: a call for a kind gives back the first free name for its wish beside the
names that were handed out for that kind, and hands out that name and no other. Counting up ends before the counter does.
The registry has as many names of a kind as it was asked for. -/
theorem register_first_free (separator : String) (calls : List (Kind × String)) (k : Kind) (wish : String)
    (hroom : (({ separator } : Registry).registerAll calls).2.count k < 2 ^ 32 - 2) :
    let names := (({ separator } : Registry).registerAll calls).1
    let r := (({ separator } : Registry).registerAll calls).2
    r.separator = separator ∧
    (∀ l, r.emitted l = (ofKind l names).toFinset ∧ r.count l = (r.emitted l).card ∧
      r.count l = calls.countP (·.1 = l)) ∧
    Hands r k wish (r.register k wish).1 (r.register k wish).2 ∧
    (r.register k wish).2.count k = calls.countP (·.1 = k) + 1 := by
  intro names r
  have hempty : ∀ l, ({ separator } : Registry).taken.get l = [] := PerKind.get_replicate []
  have htaken : ∀ l, r.taken.get l = (ofKind l names).reverse := by
    intro l
    rw [taken_registerAll, hempty, List.append_nil]
  have hcount : ∀ l, r.count l = calls.countP (·.1 = l) := by
    intro l
    rw [count, htaken, List.length_reverse, length_ofKind_registerAll]
  refine ⟨separator_registerAll _ calls, fun l => ⟨?_, ?_, hcount l⟩, hands_register hroom wish, ?_⟩
  · rw [emitted, htaken, List.toFinset_reverse]
  · apply count_eq_card
    apply nodup_taken_registerAll
    rw [hempty]
    exact List.nodup_nil
  · rw [← hcount, count, taken_register_self, List.length_cons, count]

/-- Wishes of which one looks as if it had a number. -/
def clashing : List (Kind × String) := [(.field, "a"), (.field, "a2"), (.method, "a"), (.field, "a")]

theorem register_first_free_unseparated :
    let r := (({ separator := "" } : Registry).registerAll clashing).2
    r.count .field < 2 ^ 32 - 2 ∧ r.emitted .field = {"a", "a2", "a3"} ∧ (r.register .field "a").1 = "a4" ∧
      Hands r .field "a" "a4" (r.register .field "a").2 := by
  intro r
  have hroom : r.count .field < 2 ^ 32 - 2 := by decide +kernel
  have hname : (r.register .field "a").1 = "a4" := by decide +kernel
  obtain ⟨-, -, hhands, -⟩ := register_first_free "" clashing .field "a" hroom
  refine ⟨hroom, by decide +kernel, hname, ?_⟩
  rw [← hname]
  exact hhands

end Registry

end Unmask
