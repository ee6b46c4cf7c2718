import Unmask.Kind
/-!
# Counters

One running number for each kind of symbol. A counter that has reached the largest 32-bit number
stays there (`toNat_succ`).
-/

namespace Unmask

/-- The next number for each kind. -/
abbrev Counters := PerKind UInt32

namespace Counters

/-- All counters at their start. -/
def zero : Counters := PerKind.replicate 0

/-- The number after `n`, or `n` where there is none. -/
def succ (n : UInt32) : UInt32 := if n = 0xFFFFFFFF then n else n + 1

/-- Hands out the number of a kind and moves its counter on. -/
def next (c : Counters) (k : Kind) : UInt32 × Counters := (c.get k, c.set k (succ (c.get k)))

theorem toNat_succ (n : UInt32) : (succ n).toNat = min (n.toNat + 1) 4294967295 := by
  have hn := n.toNat_lt
  unfold succ
  split
  · rename_i h
    subst h
    rfl
  · rename_i h
    have : n.toNat ≠ 4294967295 := fun he => h (UInt32.toNat_inj.1 he)
    have hadd : (n + 1).toNat = (n.toNat + 1) % 4294967296 := UInt32.toNat_add n 1
    omega

@[simp] theorem next_fst (c : Counters) (k : Kind) : (c.next k).1 = c.get k := rfl

@[simp] theorem get_next_self (c : Counters) (k : Kind) : (c.next k).2.get k = succ (c.get k) :=
  PerKind.get_set_self _ _ _

theorem get_next_of_ne (c : Counters) {k l : Kind} (h : l ≠ k) : (c.next k).2.get l = c.get l :=
  PerKind.get_set_of_ne _ _ h

end Counters

end Unmask
