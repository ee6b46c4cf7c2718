import Unmask.Proofs.Resuming
/-!
# Naming with an interruption

Symbols can be named in one go, or some of them first and the others by a new namer that takes up the counters.
Both ways wish for the same names, since wishes depend on the counters alone. But the new namer has forgotten which
names are taken, so the two may part.

They agree exactly as long as the new namer gives out nothing that the first one did (`resumed_naming_iff`). One
direction is that aliases never repeat. The other is a simulation: `Remembers` relates a namer to one that has
forgotten some names, and a step keeps the relation as long as the name it gives is not a forgotten one. The reason
is that a search for a free name that ends outside of a larger list ends at the same place when it has to avoid that
list (`freeName_of_subset`).
-/

namespace Unmask

theorem freeName_of_subset {separator wish : String} {taken more : List String} (hsub : taken ⊆ more)
    (h : freeName separator wish taken ∉ more) : freeName separator wish more = freeName separator wish taken := by
  by_cases hw : wish ∈ taken
  · obtain ⟨n, hn, he, -, hbelow⟩ := freeName_of_mem separator hw
    obtain ⟨n', hn', he', hfree', hbelow'⟩ := freeName_of_mem separator (hsub hw)
    rw [he] at h
    -- Each of the two numbers is the smallest of its kind, so neither is below the other.
    have hle : ¬ n < n' := fun hlt => h (hbelow' n hn hlt)
    have hge : ¬ n' < n := fun hlt => hfree' (hsub (hbelow n' hn' hlt))
    rw [he, he', Nat.le_antisymm (Nat.not_lt.1 hge) (Nat.not_lt.1 hle)]
  · rw [freeName_eq_self hw] at h ⊢
    exact freeName_eq_self h

namespace Namer

/-- A namer before its first symbol. -/
def fresh (style : Style) (maxLength : Nat) (separator : String) (seed : Counters) : Namer where
  style := style
  maxLength := maxLength
  counters := seed
  registry := { separator }

/-- Both namers have the same settings and stand at the same numbers, but `namer` remembers names that `other` has
forgotten. -/
structure Remembers (namer other : Namer) (forgotten : Kind → List String) : Prop where
  style : namer.style = other.style
  maxLength : namer.maxLength = other.maxLength
  separator : namer.registry.separator = other.registry.separator
  counters : namer.counters = other.counters
  taken : ∀ k a, a ∈ namer.registry.taken.get k ↔ a ∈ other.registry.taken.get k ∨ a ∈ forgotten k

namespace Remembers

variable {namer other : Namer} {forgotten : Kind → List String} (r : Resolver)

theorem nextWish_eq (h : namer.Remembers other forgotten) (s : Symbol) :
    namer.nextWish r s = other.nextWish r s := by
  rw [nextWish, nextWish, wish, wish, h.style, h.maxLength, h.counters]

theorem chosen_eq (h : namer.Remembers other forgotten) {s : Symbol}
    (hnew : (other.name r s).value.1 ∉ forgotten s.kind) :
    (namer.name r s).value.1 = (other.name r s).value.1 := by
  rw [chosen_name] at hnew ⊢
  rw [chosen_name, h.nextWish_eq]
  unfold Registry.register at hnew ⊢
  rw [h.separator]
  refine freeName_of_subset (fun a ha => (h.taken s.kind a).2 (.inl ha)) fun hmem => ?_
  rcases (h.taken s.kind _).1 hmem with hmem | hmem
  · exact freeName_not_mem _ _ _ hmem
  · exact hnew hmem

/-- A step that gives the same name keeps the namers in step. -/
theorem name (h : namer.Remembers other forgotten) {s : Symbol}
    (hsame : (namer.name r s).value.1 = (other.name r s).value.1) :
    (namer.name r s).value.2.Remembers (other.name r s).value.2 forgotten where
  style := h.style
  maxLength := h.maxLength
  separator := h.separator
  counters := by rw [counters_name, counters_name, h.counters]
  taken k a := by
    rw [chosen_name, chosen_name] at hsame
    rw [registry_name, registry_name]
    by_cases hk : s.kind = k
    · subst hk
      rw [Registry.taken_register_self, Registry.taken_register_self, hsame, List.mem_cons, List.mem_cons, h.taken,
        or_assoc]
    · rw [Registry.taken_register_of_ne _ _ (Ne.symm hk), Registry.taken_register_of_ne _ _ (Ne.symm hk), h.taken]

/-- Namers in step give the same names as long as none of them is a forgotten one. -/
theorem nameAll_eq (h : namer.Remembers other forgotten) (ss : List Symbol)
    (hnew : ∀ k, ∀ a ∈ Naming.aliases k (other.nameAll r ss).1, a ∉ forgotten k) :
    (namer.nameAll r ss).1 = (other.nameAll r ss).1 := by
  induction ss generalizing namer other with
  | nil => rfl
  | cons s rest ih =>
    rw [nameAll_cons] at hnew
    have hfirst : (other.name r s).value.1 ∉ forgotten s.kind := by
      refine hnew s.kind _ ?_
      rw [Naming.aliases_cons_self]
      exact List.mem_cons_self
    have hsame := h.chosen_eq r hfirst
    have hrest := ih (h.name r hsame) fun k a ha => hnew k a ?_
    · rw [nameAll_cons, nameAll_cons, hsame, hrest]
    · by_cases hk : s.kind = k
      · subst hk
        rw [Naming.aliases_cons_self]
        exact List.mem_cons_of_mem _ ha
      · rwa [Naming.aliases_cons_of_ne hk]

end Remembers

variable (r : Resolver)

/-- Where the counters stand does not depend on the names that are taken. -/
theorem counters_nameAll_congr {namer other : Namer} (h : namer.counters = other.counters) (ss : List Symbol) :
    (namer.nameAll r ss).2.counters = (other.nameAll r ss).2.counters := by
  refine PerKind.ext_get fun k => UInt32.toNat_inj.1 ?_
  rw [toNat_counters_nameAll, toNat_counters_nameAll, h]

theorem remembers_fresh (style : Style) (maxLength : Nat) (separator : String) (seed : Counters) (xs : List Symbol) :
    let first := (fresh style maxLength separator seed).nameAll r xs
    first.2.Remembers (fresh style maxLength separator first.2.counters) fun k => Naming.aliases k first.1 := by
  intro first
  obtain ⟨hstyle, hlength, hseparator⟩ := settings_nameAll (fresh style maxLength separator seed) r xs
  refine ⟨hstyle, hlength, hseparator, rfl, fun k a => ?_⟩
  have hempty : ∀ counters, (fresh style maxLength separator counters).registry.taken.get k = [] := by
    intro counters
    simp [fresh]
  rw [taken_nameAll, hempty, hempty]
  simp [first]

end Namer

/-- A namer may name symbols in one go, or be replaced on the way by a new one with the same settings and the
counters of the first. The counters end at the same numbers. The symbols after the break get the same aliases
exactly when none of those that the new namer gives is one that the first gave to a symbol of the same kind. It does not
matter which resolver they ask. -/
theorem resumed_naming_iff (style : Style) (maxLength : Nat) (separator : String) (seed : Counters)
    (r : Resolver) (xs ys : List Symbol) :
    let first := (Namer.fresh style maxLength separator seed).nameAll r xs
    let continued := first.2.nameAll r ys
    let resumed := (Namer.fresh style maxLength separator first.2.counters).nameAll r ys
    continued.2.counters = resumed.2.counters ∧
    (continued.1 = resumed.1 ↔
      ∀ k, ∀ a ∈ Naming.aliases k resumed.1, a ∉ Naming.aliases k first.1) := by
  intro first continued resumed
  have hmemory := Namer.remembers_fresh r style maxLength separator seed xs
  refine ⟨Namer.counters_nameAll_congr r hmemory.counters ys, fun hsame k a ha hmem => ?_, hmemory.nameAll_eq r ys⟩
  -- What is named in one go never repeats, and after the break that is what the new namer gives.
  have hnodup := Namer.nodup_aliases_nameAll (Namer.fresh style maxLength separator seed) r (k := k)
    (by simp [Namer.fresh]) (xs ++ ys)
  rw [Namer.nameAll_append, Naming.aliases_append, List.nodup_append] at hnodup
  exact hnodup.2.2 a hmem a (hsame ▸ ha) rfl

-- A number and a hint run together, so a new namer can come to a name that was given before the break.
example :
    let field := fun name => Symbol.field { name } (ClassDecl.ofName "com.shop.Cart")
    let set : SymbolSet := {}
    let first := (Namer.fresh .plain 64 "_" ⟨0, 0, 1, 0⟩).nameAll set [field "0b"]
    let later := List.replicate 8 (field "c") ++ [field "b"]
    let resumed := (Namer.fresh .plain 64 "_" first.2.counters).nameAll set later
    Naming.aliases .field first.1 = ["f10b"] ∧
      (Naming.aliases .field (first.2.nameAll set later).1).getLast? = some "f10b_2" ∧
      (Naming.aliases .field resumed.1).getLast? = some "f10b" := by
  decide +kernel

end Unmask
