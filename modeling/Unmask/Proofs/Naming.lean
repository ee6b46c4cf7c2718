import Mathlib.Data.List.Nodup
import Unmask.Alias.Namer
import Unmask.Plan
/-!
# Naming symbols one after the other

A namer does three things with a symbol: it registers its wish, takes the name that comes back, and moves
the counter of the symbol's kind (`registry_name`, `chosen_name`, `counters_name`). What it does with a list
of symbols follows by induction on the list:

- each counter moves once for every symbol of its kind, up to the largest number (`toNat_counters_nameAll`);
- the registry takes exactly the aliases that were given, each under its own kind (`taken_nameAll`), so the
  aliases of one kind never repeat (`nodup_aliases_nameAll`);
- every alias is the free name for what the namer wishes for its symbol (`chosen_nameAll`).
-/

namespace Unmask

/-- A symbol with the alias it was given. -/
structure Naming where
  symbol : Symbol
  chosen : String
  deriving DecidableEq

namespace Naming

/-- The naming as a plan shows it. -/
def entry (n : Naming) : Entry := Entry.ofSymbol n.symbol n.chosen

/-- The aliases given to symbols of a kind, in order. -/
def aliases (k : Kind) (ns : List Naming) : List String :=
  (ns.filter (·.symbol.kind == k)).map (·.chosen)

theorem aliases_append (k : Kind) (ns ms : List Naming) :
    aliases k (ns ++ ms) = aliases k ns ++ aliases k ms := by
  simp [aliases]

theorem aliases_cons_self (s : Symbol) (chosen : String) (ns : List Naming) :
    aliases s.kind (⟨s, chosen⟩ :: ns) = chosen :: aliases s.kind ns := by
  simp [aliases]

theorem aliases_cons_of_ne {k : Kind} {s : Symbol} (h : s.kind ≠ k) (chosen : String) (ns : List Naming) :
    aliases k (⟨s, chosen⟩ :: ns) = aliases k ns := by
  simp [aliases, h]

theorem aliases_entry (k : Kind) (ns : List Naming) :
    ((ns.map Naming.entry).filter (·.kind == k)).map (·.renamed) = Naming.aliases k ns := by
  rw [List.filter_map, List.map_map]
  rfl

end Naming

namespace Namer

/-- Names symbols one after the other. -/
def nameAll (r : Resolver) : Namer → List Symbol → List Naming × Namer
  | namer, [] => ([], namer)
  | namer, s :: rest =>
    let (chosen, after) := (namer.name r s).value
    let (namings, last) := nameAll r after rest
    (⟨s, chosen⟩ :: namings, last)

variable (namer : Namer) (r : Resolver)

/-! ## One symbol -/

/-- What the namer wishes for the symbol that comes next. -/
def nextWish (s : Symbol) : String := namer.wish r s (namer.counters.get s.kind)

theorem chosen_name (s : Symbol) :
    (namer.name r s).value.1 = (namer.registry.register s.kind (namer.nextWish r s)).1 := rfl

theorem registry_name (s : Symbol) :
    (namer.name r s).value.2.registry = (namer.registry.register s.kind (namer.nextWish r s)).2 := rfl

theorem counters_name (s : Symbol) :
    (namer.name r s).value.2.counters = (namer.counters.next s.kind).2 := rfl

theorem nameAll_cons (s : Symbol) (rest : List Symbol) :
    namer.nameAll r (s :: rest) =
      (⟨s, (namer.name r s).value.1⟩ :: ((namer.name r s).value.2.nameAll r rest).1,
        ((namer.name r s).value.2.nameAll r rest).2) := rfl

/-! ## What is named -/

@[simp] theorem map_symbol_nameAll (ss : List Symbol) :
    (namer.nameAll r ss).1.map (·.symbol) = ss := by
  induction ss generalizing namer with
  | nil => rfl
  | cons s rest ih => rw [nameAll_cons, List.map_cons, ih]

theorem nameAll_append (xs ys : List Symbol) :
    namer.nameAll r (xs ++ ys) =
      ((namer.nameAll r xs).1 ++ ((namer.nameAll r xs).2.nameAll r ys).1,
        ((namer.nameAll r xs).2.nameAll r ys).2) := by
  induction xs generalizing namer with
  | nil => rfl
  | cons s rest ih => rw [List.cons_append, nameAll_cons, nameAll_cons, ih, List.cons_append]

/-! ## What moves -/

theorem settings_nameAll (ss : List Symbol) :
    (namer.nameAll r ss).2.style = namer.style ∧ (namer.nameAll r ss).2.maxLength = namer.maxLength ∧
      (namer.nameAll r ss).2.registry.separator = namer.registry.separator := by
  induction ss generalizing namer with
  | nil => exact ⟨rfl, rfl, rfl⟩
  | cons s rest ih =>
    rw [nameAll_cons]
    exact ih (namer.name r s).value.2

/-- A counter moves once for every symbol of its kind, and stops at the largest number. -/
theorem toNat_counters_nameAll (ss : List Symbol) (k : Kind) :
    ((namer.nameAll r ss).2.counters.get k).toNat =
      min ((namer.counters.get k).toNat + ss.countP (·.kind == k)) 4294967295 := by
  induction ss generalizing namer with
  | nil =>
    have := (namer.counters.get k).toNat_lt
    simp only [nameAll, List.countP_nil]
    omega
  | cons s rest ih =>
    simp only [nameAll_cons]
    rw [ih, counters_name]
    by_cases h : s.kind = k
    · -- The counter may stop here or further on: both sides stop at the same number.
      subst h
      simp only [Counters.get_next_self, Counters.toNat_succ, List.countP_cons, beq_self_eq_true, if_true]
      omega
    · rw [Counters.get_next_of_ne _ (Ne.symm h), List.countP_cons_of_neg (by simpa using h)]

/-- The registry takes the aliases that were given, the latest first. -/
theorem taken_nameAll (ss : List Symbol) (k : Kind) :
    (namer.nameAll r ss).2.registry.taken.get k =
      (Naming.aliases k (namer.nameAll r ss).1).reverse ++ namer.registry.taken.get k := by
  induction ss generalizing namer with
  | nil => rfl
  | cons s rest ih =>
    simp only [nameAll_cons]
    rw [ih, registry_name]
    by_cases h : s.kind = k
    · subst h
      rw [Naming.aliases_cons_self, Registry.taken_register_self, List.reverse_cons, List.append_assoc,
        chosen_name]
      rfl
    · rw [Naming.aliases_cons_of_ne h, Registry.taken_register_of_ne _ _ (Ne.symm h)]

/-- A registry without repetitions stays so: a name is taken only while it is free. -/
theorem nodup_taken_nameAll {k : Kind} (h : (namer.registry.taken.get k).Nodup) (ss : List Symbol) :
    ((namer.nameAll r ss).2.registry.taken.get k).Nodup := by
  induction ss generalizing namer with
  | nil => exact h
  | cons s rest ih =>
    rw [nameAll_cons]
    apply ih
    rw [registry_name]
    -- Only the names of the symbol's own kind grow, and by one that was free.
    by_cases hk : s.kind = k
    · subst hk
      rw [Registry.taken_register_self]
      exact List.nodup_cons.2 ⟨Registry.register_not_mem _ _ _, h⟩
    · rw [Registry.taken_register_of_ne _ _ (Ne.symm hk)]
      exact h

/-- The aliases of one kind are pairwise distinct. -/
theorem nodup_aliases_nameAll {k : Kind} (h : (namer.registry.taken.get k).Nodup) (ss : List Symbol) :
    (Naming.aliases k (namer.nameAll r ss).1).Nodup := by
  have ht := nodup_taken_nameAll namer r h ss
  rw [taken_nameAll, List.nodup_append] at ht
  exact List.nodup_reverse.1 ht.1

/-- Every alias is the free name for some wish for its symbol. -/
theorem chosen_nameAll (ss : List Symbol) :
    ∀ n ∈ (namer.nameAll r ss).1, ∃ number taken,
      n.chosen = freeName namer.registry.separator (namer.wish r n.symbol number) taken := by
  induction ss generalizing namer with
  | nil => simp [nameAll]
  | cons s rest ih =>
    intro n hn
    rw [nameAll_cons] at hn
    rcases List.mem_cons.1 hn with rfl | hn
    · exact ⟨namer.counters.get s.kind, namer.registry.taken.get s.kind, rfl⟩
    · exact ih (namer.name r s).value.2 n hn

end Namer

end Unmask
