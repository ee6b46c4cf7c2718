import Unmask.Proofs.Interruption
/-!
# Kinds keep to themselves

A namer counts the symbols of each kind apart, and keeps their names apart. So what a kind is named does not tell
anything about the other kinds: neither where their counters began, nor which of their symbols were named, how often
and when.

`SameOn` relates namers that may differ in what they know of other kinds. A symbol of another kind leaves the relation
as it is (`SameOn.name_of_ne`). A symbol of the kind itself gets the same alias from both namers, which go on being
related (`SameOn.chosen_eq`, `SameOn.name`). Seen from one kind, naming a list is therefore the same as naming only
the symbols of that kind (`SameOn.nameAll_filter`), and two lists in which these are the same cannot be told apart
(`kinds_apart`).
-/

namespace Unmask

namespace Namer

/-- Both namers have the same settings and stand at the same point for one kind. -/
structure SameOn (k : Kind) (namer other : Namer) : Prop where
  style : namer.style = other.style
  maxLength : namer.maxLength = other.maxLength
  separator : namer.registry.separator = other.registry.separator
  counter : namer.counters.get k = other.counters.get k
  taken : namer.registry.taken.get k = other.registry.taken.get k

namespace SameOn

variable {k : Kind} {namer other : Namer} (r : Resolver)

theorem refl (k : Kind) (namer : Namer) : namer.SameOn k namer := ⟨rfl, rfl, rfl, rfl, rfl⟩

theorem fresh (style : Style) (maxLength : Nat) (separator : String) {seed seed' : Counters}
    (h : seed.get k = seed'.get k) :
    (Namer.fresh style maxLength separator seed).SameOn k (Namer.fresh style maxLength separator seed') where
  style := rfl
  maxLength := rfl
  separator := rfl
  counter := h
  taken := rfl

theorem name_of_ne (h : namer.SameOn k other) {s : Symbol} (hs : s.kind ≠ k) :
    (namer.name r s).value.2.SameOn k other where
  style := h.style
  maxLength := h.maxLength
  separator := h.separator
  counter := by
    rw [counters_name, Counters.get_next_of_ne _ hs.symm]
    exact h.counter
  taken := by
    rw [registry_name, Registry.taken_register_of_ne _ _ hs.symm]
    exact h.taken

theorem nextWish_eq (h : namer.SameOn k other) {s : Symbol} (hs : s.kind = k) :
    namer.nextWish r s = other.nextWish r s := by
  unfold nextWish wish
  rw [h.style, h.maxLength, hs, h.counter]

theorem chosen_eq (h : namer.SameOn k other) {s : Symbol} (hs : s.kind = k) :
    (namer.name r s).value.1 = (other.name r s).value.1 := by
  rw [chosen_name, chosen_name, h.nextWish_eq r hs]
  unfold Registry.register
  rw [h.separator, hs, h.taken]

theorem name (h : namer.SameOn k other) {s : Symbol} (hs : s.kind = k) :
    (namer.name r s).value.2.SameOn k (other.name r s).value.2 where
  style := h.style
  maxLength := h.maxLength
  separator := h.separator
  counter := by
    subst hs
    rw [counters_name, counters_name, Counters.get_next_self, Counters.get_next_self, h.counter]
  taken := by
    have hsame := h.chosen_eq r hs
    subst hs
    rw [chosen_name, chosen_name] at hsame
    rw [registry_name, registry_name, Registry.taken_register_self, Registry.taken_register_self, hsame, h.taken]

/-- For one kind it is as if the symbols of the other kinds were not there. -/
theorem nameAll_filter (h : namer.SameOn k other) (ss : List Symbol) :
    (namer.nameAll r ss).1.filter (·.symbol.kind == k) = (other.nameAll r (ss.filter (·.kind == k))).1 ∧
      (namer.nameAll r ss).2.SameOn k (other.nameAll r (ss.filter (·.kind == k))).2 := by
  -- Both namers move on at a symbol of the kind, and only the first at any other.
  induction ss generalizing namer other with
  | nil => exact ⟨rfl, h⟩
  | cons s rest ih =>
    by_cases hs : s.kind = k
    · obtain ⟨hnamings, hafter⟩ := ih (h.name r hs)
      rw [List.filter_cons_of_pos (by simpa using hs), nameAll_cons, nameAll_cons,
        List.filter_cons_of_pos (by simpa using hs), hnamings, h.chosen_eq r hs]
      exact ⟨rfl, hafter⟩
    · rw [List.filter_cons_of_neg (by simpa using hs), nameAll_cons, List.filter_cons_of_neg (by simpa using hs)]
      exact ih (h.name_of_ne r hs)

end SameOn

end Namer

/-- Two namers of the same settings, whose counters for one kind begin at the same number, name two lists of symbols in
which those of that kind are the same. Then they give these symbols the same aliases and end at the same number for
the kind, whatever the lists have of other kinds, wherever the other counters began, and whichever resolver both
ask. -/
theorem kinds_apart (style : Style) (maxLength : Nat) (separator : String) (r : Resolver) (k : Kind)
    (seed seed' : Counters) (hseed : seed.get k = seed'.get k) (ss ss' : List Symbol)
    (hsame : ss.filter (·.kind == k) = ss'.filter (·.kind == k)) :
    let one := (Namer.fresh style maxLength separator seed).nameAll r ss
    let other := (Namer.fresh style maxLength separator seed').nameAll r ss'
    one.1.filter (·.symbol.kind == k) = other.1.filter (·.symbol.kind == k) ∧
    Naming.aliases k one.1 = Naming.aliases k other.1 ∧
    one.2.counters.get k = other.2.counters.get k := by
  intro one other
  have hfresh := Namer.SameOn.fresh style maxLength separator hseed
  obtain ⟨hone, hafter⟩ := hfresh.nameAll_filter r ss
  obtain ⟨hother, hafter'⟩ := (Namer.SameOn.refl k (Namer.fresh style maxLength separator seed')).nameAll_filter r ss'
  rw [hsame] at hone hafter
  have hnamings : one.1.filter (·.symbol.kind == k) = other.1.filter (·.symbol.kind == k) := hone.trans hother.symm
  exact ⟨hnamings, by rw [Naming.aliases, Naming.aliases, hnamings], hafter.counter.trans hafter'.counter.symm⟩

/-- Two fields, with symbols of other kinds around them. -/
theorem kinds_apart_fields :
    let set : SymbolSet := {}
    let cart := ClassDecl.ofName "shop.Cart"
    let field := fun name => Symbol.field { name } cart
    let ss := [.cls cart, field "a", .method { name := "a" } cart, .cls cart, field "a"]
    let ss' := [field "a", .pkg (PackageDecl.ofName "shop"), field "a"]
    let one := (Namer.fresh (.descriptive {}) 64 "_" ⟨0, 9, 4, 4294967295⟩).nameAll set ss
    let other := (Namer.fresh (.descriptive {}) 64 "_" ⟨7, 0, 4, 0⟩).nameAll set ss'
    (⟨0, 9, 4, 4294967295⟩ : Counters).get .field = (⟨7, 0, 4, 0⟩ : Counters).get .field ∧
    ss.filter (·.kind == .field) = ss'.filter (·.kind == .field) ∧
    Naming.aliases .field one.1 = Naming.aliases .field other.1 ∧
    Naming.aliases .field other.1 = ["field4a", "field5a"] ∧
    one.2.counters.get .field = other.2.counters.get .field := by
  intro set cart field ss ss' one other
  have hseed : (⟨0, 9, 4, 4294967295⟩ : Counters).get .field = (⟨7, 0, 4, 0⟩ : Counters).get .field := rfl
  have hsame : ss.filter (·.kind == .field) = ss'.filter (·.kind == .field) := rfl
  obtain ⟨-, haliases, hcounter⟩ := kinds_apart (.descriptive {}) 64 "_" set .field _ _ hseed ss ss' hsame
  exact ⟨hseed, hsame, haliases, by decide +kernel, hcounter⟩

end Unmask
