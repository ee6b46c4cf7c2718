import Unmask.Proofs.Walk
/-!
# Names that share a scope

The fields of one class share a scope, and so do the classes of one package. A symbol goes there by the name
that it was given before, or else by its own; after a walk it goes by its alias, if it got one.

The registry only looks at aliases, and they never repeat. So a scope of distinct names can lose that in one
way: an alias is the name of a symbol that stays. `nodup_scopes_iff` says so for both kinds of scopes, and
`names_clash` shows that it does happen.
-/

namespace Unmask

/-- The name by which the symbol goes before a walk. -/
def Symbol.nameInUse (s : Symbol) : String := s.given.getD s.name

/-- The fields of the class. -/
def ClassDecl.scope (c : ClassDecl) : List Symbol := c.fields.map (Symbol.field · c)

/-- The classes of the package of that qualified name. -/
def SymbolSet.scope (set : SymbolSet) (package : String) : List Symbol :=
  (set.classes.filter (·.packageName == package)).map Symbol.cls

/-! ## Aliases beside names that stay -/

namespace Naming

/-- The alias that the symbol was given. -/
def given? (ns : List Naming) (s : Symbol) : Option String :=
  (ns.find? (·.symbol == s)).map (·.chosen)

theorem mem_of_given? {ns : List Naming} {s : Symbol} {chosen : String} (h : given? ns s = some chosen) :
    ⟨s, chosen⟩ ∈ ns := by
  obtain ⟨n, hn, rfl⟩ := Option.map_eq_some_iff.1 h
  have hs : n.symbol = s := by simpa using List.find?_some hn
  subst hs
  exact List.mem_of_find?_eq_some hn

theorem given?_eq_none_iff {ns : List Naming} {s : Symbol} : given? ns s = none ↔ s ∉ ns.map (·.symbol) := by
  simp [given?]

/-- The name by which the symbol goes after these renames. -/
def nameAfter (ns : List Naming) (s : Symbol) : String := (given? ns s).getD s.nameInUse

theorem nameAfter_of_not_mem {ns : List Naming} {s : Symbol} (h : s ∉ ns.map (·.symbol)) :
    nameAfter ns s = s.nameInUse := by
  rw [nameAfter, given?_eq_none_iff.2 h]
  rfl

theorem mk_nameAfter_mem {ns : List Naming} {s : Symbol} (h : s ∈ ns.map (·.symbol)) :
    ⟨s, nameAfter ns s⟩ ∈ ns := by
  cases hg : given? ns s with
  | none => exact absurd h (given?_eq_none_iff.1 hg)
  | some chosen =>
    rw [nameAfter, hg]
    exact mem_of_given? hg

/-- One alias of a kind stems from one rename. -/
theorem eq_of_chosen_eq {k : Kind} {ns : List Naming} (h : (aliases k ns).Nodup) {a b : Naming} (ha : a ∈ ns)
    (hb : b ∈ ns) (hak : a.symbol.kind = k) (hbk : b.symbol.kind = k) (he : a.chosen = b.chosen) : a = b :=
  List.inj_on_of_nodup_map h (List.mem_filter.2 ⟨ha, by simp [hak]⟩) (List.mem_filter.2 ⟨hb, by simp [hbk]⟩) he

/-- Names that were distinct stay so exactly when no alias is the name of a symbol that stays. -/
theorem nodup_nameAfter_iff {k : Kind} {ns : List Naming} {scope : List Symbol}
    (halias : (aliases k ns).Nodup) (hkind : ∀ s ∈ scope, s.kind = k)
    (hbefore : (scope.map Symbol.nameInUse).Nodup) :
    (scope.map (nameAfter ns)).Nodup ↔
      ∀ s ∈ scope, ∀ t ∈ scope, s ∈ ns.map (·.symbol) → t ∉ ns.map (·.symbol) →
        nameAfter ns s ≠ t.nameInUse := by
  rw [List.nodup_map_iff_inj_on hbefore.of_map]
  constructor
  · intro hinj s hs t ht hgiven hstays he
    rw [← nameAfter_of_not_mem hstays] at he
    exact hstays (hinj s hs t ht he ▸ hgiven)
  · intro hclear s hs t ht he
    -- Two aliases differ by the registry, two names that stay by `hbefore`; the rest is `hclear`.
    by_cases hgs : s ∈ ns.map (·.symbol) <;> by_cases hgt : t ∈ ns.map (·.symbol)
    · have := eq_of_chosen_eq halias (mk_nameAfter_mem hgs) (mk_nameAfter_mem hgt) (hkind s hs) (hkind t ht) he
      exact congrArg Naming.symbol this
    · rw [nameAfter_of_not_mem hgt] at he
      exact absurd he (hclear s hs t ht hgs hgt)
    · rw [nameAfter_of_not_mem hgs] at he
      exact absurd he.symm (hclear t ht s hs hgt hgs)
    · rw [nameAfter_of_not_mem hgs, nameAfter_of_not_mem hgt] at he
      exact List.inj_on_of_nodup_map hbefore hs ht he

end Naming

/-! ## The scopes of a program -/

namespace Pass

/-- The name by which the symbol goes once the renames of the walk are made. -/
def nameAfter (p : Pass) (s : Symbol) : String := Naming.nameAfter p.namings s

/-- Whether no alias that the walk gives in the scope is the name of a symbol of the scope that stays. -/
def Spares (p : Pass) (scope : List Symbol) : Prop :=
  ∀ s ∈ scope, ∀ t ∈ scope, p.renames s = true → p.renames t = false → p.nameAfter s ≠ t.nameInUse

end Pass

theorem nodup_aliases_namings (set : SymbolSet) (m : Mode) (p : Profile) (k : Kind) :
    (Naming.aliases k (Pass.start set m p).value.namings).Nodup := by
  rcases Pass.start_cases set m p with ⟨-, hs⟩ | ⟨-, hs⟩
  · rw [hs]
    exact List.nodup_nil
  · rw [hs, Pass.namings_of_namer rfl]
    exact Namer.nodup_aliases_nameAll _ set (p.nodup_taken_freshNamer _ k) _

/-- A scope of the program with distinct names keeps them distinct exactly when the walk spares them. -/
theorem nodup_scope_iff (set : SymbolSet) (m : Mode) (p : Profile) {k : Kind} {scope : List Symbol}
    (hsub : scope ⊆ set.symbols) (hkind : ∀ s ∈ scope, s.kind = k)
    (hbefore : (scope.map Symbol.nameInUse).Nodup) :
    (scope.map (Pass.start set m p).value.nameAfter).Nodup ↔ (Pass.start set m p).value.Spares scope := by
  have hgiven : ∀ s ∈ scope, s ∈ (Pass.start set m p).value.namings.map (·.symbol) ↔
      (Pass.start set m p).value.renames s = true := by
    intro s hs
    rw [map_symbol_namings, List.mem_filter]
    exact and_iff_right (hsub hs)
  refine (Naming.nodup_nameAfter_iff (nodup_aliases_namings set m p k) hkind hbefore).trans ?_
  refine forall₂_congr fun s hs => forall₂_congr fun t ht => ?_
  rw [hgiven s hs, hgiven t ht, Bool.not_eq_true]
  rfl

theorem ClassDecl.scope_subset_symbols {set : SymbolSet} {c : ClassDecl} (hc : c ∈ set.classes) :
    c.scope ⊆ set.symbols := by
  intro s hs
  have : s ∈ set.fields := List.mem_flatMap.2 ⟨c, hc, hs⟩
  simp [SymbolSet.symbols, this]

theorem SymbolSet.scope_subset_symbols (set : SymbolSet) (package : String) :
    set.scope package ⊆ set.symbols := by
  intro s hs
  obtain ⟨c, hc, rfl⟩ := List.mem_map.1 hs
  simp [symbols, (List.mem_filter.1 hc).1]

/-- The renames of a plan, each with the symbol it stems from, are those of the symbols that the pass decides
to rename. Where the fields of a class, or the classes of a package, go by distinct names before, they do so
after the plan exactly when no alias given to one of them is the name of another that stays. -/
theorem nodup_scopes_iff (set : SymbolSet) (m : Mode) (p : Profile) :
    let pass := (Pass.start set m p).value
    (plan set m p).value.entries = pass.namings.map Naming.entry ∧
    pass.namings.map (·.symbol) = set.symbols.filter (fun s => (pass.decide s).value) ∧
    (∀ c ∈ set.classes, (c.scope.map Symbol.nameInUse).Nodup →
      ((c.scope.map pass.nameAfter).Nodup ↔ pass.Spares c.scope)) ∧
    ∀ package, ((set.scope package).map Symbol.nameInUse).Nodup →
      (((set.scope package).map pass.nameAfter).Nodup ↔ pass.Spares (set.scope package)) := by
  refine ⟨entries_plan set m p, map_symbol_namings set m p, fun c hc => ?_, fun package => ?_⟩
  · refine nodup_scope_iff set m p (ClassDecl.scope_subset_symbols hc) (k := .field) fun s hs => ?_
    obtain ⟨f, -, rfl⟩ := List.mem_map.1 hs
    rfl
  · refine nodup_scope_iff set m p (set.scope_subset_symbols package) (k := .cls) fun s hs => ?_
    obtain ⟨c, -, rfl⟩ := List.mem_map.1 hs
    rfl

/-- A class of which one field is to be renamed and one stays, beside another class. -/
def spacedProgram : SymbolSet := SymbolSet.build []
  [{ ClassDecl.ofName "com.example.a" with fields := [{ name := "b" }, { name := "total" }] },
    ClassDecl.ofName "com.example.Ledger"]

theorem nodup_scopes_iff_spaced :
    let pass := (Pass.start spacedProgram .balanced (Profile.preset .balanced)).value
    (∀ c ∈ spacedProgram.classes, (c.scope.map Symbol.nameInUse).Nodup ∧ (c.scope.map pass.nameAfter).Nodup) ∧
      ((spacedProgram.scope "com.example").map Symbol.nameInUse).Nodup ∧
      ((spacedProgram.scope "com.example").map pass.nameAfter).Nodup := by
  intro pass
  obtain ⟨-, -, hfields, hclasses⟩ := nodup_scopes_iff spacedProgram .balanced (Profile.preset .balanced)
  have hbefore : ∀ c ∈ spacedProgram.classes, (c.scope.map Symbol.nameInUse).Nodup := by decide +kernel
  have hbefore' : ((spacedProgram.scope "com.example").map Symbol.nameInUse).Nodup := by decide +kernel
  have hspares : ∀ c ∈ spacedProgram.classes, pass.Spares c.scope := by
    unfold Pass.Spares
    decide +kernel
  have hspares' : pass.Spares (spacedProgram.scope "com.example") := by
    unfold Pass.Spares
    decide +kernel
  exact ⟨fun c hc => ⟨hbefore c hc, (hfields c hc (hbefore c hc)).2 (hspares c hc)⟩, hbefore',
    (hclasses _ hbefore').2 hspares'⟩

/-- A class that is to be renamed, with a field that is and one that stays. -/
def shortClass : ClassDecl :=
  { ClassDecl.ofName "com.example.a" with fields := [{ name := "b" }, { name := "f0b" }] }

/-- The class beside one whose name is free for an alias. -/
def clashingProgram : SymbolSet := SymbolSet.build [] [shortClass, ClassDecl.ofName "com.example.C0000a"]

/-- An alias may be the name of a field or of a class that stays. -/
theorem names_clash :
    let pass := (Pass.start clashingProgram .balanced (Profile.preset .balanced)).value
    shortClass ∈ clashingProgram.classes ∧ (shortClass.scope.map Symbol.nameInUse).Nodup ∧
      ¬ (shortClass.scope.map pass.nameAfter).Nodup ∧
      ((clashingProgram.scope "com.example").map Symbol.nameInUse).Nodup ∧
      ¬ ((clashingProgram.scope "com.example").map pass.nameAfter).Nodup := by
  decide +kernel

end Unmask
