import Unmask.Pass
import Unmask.Proofs.Naming
/-!
# What a pass does on its walk

`rename_cases` sums up one step: the symbol is named and only the namer changes, or nothing happens. So a
walk names exactly the symbols that the rules pick, in order (`renameAll_of_namer`). `start_cases` sums up
the beginning: rules and namer are both there, or the mode renames nothing and both are missing.

`plan_filtered_walk` puts the two together: a plan is the program's list of symbols with those left out
that stay, and each counter is further by the entries of its kind.
-/

namespace Unmask

/-! ## The beginning -/

namespace Profile

variable (p : Profile) (m : Mode) (set : SymbolSet)

/-- The namer of a mode before its first symbol. -/
def freshNamer : Namer where
  style := p.style m
  maxLength := p.settings.maxLength
  counters := p.settings.initialIndex
  registry := { separator := p.settings.separator }

theorem nodup_taken_freshNamer (k : Kind) : ((p.freshNamer m).registry.taken.get k).Nodup := by
  cases k <;> exact List.nodup_nil

theorem value_resolve :
    (p.resolve m set).value = if m = .auto then (p.survey set).value.recommended else m := by
  unfold resolve
  split
  · cases h : (p.survey set).value.tool <;> simp [h]
  · rfl

theorem recommended_ne_auto (s : Survey) : s.recommended ≠ .auto := by
  unfold Survey.recommended
  split_ifs <;> simp

theorem resolve_ne_auto : (p.resolve m set).value ≠ .auto := by
  rw [value_resolve]
  split
  · exact recommended_ne_auto _
  · assumption

end Profile

namespace Pass

/-- Whether the pass renames the symbol. -/
def renames (p : Pass) (s : Symbol) : Bool := (p.decide s).value

/-- A pass begins with rules and a fresh namer, or in the mode that renames nothing and with neither. -/
theorem start_cases (set : SymbolSet) (m : Mode) (p : Profile) :
    let mode := (p.resolve m set).value
    (mode = .disabled ∧ (start set m p).value = ⟨set, .disabled, none, none⟩) ∨
    (mode ≠ .disabled ∧ (start set m p).value =
      ⟨set, mode, some ((p.rules mode).prepare set), some (p.freshNamer mode)⟩) := by
  have hauto := p.resolve_ne_auto m set
  have hstart : (start set m p).value = ⟨set, (p.resolve m set).value,
      (p.rules? (p.resolve m set).value).map (Rules.prepare set), p.namer? (p.resolve m set).value⟩ := rfl
  rw [hstart]
  generalize (p.resolve m set).value = mode at hauto
  cases mode with
  | disabled => exact .inl ⟨rfl, rfl⟩
  | auto => exact absurd rfl hauto
  | conservative | balanced | enhanced | aggressive => exact .inr ⟨nofun, rfl⟩

/-! ## One step -/

/-- A step names a symbol that the rules pick, and else does nothing. -/
theorem rename_cases (p : Pass) (s : Symbol) :
    (p.renames s = true ∧ ∃ namer, p.namer = some namer ∧ (p.rename s).value =
      (some (namer.name p.set s).value.1, { p with namer := some (namer.name p.set s).value.2 })) ∨
    ((p.renames s = false ∨ p.namer = none) ∧ (p.rename s).value = (none, p)) := by
  unfold renames
  cases hd : (p.decide s).value with
  | false => exact .inr ⟨.inl rfl, by simp [rename, hd]⟩
  | true =>
    cases hn : p.namer with
    | none => exact .inr ⟨.inr rfl, by simp [rename, hn]⟩
    | some namer => exact .inl ⟨rfl, namer, rfl, by simp [rename, hd, hn]⟩

/-! ## The walk -/

theorem renameAll_cons (p : Pass) (s : Symbol) (rest : List Symbol) :
    (p.renameAll (s :: rest)).value =
      ((p.rename s).value.1.toList.map (Entry.ofSymbol s) ++ ((p.rename s).value.2.renameAll rest).value.1,
        ((p.rename s).value.2.renameAll rest).value.2) := rfl

/-- A walk names the symbols that the rules pick, in order. -/
theorem renameAll_of_namer {p : Pass} {namer : Namer} (h : p.namer = some namer) (ss : List Symbol) :
    (p.renameAll ss).value =
      ((namer.nameAll p.set (ss.filter p.renames)).1.map Naming.entry,
        { p with namer := some (namer.nameAll p.set (ss.filter p.renames)).2 }) := by
  -- A step changes the namer alone, so what the rules pick stays the same along the walk.
  induction ss generalizing p namer with
  | nil =>
    obtain ⟨set, mode, rules, _⟩ := p
    subst h
    rfl
  | cons s rest ih =>
    rw [renameAll_cons]
    rcases p.rename_cases s with ⟨hr, n, hn, hv⟩ | ⟨hr, hv⟩
    · rw [h] at hn
      cases hn
      rw [hv, ih rfl, List.filter_cons_of_pos hr, Namer.nameAll_cons]
      rfl
    · have hr : ¬ p.renames s = true := by simpa [h] using hr
      rw [hv, ih h, List.filter_cons_of_neg hr]
      rfl

/-- A pass without a namer renames nothing. -/
theorem renameAll_of_no_namer {p : Pass} (h : p.namer = none) (ss : List Symbol) :
    (p.renameAll ss).value = ([], p) := by
  induction ss with
  | nil => rfl
  | cons s rest ih =>
    rcases p.rename_cases s with ⟨-, n, hn, -⟩ | ⟨-, hv⟩
    · simp [h] at hn
    · rw [renameAll_cons, hv, ih]
      rfl

/-- The renames of a whole walk, each with the symbol it stems from. -/
def namings (p : Pass) : List Naming :=
  match p.namer with
  | none => []
  | some namer => (namer.nameAll p.set (p.set.symbols.filter p.renames)).1

theorem namings_of_namer {p : Pass} {namer : Namer} (h : p.namer = some namer) :
    p.namings = (namer.nameAll p.set (p.set.symbols.filter p.renames)).1 := by
  rw [namings, h]

theorem value_run_of_namer {p : Pass} {namer : Namer} (h : p.namer = some namer) (hm : p.mode ≠ .disabled) :
    p.run.value = {
      mode := p.mode
      entries := p.namings.map Naming.entry
      index := (namer.nameAll p.set (p.set.symbols.filter p.renames)).2.counters } := by
  have he : p.mode.isEnabled = true := by simpa [Mode.isEnabled] using hm
  have hrun : p.run.value = {
      mode := p.mode
      entries := (p.renameAll (if p.mode.isEnabled then p.set.symbols else [])).value.1
      index := (p.renameAll (if p.mode.isEnabled then p.set.symbols else [])).value.2.index } := rfl
  rw [hrun, he, if_pos rfl, renameAll_of_namer h, namings_of_namer h]
  rfl

theorem value_run_of_no_namer {p : Pass} (h : p.namer = none) :
    p.run.value = { mode := p.mode, entries := [], index := Counters.zero } := by
  have hrun : p.run.value = {
      mode := p.mode
      entries := (p.renameAll (if p.mode.isEnabled then p.set.symbols else [])).value.1
      index := (p.renameAll (if p.mode.isEnabled then p.set.symbols else [])).value.2.index } := rfl
  rw [hrun, renameAll_of_no_namer h, index, h]

end Pass

/-! ## The plan -/

/-- What a plan tells of a symbol besides its alias. -/
def Symbol.origin (s : Symbol) : Kind × String × String := (s.kind, s.path, s.name)

/-- What a rename tells of its symbol besides the alias. -/
def Entry.origin (e : Entry) : Kind × String × String := (e.kind, e.path, e.former)

theorem Naming.map_origin_entry (ns : List Naming) :
    (ns.map Naming.entry).map Entry.origin = (ns.map (·.symbol)).map Symbol.origin := by
  simp only [List.map_map]
  rfl

theorem Naming.countP_entry (k : Kind) (ns : List Naming) :
    (ns.map Naming.entry).countP (·.kind == k) = (ns.map (·.symbol)).countP (·.kind == k) := by
  simp only [List.countP_map]
  rfl

theorem plan_value (set : SymbolSet) (m : Mode) (p : Profile) :
    (plan set m p).value = (Pass.start set m p).value.run.value := rfl

theorem planWith_of_valid (set : SymbolSet) (m : Mode) {s : Settings} (h : s.Valid) :
    planWith set m s = .ok (plan set m ⟨s, h⟩) := by
  have hp : Profile.ofSettings s = .ok ⟨s, h⟩ := by
    unfold Profile.ofSettings
    split
    · rfl
    · rename_i cause hc
      rw [h] at hc
      cases hc
  rw [planWith, hp]

theorem entries_plan (set : SymbolSet) (m : Mode) (p : Profile) :
    (plan set m p).value.entries = (Pass.start set m p).value.namings.map Naming.entry := by
  rw [plan_value]
  rcases Pass.start_cases set m p with ⟨-, hs⟩ | ⟨hd, hs⟩
  · rw [hs, Pass.value_run_of_no_namer rfl]
    rfl
  · rw [hs, Pass.value_run_of_namer rfl hd]

theorem index_plan (set : SymbolSet) (m : Mode) (p : Profile) (h : (p.resolve m set).value ≠ .disabled) :
    (plan set m p).value.index = ((p.freshNamer (p.resolve m set).value).nameAll set
      (set.symbols.filter (Pass.start set m p).value.renames)).2.counters := by
  rw [plan_value]
  rcases Pass.start_cases set m p with ⟨hd, -⟩ | ⟨hd, hs⟩
  · exact absurd hd h
  · rw [hs, Pass.value_run_of_namer rfl hd]

theorem renames_of_disabled {set : SymbolSet} {m : Mode} {p : Profile}
    (h : (p.resolve m set).value = .disabled) (s : Symbol) :
    (Pass.start set m p).value.renames s = false := by
  rcases Pass.start_cases set m p with ⟨-, hs⟩ | ⟨hd, -⟩
  · rw [hs]
    rfl
  · exact absurd h hd

/-- A walk renames the symbols that the pass decides to rename, in the order of the set. -/
theorem map_symbol_namings (set : SymbolSet) (m : Mode) (p : Profile) :
    (Pass.start set m p).value.namings.map (·.symbol) =
      set.symbols.filter (Pass.start set m p).value.renames := by
  rcases Pass.start_cases set m p with ⟨hd, hs⟩ | ⟨-, hs⟩
  · rw [List.filter_eq_nil_iff.2 fun s _ => by simp [renames_of_disabled hd], hs]
    rfl
  · rw [hs, Pass.namings_of_namer rfl, Namer.map_symbol_nameAll]

/-- Every alias of a walk is the free name for some wish for its symbol. -/
theorem chosen_namings (set : SymbolSet) (m : Mode) (p : Profile) :
    ∀ n ∈ (Pass.start set m p).value.namings, ∃ number taken, n.chosen =
      freeName p.settings.separator ((p.freshNamer (p.resolve m set).value).wish set n.symbol number) taken := by
  intro n hn
  rcases Pass.start_cases set m p with ⟨-, hs⟩ | ⟨-, hs⟩
  · rw [hs] at hn
    cases hn
  · rw [hs, Pass.namings_of_namer rfl] at hn
    exact Namer.chosen_nameAll _ _ _ n hn

/-- A plan is the filtered walk: its mode is the one meant, never `auto`; its renames are the symbols that
the pass decides to rename, each once and in the order of the set; and every counter is further by the
renames of its kind, as far as numbers go. A disabled pass renames nothing. -/
theorem plan_filtered_walk (set : SymbolSet) (m : Mode) (p : Profile) :
    let pass := (Pass.start set m p).value
    let plan := (plan set m p).value
    plan.mode = (p.resolve m set).value ∧ plan.mode ≠ .auto ∧
    plan.entries.map Entry.origin = (set.symbols.filter fun s => (pass.decide s).value).map Symbol.origin ∧
    (plan.mode ≠ .disabled → ∀ k,
      (plan.index.get k).toNat =
        min ((p.settings.initialIndex.get k).toNat + plan.count k) 4294967295) ∧
    (plan.mode = .disabled → plan.entries = [] ∧ ∀ s, (pass.decide s).value = false) := by
  intro pass plan
  refine ⟨rfl, p.resolve_ne_auto m set, ?_, fun hd k => ?_, fun hd => ?_⟩
  · rw [entries_plan, Naming.map_origin_entry, map_symbol_namings]
    rfl
  · rw [index_plan set m p hd, Namer.toNat_counters_nameAll, Plan.count, entries_plan, Naming.countP_entry,
      map_symbol_namings]
    rfl
  · have hnone : ∀ s, pass.renames s = false := renames_of_disabled hd
    refine ⟨?_, hnone⟩
    rw [entries_plan, List.map_eq_nil_iff, ← List.map_eq_nil_iff (f := (·.symbol)), map_symbol_namings]
    exact List.filter_eq_nil_iff.2 fun s _ => by simp [pass, hnone]

/-- A class with a field and two methods, in a package of its own. -/
def smallProgram : SymbolSet :=
  SymbolSet.build [PackageDecl.ofName "com"] [{ ClassDecl.ofName "com.ab.x" with
    fields := [{ name := "y", type := some .int }]
    methods := [{ name := "<init>" }, { name := "z" }] }]

theorem plan_filtered_walk_small :
    let p := Profile.preset .balanced
    let plan := (plan smallProgram .balanced p).value
    let dormant := (Unmask.plan smallProgram .disabled p).value
    (plan.mode ≠ .disabled ∧ ∀ k, (plan.index.get k).toNat =
      min ((p.settings.initialIndex.get k).toNat + plan.count k) 4294967295) ∧
    dormant.mode = .disabled ∧ dormant.entries = [] := by
  intro p plan dormant
  obtain ⟨hm, -, -, hindex, -⟩ := plan_filtered_walk smallProgram .balanced p
  obtain ⟨hd, -, -, -, hnone⟩ := plan_filtered_walk smallProgram .disabled p
  have hne : plan.mode ≠ .disabled := by rw [hm]; decide
  exact ⟨⟨hne, hindex hne⟩, hd, (hnone hd).1⟩

end Unmask
