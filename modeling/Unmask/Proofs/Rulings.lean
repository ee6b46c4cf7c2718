import Unmask.Proofs.Walk
/-!
# What rules decide together

The order of rules shows in the log alone. What they decide is that a symbol is renamed exactly when one of
them forces it and none forbids it (`value_decide_iff`). Each rule only ever does one of the two, so a list of
rules renames more than another if it has the rules that force in the other, and brings in none that forbids
(`decide_prepare_mono`).

The modes differ in just that way. `modes_by_eagerness` orders them: the enhanced mode renames what the
conservative one does, the aggressive mode what any other does, and the enhanced mode what the balanced one
does, less the names that say something to a programmer.
-/

namespace Unmask

/-! ## Each rule is of one sort -/

namespace Rule

/-- Whether the rule is of the sort that protects symbols; the others force renames. -/
def isProtective : Rule → Bool
  | base | whitelist _ | topLevelDomain | resourceClass | commonWords => true
  | collision _ | pattern _ | entropy _ | length _ _ => false

theorem isProtective_of_forbid {r : Rule} {s : Symbol} (h : r.verdict s = .forbid) :
    r.isProtective = true := by
  cases r with
  | base | whitelist _ | topLevelDomain | resourceClass | commonWords => rfl
  | collision _ | pattern _ | entropy _ | length _ _ => simp [verdict] at h

theorem isProtective_of_force {r : Rule} {s : Symbol} (h : r.verdict s = .force) :
    r.isProtective = false := by
  cases r with
  | base | whitelist _ | topLevelDomain | resourceClass | commonWords => simp [verdict] at h
  | collision _ | pattern _ | entropy _ | length _ _ => rfl

@[simp] theorem isProtective_prepare (set : SymbolSet) (r : Rule) :
    (r.prepare set).isProtective = r.isProtective := by
  cases r <;> rfl

theorem prepare_of_isProtective (set : SymbolSet) {r : Rule} (h : r.isProtective = true) :
    r.prepare set = r := by
  cases r with
  | collision _ => cases h
  | base | whitelist _ | topLevelDomain | resourceClass | commonWords | pattern _ | entropy _ | length _ _ => rfl

theorem verdict_prepare_eq_forbid_iff (set : SymbolSet) (r : Rule) (s : Symbol) :
    (r.prepare set).verdict s = .forbid ↔ r.verdict s = .forbid := by
  constructor
  · intro h
    have hp := isProtective_of_forbid h
    rw [isProtective_prepare] at hp
    rwa [prepare_of_isProtective set hp] at h
  · intro h
    rwa [prepare_of_isProtective set (isProtective_of_forbid h)]

end Rule

/-! ## All rules together -/

namespace Rules

theorem value_ask_iff (s : Symbol) (forced : Bool) (rules : Rules) :
    (ask s forced rules).value = true ↔
      (forced = true ∨ ∃ r ∈ rules, r.verdict s = .force) ∧ ∀ r ∈ rules, r.verdict s ≠ .forbid := by
  -- What the rules before have forced is carried along, so the induction is over every value of it.
  induction rules generalizing forced with
  | nil => simp [ask]
  | cons r rest ih =>
    rw [ask]
    cases hv : r.verdict s with
    | abstain => simp [ih, hv]
    | force => simp [ih, hv]
    | forbid => simp [hv]

/-- Rules rename a symbol exactly when some rule forces it and none forbids it. -/
theorem value_decide_iff (rules : Rules) (s : Symbol) :
    (rules.decide s).value = true ↔
      (∃ r ∈ rules, r.verdict s = .force) ∧ ∀ r ∈ rules, r.verdict s ≠ .forbid := by
  rw [decide, value_ask_iff]
  simp

theorem value_decide_prepare_of_forbid (set : SymbolSet) {rules : Rules} {r : Rule} {s : Symbol} (hr : r ∈ rules)
    (h : r.verdict s = .forbid) : ((rules.prepare set).decide s).value = false := by
  rw [← Bool.not_eq_true, value_decide_iff]
  rintro ⟨-, hnone⟩
  exact hnone _ (List.mem_map_of_mem hr) ((r.verdict_prepare_eq_forbid_iff set s).2 h)

/-- Rules that force no less and forbid no more rename no less. -/
theorem decide_prepare_mono (set : SymbolSet) {rules rules' : Rules} {s : Symbol}
    (hforce : ∀ r ∈ rules, r.isProtective = false → r ∈ rules')
    (hforbid : ∀ r ∈ rules', r.isProtective = true → r.verdict s = .forbid → r ∈ rules)
    (h : ((rules.prepare set).decide s).value = true) : ((rules'.prepare set).decide s).value = true := by
  rw [value_decide_iff] at h ⊢
  obtain ⟨⟨_, hmem, hf⟩, hnone⟩ := h
  -- What a rule is told about the program does not change its sort, nor what a rule that protects says.
  obtain ⟨r, hr, rfl⟩ := List.mem_map.1 hmem
  have hsort : r.isProtective = false := by simpa using Rule.isProtective_of_force hf
  refine ⟨⟨r.prepare set, List.mem_map_of_mem (hforce r hr hsort), hf⟩, ?_⟩
  rintro _ hmem' hv
  obtain ⟨q, hq, rfl⟩ := List.mem_map.1 hmem'
  have hv' := (q.verdict_prepare_eq_forbid_iff set s).1 hv
  exact hnone _ (List.mem_map_of_mem (hforbid q hq (Rule.isProtective_of_forbid hv') hv')) hv

end Rules

/-! ## Modes by eagerness -/

namespace Profile

variable (p : Profile) (set : SymbolSet) {s : Symbol}

/-- Whether the rules of a mode, once they know the program, rename the symbol. -/
def picks (m : Mode) (s : Symbol) : Bool := (((p.rules m).prepare set).decide s).value

theorem picks_enhanced_of_conservative (h : p.picks set .conservative s = true) :
    p.picks set .enhanced s = true :=
  Rules.decide_prepare_mono set (by simp [rules, Rule.isProtective]) (by simp [rules, Rule.isProtective]) h

theorem picks_aggressive_of_enhanced (h : p.picks set .enhanced s = true) :
    p.picks set .aggressive s = true :=
  Rules.decide_prepare_mono set (by simp [rules, Rule.isProtective]) (by simp [rules, Rule.isProtective]) h

theorem picks_aggressive_of_balanced (h : p.picks set .balanced s = true) :
    p.picks set .aggressive s = true :=
  Rules.decide_prepare_mono set (by simp [rules, Rule.isProtective]) (by simp [rules, Rule.isProtective]) h

-- The vocabulary is the one rule that protects in the enhanced mode and is missing in the balanced one.
theorem picks_enhanced_of_balanced (hw : Rule.commonWords.verdict s ≠ .forbid)
    (h : p.picks set .balanced s = true) : p.picks set .enhanced s = true :=
  Rules.decide_prepare_mono set (by simp [rules, Rule.isProtective]) (by simp [rules, Rule.isProtective, hw]) h

end Profile

theorem renames_start (set : SymbolSet) (m : Mode) (p : Profile) (s : Symbol) :
    (Pass.start set m p).value.renames s = p.picks set (p.resolve m set).value s := by
  rcases Pass.start_cases set m p with ⟨hd, hs⟩ | ⟨-, hs⟩
  · rw [hs, hd]
    rfl
  · rw [hs]
    rfl

/-- What a plan tells of its renames besides the aliases. -/
def Plan.origins (plan : Plan) : List (Kind × String × String) := plan.entries.map Entry.origin

theorem origins_plan (set : SymbolSet) {m : Mode} (p : Profile) (h : m ≠ .auto) :
    (plan set m p).value.origins = (set.symbols.filter (p.picks set m)).map Symbol.origin := by
  have hm : (p.resolve m set).value = m := by rw [p.value_resolve, if_neg h]
  rw [Plan.origins, entries_plan, Naming.map_origin_entry, map_symbol_namings]
  congr 1
  refine List.filter_congr fun s _ => ?_
  rw [renames_start, hm]

theorem sublist_origins_plan (set : SymbolSet) {m : Mode} (p : Profile) (h : m ≠ .auto) {picks : Symbol → Bool}
    (hmore : ∀ s, picks s = true → p.picks set m s = true) :
    ((set.symbols.filter picks).map Symbol.origin).Sublist (plan set m p).value.origins := by
  rw [origins_plan set p h]
  exact (List.monotone_filter_right _ hmore).map _

/-- Modes are ordered by eagerness, symbol by symbol and plan by plan: what the conservative mode renames the
enhanced mode does too, and so does the aggressive mode with what the enhanced or the balanced mode renames.
The enhanced mode renames what the balanced mode does, unless the name says something to a programmer. -/
theorem modes_by_eagerness (set : SymbolSet) (p : Profile) :
    let origins := fun m => (plan set m p).value.origins
    (∀ m, m ≠ .auto → origins m = (set.symbols.filter (p.picks set m)).map Symbol.origin) ∧
    ((∀ s, p.picks set .conservative s = true → p.picks set .enhanced s = true) ∧
      (origins .conservative).Sublist (origins .enhanced)) ∧
    ((∀ s, p.picks set .enhanced s = true → p.picks set .aggressive s = true) ∧
      (origins .enhanced).Sublist (origins .aggressive)) ∧
    ((∀ s, p.picks set .balanced s = true → p.picks set .aggressive s = true) ∧
      (origins .balanced).Sublist (origins .aggressive)) ∧
    (∀ s, p.picks set .balanced s = true → Rule.commonWords.verdict s ≠ .forbid →
      p.picks set .enhanced s = true) ∧
    ((set.symbols.filter fun s =>
      p.picks set .balanced s && Rule.commonWords.verdict s != .forbid).map Symbol.origin).Sublist
        (origins .enhanced) := by
  intro origins
  have horigins : ∀ m, m ≠ .auto → origins m = (set.symbols.filter (p.picks set m)).map Symbol.origin :=
    fun m hm => origins_plan set p hm
  refine ⟨horigins, ⟨?_, ?_⟩, ⟨?_, ?_⟩, ⟨?_, ?_⟩, ?_, ?_⟩
  · exact fun s => p.picks_enhanced_of_conservative set
  · rw [horigins .conservative (by decide)]
    exact sublist_origins_plan set p (by decide) fun s => p.picks_enhanced_of_conservative set
  · exact fun s => p.picks_aggressive_of_enhanced set
  · rw [horigins .enhanced (by decide)]
    exact sublist_origins_plan set p (by decide) fun s => p.picks_aggressive_of_enhanced set
  · exact fun s => p.picks_aggressive_of_balanced set
  · rw [horigins .balanced (by decide)]
    exact sublist_origins_plan set p (by decide) fun s => p.picks_aggressive_of_balanced set
  · exact fun s h hw => p.picks_enhanced_of_balanced set hw h
  · refine sublist_origins_plan set p (by decide) fun s h => ?_
    obtain ⟨hpick, hword⟩ := Bool.and_eq_true_iff.1 h
    exact p.picks_enhanced_of_balanced set (by simpa using hword) hpick

/-- A class that goes by the name of its package. -/
def namesakeProgram : SymbolSet := SymbolSet.build [] [ClassDecl.ofName "com.ab.ab"]

theorem modes_by_eagerness_namesake :
    let p := Profile.preset .balanced
    let package := Symbol.pkg (PackageDecl.ofName "com.ab")
    let picked := fun m => p.picks namesakeProgram m package
    (Mode.balanced ≠ .auto ∧ (plan namesakeProgram .balanced p).value.origins =
      (namesakeProgram.symbols.filter (p.picks namesakeProgram .balanced)).map Symbol.origin) ∧
    (picked .conservative = true ∧ picked .enhanced = true) ∧
    (picked .enhanced = true ∧ picked .aggressive = true) ∧
    (picked .balanced = true ∧ picked .aggressive = true) ∧
    picked .balanced = true ∧ Rule.commonWords.verdict package ≠ .forbid ∧ picked .enhanced = true := by
  intro p package picked
  obtain ⟨horigins, ⟨hce, -⟩, ⟨hea, -⟩, ⟨hba, -⟩, hbe, -⟩ := modes_by_eagerness namesakeProgram p
  have hc : picked .conservative = true := by decide +kernel
  have hb : picked .balanced = true := by decide +kernel
  have hw : Rule.commonWords.verdict package ≠ .forbid := by decide +kernel
  have hauto : Mode.balanced ≠ .auto := by decide
  have he := hce _ hc
  exact ⟨⟨hauto, horigins _ hauto⟩, ⟨hc, he⟩, ⟨he, hea _ he⟩, ⟨hb, hba _ hb⟩, hb, hw, hbe _ hb hw⟩

end Unmask
