import Unmask.Proofs.Rulings
import Unmask.Proofs.Session
/-!
# Symbols that stay

`Profile.Protects` lists what a mode leaves alone: what is flagged or named already, what the machine calls,
and the classes of generated resources; in all modes but the aggressive one also what the whitelist lists and
the packages named after top-level domains; in the conservative and the enhanced mode also names out of the
vocabulary of programmers.

For each of these the mode has a rule that forbids (`Protects.forbids`), and one is enough. Neither asking
about symbols nor renaming others changes what a pass picks (`renames_serveAll`), so at every point of its life
it refuses, and its plan leaves the symbol out (`protected_stays`).
-/

namespace Unmask

/-! ## What stands in a nested name, and in a whitelist -/

theorem Text.pieces_eq_splitOn (sep : Char) (s : List Char) : pieces sep s = s.splitOn sep := by
  induction s with
  | nil => simp [pieces]
  | cons c r ih =>
    rw [pieces, ih, List.splitOn_eq_splitOnP, List.splitOn_eq_splitOnP, List.splitOnP_cons_eq_if_modifyHead]
    by_cases h : c = sep
    · simp [h]
    · rw [if_neg h, if_neg (by simpa using h)]
      cases hr : r.splitOnP (· == sep) with
      | nil => exact absurd hr (List.splitOnP_ne_nil _ _)
      | cons piece rest => rfl

namespace Whitelist

/-- Whether an entry lists the package: its qualified name and `.*`, with or without white space around. -/
def ListsPackage (entries : List String) (name : String) : Prop :=
  ∃ e ∈ entries, Text.trim e.toList = name.toList ++ ['.', '*']

/-- Whether an entry lists the class: its qualified name, with or without white space around. What ends in
`.*` lists a package, and what is blank lists nothing. -/
def ListsClass (entries : List String) (name : String) : Prop :=
  name.toList ≠ [] ∧ ¬ ['.', '*'] <:+ name.toList ∧ ∃ e ∈ entries, Text.trim e.toList = name.toList

theorem Entry.read?_of_trim_eq_append {e name : String} (h : Text.trim e.toList = name.toList ++ ['.', '*']) :
    read? e = some (.wholePackage name) := by
  simp [read?, h]

theorem Entry.read?_of_trim_eq {e name : String} (hne : name.toList ≠ []) (hstar : ¬ ['.', '*'] <:+ name.toList)
    (h : Text.trim e.toList = name.toList) : read? e = some (.oneClass name) := by
  unfold read?
  rw [h]
  split
  · rename_i hnil
    exact absurd (List.reverse_eq_nil_iff.1 hnil) hne
  · rename_i r hr
    have hname : name.toList = r.reverse ++ ['.', '*'] := by simpa using congrArg List.reverse hr
    exact absurd ⟨_, hname.symm⟩ hstar
  · simp

theorem ListsPackage.mem_packages {entries : List String} {name : String} (h : ListsPackage entries name) :
    name ∈ (ofEntries entries).packages := by
  obtain ⟨e, he, ht⟩ := h
  refine List.mem_filterMap.2 ⟨.wholePackage name, List.mem_filterMap.2 ⟨e, he, ?_⟩, rfl⟩
  exact Entry.read?_of_trim_eq_append ht

theorem ListsClass.mem_classes {entries : List String} {name : String} (h : ListsClass entries name) :
    name ∈ (ofEntries entries).classes := by
  obtain ⟨hne, hstar, e, he, ht⟩ := h
  refine List.mem_filterMap.2 ⟨.oneClass name, List.mem_filterMap.2 ⟨e, he, ?_⟩, rfl⟩
  exact Entry.read?_of_trim_eq hne hstar ht

end Whitelist

/-! ## What a mode protects -/

namespace Profile

/-- What a mode leaves alone, whatever speaks for a rename. -/
inductive Protects (p : Profile) (m : Mode) : Symbol → Prop
  /-- What is flagged. -/
  | flagged {s} (h : s.isKept = true) : Protects p m s
  /-- What somebody has named before. -/
  | named {s name} (h : s.given = some name) : Protects p m s
  | constructor {method owner} (h : method.isConstructor = true) : Protects p m (.method method owner)
  | staticInit {method owner} (h : method.isStaticInit = true) : Protects p m (.method method owner)
  /-- A class that is `R` or nested in it, at any depth. -/
  | resourceClass {c} (h : ['R'] ∈ c.localName.toList.splitOn '$') : Protects p m (.cls c)
  | resourceField {f owner} (h : ['R'] ∈ owner.localName.toList.splitOn '$') : Protects p m (.field f owner)
  | listedPackage {q} (hm : m ∈ [Mode.conservative, .balanced, .enhanced])
      (h : Whitelist.ListsPackage p.settings.whitelist q.fullName) : Protects p m (.pkg q)
  | listedClass {c} (hm : m ∈ [Mode.conservative, .balanced, .enhanced])
      (h : Whitelist.ListsClass p.settings.whitelist c.fullName) : Protects p m (.cls c)
  | inListedPackage {c} (hm : m ∈ [Mode.conservative, .balanced, .enhanced])
      (h : Whitelist.ListsPackage p.settings.whitelist c.packageName) : Protects p m (.cls c)
  | domain {q} (hm : m ∈ [Mode.conservative, .balanced, .enhanced]) (hroot : '.' ∉ q.fullName.toList)
      (h : q.name ∈ Rule.topLevelDomains) : Protects p m (.pkg q)
  | commonWord {s} (hm : m ∈ [Mode.conservative, .enhanced]) (h : Rule.commonWords.verdict s = .forbid) :
      Protects p m s

variable (p : Profile) {m : Mode}

theorem rules_eq_nil_or (m : Mode) :
    p.rules m = [] ∨ (Rule.base ∈ p.rules m ∧ Rule.resourceClass ∈ p.rules m) := by
  cases m with
  | disabled | auto => exact .inl rfl
  | conservative | balanced | enhanced | aggressive => exact .inr (by simp [rules])

theorem whitelist_mem_rules (hm : m ∈ [Mode.conservative, .balanced, .enhanced]) :
    Rule.whitelist (Whitelist.ofEntries p.settings.whitelist) ∈ p.rules m ∧ Rule.topLevelDomain ∈ p.rules m := by
  simp only [List.mem_cons, List.not_mem_nil, or_false] at hm
  rcases hm with rfl | rfl | rfl <;> simp [rules]

theorem commonWords_mem_rules (hm : m ∈ [Mode.conservative, .enhanced]) : Rule.commonWords ∈ p.rules m := by
  simp only [List.mem_cons, List.not_mem_nil, or_false] at hm
  rcases hm with rfl | rfl <;> simp [rules]

variable {p} {s : Symbol}

/-- A mode has a rule that forbids each of the renames it protects from, unless it has no rules at all. -/
theorem Protects.forbids (h : p.Protects m s) :
    p.rules m = [] ∨ ∃ r ∈ p.rules m, r.verdict s = .forbid := by
  rcases p.rules_eq_nil_or m with hnil | ⟨hbase, hresource⟩
  · exact .inl hnil
  right
  cases h with
  | flagged h | named h => exact ⟨_, hbase, by simp [Rule.verdict, Rule.isProtected, h]⟩
  | constructor h | staticInit h =>
    refine ⟨_, hbase, ?_⟩
    simp [Rule.verdict, Rule.isProtected, Symbol.isInitializer, MethodDecl.isInitializer, h]
  | resourceClass h | resourceField h =>
    rw [← Text.pieces_eq_splitOn] at h
    exact ⟨_, hresource, by simp [Rule.verdict, Rule.isResource, Rule.isResourceClass, h]⟩
  | listedPackage hm h | inListedPackage hm h =>
    exact ⟨_, (p.whitelist_mem_rules hm).1, by simp [Rule.verdict, Whitelist.lists, h.mem_packages]⟩
  | listedClass hm h =>
    exact ⟨_, (p.whitelist_mem_rules hm).1, by simp [Rule.verdict, Whitelist.lists, h.mem_classes]⟩
  | domain hm hroot h =>
    refine ⟨_, (p.whitelist_mem_rules hm).2, ?_⟩
    simp [Rule.verdict, Rule.isTopLevelDomain, PackageDecl.isRoot, hroot, h]
  | commonWord hm h => exact ⟨_, p.commonWords_mem_rules hm, h⟩

theorem Protects.picks_eq_false (h : p.Protects m s) (set : SymbolSet) : p.picks set m s = false := by
  rcases h.forbids with hnil | ⟨r, hr, hv⟩
  · rw [picks, hnil]
    rfl
  · exact Rules.value_decide_prepare_of_forbid set hr hv

end Profile

/-! ## At every point of a pass -/

/-- A pass at some point of its life: it has begun, and answered calls. -/
def Pass.after (set : SymbolSet) (m : Mode) (p : Profile) (calls : List Call) : Pass :=
  ((Pass.start set m p).value.serveAll calls).value.2

namespace Pass

variable (set : SymbolSet) (m : Mode) (p : Profile) (calls : List Call)

theorem after_cases :
    let mode := (p.resolve m set).value
    (mode = .disabled ∧ after set m p calls = ⟨set, .disabled, none, none⟩) ∨
    (mode ≠ .disabled ∧ ∃ namer,
      after set m p calls = ⟨set, mode, some ((p.rules mode).prepare set), some namer⟩) := by
  unfold after
  rcases start_cases set m p with ⟨hd, hs⟩ | ⟨hd, hs⟩
  · rw [hs]
    exact .inl ⟨hd, (serveAll_of_no_namer rfl calls).2⟩
  · rw [hs]
    exact .inr ⟨hd, _, (serveAll_of_namer rfl calls).2⟩

theorem renames_serveAll (pass : Pass) (s : Symbol) :
    (pass.serveAll calls).value.2.renames s = pass.renames s := by
  cases hn : pass.namer with
  | none => rw [(serveAll_of_no_namer hn calls).2]
  | some namer =>
    rw [(serveAll_of_namer hn calls).2]
    rfl

theorem renames_after (s : Symbol) :
    (after set m p calls).renames s = p.picks set (p.resolve m set).value s := by
  rw [after, renames_serveAll, renames_start]

theorem run_after :
    (after set m p calls).run.value.entries = (after set m p calls).namings.map Naming.entry ∧
      (after set m p calls).namings.map (·.symbol) = set.symbols.filter (after set m p calls).renames := by
  rcases after_cases set m p calls with ⟨-, hp⟩ | ⟨hd, namer, hp⟩
  · rw [hp, value_run_of_no_namer rfl]
    refine ⟨rfl, (List.filter_eq_nil_iff.2 fun s _ => ?_).symm⟩
    exact Bool.false_ne_true
  · rw [hp, value_run_of_namer rfl hd, namings_of_namer rfl]
    exact ⟨rfl, Namer.map_symbol_nameAll _ _ _⟩

end Pass

/-- A symbol that a mode protects is never renamed in it. After any calls the pass decides against it, and
refuses to rename it without being changed by that. The plan is about the symbols that the pass decides for,
so not about this one. -/
theorem protected_stays (set : SymbolSet) (m : Mode) (p : Profile) (s : Symbol)
    (h : p.Protects (p.resolve m set).value s) (calls : List Call) :
    let pass := Pass.after set m p calls
    (pass.decide s).value = false ∧ (pass.rename s).value = (none, pass) ∧
    pass.run.value.entries = pass.namings.map Naming.entry ∧
    pass.namings.map (·.symbol) = set.symbols.filter (fun t => (pass.decide t).value) ∧
    s ∉ pass.namings.map (·.symbol) := by
  intro pass
  have hdecide : pass.renames s = false := by
    rw [Pass.renames_after]
    exact h.picks_eq_false set
  obtain ⟨hentries, hsymbols⟩ := Pass.run_after set m p calls
  refine ⟨hdecide, ?_, hentries, hsymbols, ?_⟩
  · rcases pass.rename_cases s with ⟨hr, -⟩ | ⟨-, hv⟩
    · rw [hdecide] at hr
      cases hr
    · exact hv
  · rw [hsymbols, List.mem_filter]
    rintro ⟨-, hr⟩
    rw [hdecide] at hr
    cases hr

/-- A class nested in generated resources, with a field of a short name. -/
def resourceHolder : ClassDecl :=
  { ClassDecl.ofName "com.example.R$id$x" with fields := [{ name := "a" }] }

/-- That class beside one in a package that the default whitelist lists. -/
def guardedProgram : SymbolSet := SymbolSet.build [] [resourceHolder, ClassDecl.ofName "androidx.core.os.a"]

theorem protected_stays_guarded :
    let p := Profile.preset .balanced
    let field := Symbol.field { name := "a" } resourceHolder
    let listed := Symbol.cls (ClassDecl.ofName "androidx.core.os.a")
    let pass := Pass.after guardedProgram .balanced p [.rename field, .decide listed]
    (field ∈ guardedProgram.symbols ∧ p.Protects (p.resolve .balanced guardedProgram).value field ∧
      (pass.decide field).value = false ∧ (pass.rename field).value = (none, pass) ∧
      field ∉ pass.namings.map (·.symbol)) ∧
    (listed ∈ guardedProgram.symbols ∧ p.Protects (p.resolve .balanced guardedProgram).value listed ∧
      (pass.decide listed).value = false ∧ (pass.rename listed).value = (none, pass) ∧
      listed ∉ pass.namings.map (·.symbol)) := by
  intro p field listed pass
  have hfield : p.Protects (p.resolve .balanced guardedProgram).value field := .resourceField (by decide +kernel)
  have hlisted : p.Protects (p.resolve .balanced guardedProgram).value listed :=
    .inListedPackage (by decide) ⟨"androidx.core.os.*", by decide +kernel, by decide +kernel⟩
  obtain ⟨hdecide, hrename, -, -, hplan⟩ := protected_stays _ .balanced p field hfield [.rename field, .decide listed]
  obtain ⟨hdecide', hrename', -, -, hplan'⟩ :=
    protected_stays _ .balanced p listed hlisted [.rename field, .decide listed]
  exact ⟨⟨by decide +kernel, hfield, hdecide, hrename, hplan⟩,
    ⟨by decide +kernel, hlisted, hdecide', hrename', hplan'⟩⟩

end Unmask
