import Unmask.Proofs.Alphabet
import Unmask.Proofs.Rulings
import Unmask.Proofs.Scopes
/-!
# Packages beside classes

A package must not go by the name of a class. The rule against that looks at the names before the walk: a package
that nothing protects is renamed if a class goes by its name. So of a package and a class that both stay, the names
differ (`renames_of_name_eq`).

Aliases are not looked at. Most are told apart by how they open: those of packages with `p` or `pkg`, those of
classes with a capital, unless the name of a framework class comes first (`prefix_base`). But an alias may be the name
of a symbol that stays. `package_apart_iff` says exactly when a package and a class come to share a name, and
`shared_names` shows that all of the cases occur.
-/

namespace Unmask

/-- A name by which the symbol goes once the renames of the walk are made: an alias of it or, where it stays, the
name that it has. -/
inductive Pass.GoesBy (p : Pass) (s : Symbol) : String → Prop
  | renamed {chosen : String} (h : ⟨s, chosen⟩ ∈ p.namings) : p.GoesBy s chosen
  | stays (h : (p.decide s).value = false) : p.GoesBy s s.nameInUse

/-- Whether no alias of the package is the name of the class, or the other way round, and the two have no alias in
common. The last is in question only for a class whose alias opens with the name of a framework class. -/
structure Pass.Separates (p : Pass) (style : Style) (q : PackageDecl) (c : ClassDecl) : Prop where
  package : (p.decide (.cls c)).value = false → ∀ chosen, ⟨.pkg q, chosen⟩ ∈ p.namings →
    chosen ≠ (Symbol.cls c).nameInUse
  ofClass : (p.decide (.pkg q)).value = false → ∀ chosen, ⟨.cls c, chosen⟩ ∈ p.namings →
    chosen ≠ (Symbol.pkg q).nameInUse
  both : style.showsBase c = true → ['p', 'k', 'g'] <+: (Alias.frameworkBase p.set c).toList →
    ∀ chosen, ⟨.pkg q, chosen⟩ ∈ p.namings → ⟨.cls c, chosen⟩ ∉ p.namings

/-! ## Names that stay -/

namespace Profile

variable (p : Profile) (set : SymbolSet) {m : Mode} (hm : m ∈ [Mode.conservative, .balanced, .enhanced, .aggressive])

include hm

theorem mem_rules : Rule.base ∈ p.rules m ∧ Rule.collision [] ∈ p.rules m := by
  simp only [List.mem_cons, List.not_mem_nil, or_false] at hm
  rcases hm with rfl | rfl | rfl | rfl <;> simp [rules]

theorem value_resolve_of_mem : (p.resolve m set).value = m := by
  rw [p.value_resolve, if_neg]
  rintro rfl
  simp at hm

/-- A package that nothing protects has been given no name before. -/
theorem given_eq_none_of_free {q : PackageDecl} (hfree : ∀ r ∈ (p.rules m).prepare set, r.verdict (.pkg q) ≠ .forbid) :
    q.given = none := by
  have hbase : Rule.base.verdict (.pkg q) ≠ .forbid := hfree _ (List.mem_map_of_mem (p.mem_rules hm).1)
  rw [Rule.verdict, Ne, Verdict.forbidIf_eq_forbid_iff, Rule.isProtected] at hbase
  simp only [Bool.or_eq_true, not_or, Option.not_isSome_iff_eq_none] at hbase
  exact hbase.1.2

/-- A package that nothing protects is renamed if a class goes by its name. -/
theorem renames_of_name_eq {q : PackageDecl} (hfree : ∀ r ∈ (p.rules m).prepare set, r.verdict (.pkg q) ≠ .forbid)
    {c : ClassDecl} (hc : c ∈ set.classes) (he : (Symbol.pkg q).nameInUse = (Symbol.cls c).nameInUse) :
    (Pass.start set m p).value.renames (.pkg q) = true := by
  rw [renames_start, p.value_resolve_of_mem set hm, picks, Rules.value_decide_iff]
  refine ⟨⟨_, List.mem_map_of_mem (p.mem_rules hm).2, ?_⟩, hfree⟩
  have hmem : (Symbol.pkg q).nameInUse ∈ set.classes.map Rule.classNameInUse := he ▸ List.mem_map_of_mem hc
  have hcollides : Rule.collides (set.classes.map Rule.classNameInUse) (.pkg q) = true := by
    simpa [Rule.collides, Symbol.nameInUse, Symbol.given, Symbol.name] using hmem
  rw [Rule.prepare, Rule.verdict, hcollides]
  rfl

end Profile

/-! ## How aliases open -/

theorem prefix_freeName (separator wish : String) (taken : List String) :
    wish.toList <+: (freeName separator wish taken).toList := by
  by_cases h : wish ∈ taken
  · obtain ⟨n, -, he, -⟩ := freeName_of_mem separator h
    rw [he, numberedName, String.toList_append, String.toList_append, List.append_assoc]
    exact List.prefix_append _ _
  · simp [freeName_eq_self h]

/-- An opening without a `C` that a text shares with a mark before a `C` opens the mark. -/
theorem prefix_of_append_cons {opening mark rest text : List Char} (ho : 'C' ∉ opening) (hopen : opening <+: text)
    (hmark : mark ++ 'C' :: rest <+: text) : opening <+: mark := by
  have hmark' : mark ++ ['C'] <+: text := by
    refine List.IsPrefix.trans ?_ hmark
    exact ⟨rest, by simp⟩
  rcases List.prefix_or_prefix_of_prefix hopen hmark' with h | h
  · rcases List.prefix_concat_iff.1 h with rfl | h
    · simp at ho
    · exact h
  · exact absurd (h.subset (by simp)) ho

namespace Namer

theorem not_prefix_plainClassMark (c : ClassDecl) : ¬ ['p'] <+: (plainClassMark c).toList := by
  unfold plainClassMark
  split_ifs <;> decide

theorem prefix_base_of_prefix_classMark {t : Traits} {set : SymbolSet} {c : ClassDecl}
    (h : ['p', 'k', 'g'] <+: (classMark t set c).toList) :
    (Style.descriptive t).showsBase c = true ∧ ['p', 'k', 'g'] <+: (Alias.frameworkBase set c).toList := by
  unfold classMark at h
  split at h
  · split at h <;> exact absurd h (by decide)
  · rename_i henum
    rw [String.toList_append] at h
    obtain ⟨role, hrole, hmem⟩ : ∃ role, (if t.rolePrefixes then
        if c.access.isInterface then "I" else if c.access.isAbstract then "Abstract" else "" else "") = role ∧
        role ∈ ["I", "Abstract", ""] := by
      refine ⟨_, rfl, ?_⟩
      split_ifs <;> simp
    rw [hrole] at h
    simp only [List.mem_cons, List.not_mem_nil, or_false] at hmem
    -- A mark of the role opens with a capital, so there is none.
    rcases hmem with rfl | rfl | rfl
    · exact absurd (List.cons_prefix_cons.1 h).1 (by decide)
    · exact absurd (List.cons_prefix_cons.1 h).1 (by decide)
    · cases hbases : t.frameworkBases with
      | false => simp [hbases] at h
      | true => exact ⟨by simp [Style.showsBase, hbases, henum], by simpa [hbases] using h⟩

/-- A package and a class are wished names that open alike only if the class is named after a framework class whose
name opens like the alias of a package. -/
theorem prefix_base {namer : Namer} {set : SymbolSet} {q : PackageDecl} {c : ClassDecl} {a b : UInt32} {text : List Char}
    (hq : (namer.wish set (.pkg q) a).toList <+: text) (hc : (namer.wish set (.cls c) b).toList <+: text) :
    namer.style.showsBase c = true ∧ ['p', 'k', 'g'] <+: (Alias.frameworkBase set c).toList := by
  unfold wish at hq hc
  cases hstyle : namer.style with
  | plain =>
    simp only [hstyle, plainWish, String.toList_append, List.append_assoc] at hq hc
    have hopen : ['p'] <+: text := (List.prefix_append _ _).trans hq
    exact absurd (prefix_of_append_cons (by decide) hopen hc) (not_prefix_plainClassMark c)
  | descriptive t =>
    simp only [hstyle, descriptiveWish, String.toList_append, List.append_assoc] at hq hc
    have hopen : ['p', 'k', 'g'] <+: text := (List.prefix_append _ _).trans hq
    exact prefix_base_of_prefix_classMark (prefix_of_append_cons (by decide) hopen hc)

end Namer

/-! ## Names after the walk -/

/-- Every alias of a walk opens with what was wished for its symbol. -/
theorem prefix_namings (set : SymbolSet) (m : Mode) (p : Profile) {s : Symbol} {chosen : String}
    (h : ⟨s, chosen⟩ ∈ (Pass.start set m p).value.namings) :
    ∃ number, ((p.freshNamer (p.resolve m set).value).wish set s number).toList <+: chosen.toList := by
  obtain ⟨number, taken, hc⟩ := chosen_namings set m p _ h
  change chosen = _ at hc
  rw [hc]
  exact ⟨number, prefix_freeName _ _ _⟩

/-- A package that nothing protects and a class come to share a name exactly when an alias of the one is the name
that the other keeps, or they have an alias in common. -/
theorem goesBy_apart_iff (set : SymbolSet) {m : Mode} (hm : m ∈ [Mode.conservative, .balanced, .enhanced, .aggressive])
    (p : Profile) {q : PackageDecl} (hfree : ∀ r ∈ (p.rules m).prepare set, r.verdict (.pkg q) ≠ .forbid)
    {c : ClassDecl} (hc : c ∈ set.classes) :
    (∀ name, (Pass.start set m p).value.GoesBy (.pkg q) name → ¬ (Pass.start set m p).value.GoesBy (.cls c) name) ↔
      (Pass.start set m p).value.Separates (p.style m) q c := by
  constructor
  · intro hapart
    constructor
    · rintro hstays chosen halias rfl
      exact hapart _ (.renamed halias) (.stays hstays)
    · rintro hstays chosen halias rfl
      exact hapart _ (.stays hstays) (.renamed halias)
    · intro _ _ chosen halias halias'
      exact hapart _ (.renamed halias) (.renamed halias')
  · intro hsep name hpackage hclass
    -- Two aliases mostly differ in how they open, and the rule sees to two names that stay; the rest is `hsep`.
    cases hpackage with
    | renamed halias =>
      generalize hname : name = text at hclass
      cases hclass with
      | renamed halias' =>
        subst hname
        obtain ⟨a, ha⟩ := prefix_namings set m p halias
        obtain ⟨b, hb⟩ := prefix_namings set m p halias'
        obtain ⟨hshows, hbase⟩ := Namer.prefix_base ha hb
        rw [p.value_resolve_of_mem set hm] at hshows
        exact hsep.both hshows hbase _ halias halias'
      | stays hstays => exact hsep.package hstays _ halias hname
    | stays hstays =>
      generalize hname : (Symbol.pkg q).nameInUse = text at hclass
      cases hclass with
      | renamed halias => exact hsep.ofClass hstays _ halias hname.symm
      | stays _ =>
        have hrenames := p.renames_of_name_eq set hm hfree hc hname
        exact absurd (hstays.symm.trans hrenames) (by decide)

/-- By settings in which nothing is wrong each of these modes makes a plan, of the symbols that the pass decides to
rename. A package that nothing protects has been given no name before, and it goes by another name than a class
exactly when the two are separated: no alias of the one is the name that the other keeps, and they have no alias in
common, which only a framework class with a name like the alias of a package could bring about. -/
theorem package_apart_iff (set : SymbolSet) (m : Mode) (hm : m ∈ [Mode.conservative, .balanced, .enhanced, .aggressive])
    (s : Settings) (h : s.Valid) :
    ∃ outcome, planWith set m s = .ok outcome ∧
      let p : Profile := ⟨s, h⟩
      let pass := (Pass.start set m p).value
      outcome.value.entries = pass.namings.map Naming.entry ∧
      pass.namings.map (·.symbol) = set.symbols.filter (fun s => (pass.decide s).value) ∧
      ∀ q ∈ set.packages, (∀ r ∈ (p.rules m).prepare set, r.verdict (.pkg q) ≠ .forbid) → q.given = none ∧
        ∀ c ∈ set.classes, (∀ name, pass.GoesBy (.pkg q) name → ¬ pass.GoesBy (.cls c) name) ↔
          pass.Separates (p.style m) q c := by
  refine ⟨_, planWith_of_valid set m h, ?_⟩
  intro p pass
  refine ⟨entries_plan set m p, map_symbol_namings set m p, fun q _ hfree => ⟨?_, fun c hc => ?_⟩⟩
  · exact p.given_eq_none_of_free set hm hfree
  · exact goesBy_apart_iff set hm p hfree hc

theorem package_apart_iff_namesake :
    let m := Mode.balanced
    let q := PackageDecl.ofName "com.ab"
    let c := ClassDecl.ofName "com.ab.ab"
    m ∈ [Mode.conservative, .balanced, .enhanced, .aggressive] ∧ ∃ h : Settings.Valid {},
      let p : Profile := ⟨{}, h⟩
      let pass := (Pass.start namesakeProgram m p).value
      q ∈ namesakeProgram.packages ∧ c ∈ namesakeProgram.classes ∧
        (∀ r ∈ (p.rules m).prepare namesakeProgram, r.verdict (.pkg q) ≠ .forbid) ∧
        ∀ name, pass.GoesBy (.pkg q) name → ¬ pass.GoesBy (.cls c) name := by
  intro m q c
  have hm : m ∈ [Mode.conservative, .balanced, .enhanced, .aggressive] := by decide
  refine ⟨hm, Settings.valid_default, ?_⟩
  intro p pass
  have hq : q ∈ namesakeProgram.packages := by decide +kernel
  have hc : c ∈ namesakeProgram.classes := by decide +kernel
  have hfree : ∀ r ∈ (p.rules m).prepare namesakeProgram, r.verdict (.pkg q) ≠ .forbid := by decide +kernel
  refine ⟨hq, hc, hfree, ?_⟩
  obtain ⟨_, -, -, -, hapart⟩ := package_apart_iff namesakeProgram m hm {} Settings.valid_default
  refine ((hapart q hq hfree).2 c hc).2 ⟨?_, ?_, nofun⟩
  · intro hstays
    exact absurd hstays (by decide +kernel)
  · intro hstays
    exact absurd hstays (by decide +kernel)

/-- Whether a package of the program that nothing protects and a class of it both go by the name. -/
def SharesName (set : SymbolSet) (m : Mode) (p : Profile) (q : PackageDecl) (c : ClassDecl) (name : String) : Prop :=
  q ∈ set.packages ∧ c ∈ set.classes ∧ (∀ r ∈ (p.rules m).prepare set, r.verdict (.pkg q) ≠ .forbid) ∧
    (Pass.start set m p).value.GoesBy (.pkg q) name ∧ (Pass.start set m p).value.GoesBy (.cls c) name

/-- Two packages with a class each. In the one the class is to be renamed and the package stays, in the other it is
the other way round. -/
def crossedProgram : SymbolSet := SymbolSet.build [] [ClassDecl.ofName "com.C0000a.a", ClassDecl.ofName "com.b.p000b"]

/-- A class that descends from a framework class with a name like the alias of a package. -/
def packageLikeClass : ClassDecl := { ClassDecl.ofName "com.C0000ab.ab" with super := some "android.app.pkg000" }

/-- The class in a package that is to be renamed for the sake of a class of its name. -/
def packageLikeProgram : SymbolSet := SymbolSet.build [] [packageLikeClass, ClassDecl.ofName "com.C0000ab.C0000ab"]

/-- A profile that leaves the entropy of short names alone. -/
def longNamesProfile : Profile := ⟨{ entropyMinLength := 100 }, by decide⟩

/-- An alias of a class may be the name of a package that stays, an alias of a package the name of a class that
stays, and both may be given the same alias. -/
theorem shared_names :
    SharesName crossedProgram .balanced (Profile.preset .balanced) (PackageDecl.ofName "com.C0000a")
      (ClassDecl.ofName "com.C0000a.a") "C0000a" ∧
    SharesName crossedProgram .balanced (Profile.preset .balanced) (PackageDecl.ofName "com.b")
      (ClassDecl.ofName "com.b.p000b") "p000b" ∧
    SharesName packageLikeProgram .enhanced longNamesProfile (PackageDecl.ofName "com.C0000ab") packageLikeClass
      "pkg000C0000ab" := by
  have hcrossed : (Pass.start crossedProgram .balanced (Profile.preset .balanced)).value.namings =
      [⟨.pkg (PackageDecl.ofName "com.b"), "p000b"⟩, ⟨.cls (ClassDecl.ofName "com.C0000a.a"), "C0000a"⟩] := by
    decide +kernel
  have hlike : (Pass.start packageLikeProgram .enhanced longNamesProfile).value.namings =
      [⟨.pkg (PackageDecl.ofName "com.C0000ab"), "pkg000C0000ab"⟩, ⟨.cls packageLikeClass, "pkg000C0000ab"⟩] := by
    decide +kernel
  refine ⟨⟨?_, ?_, ?_, .stays ?_, .renamed (by simp [hcrossed])⟩, ⟨?_, ?_, ?_, .renamed (by simp [hcrossed]), .stays ?_⟩,
    ?_, ?_, ?_, .renamed (by simp [hlike]), .renamed (by simp [hlike])⟩ <;> decide +kernel

end Unmask
