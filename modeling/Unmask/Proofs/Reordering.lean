import Mathlib.Data.List.Perm.Lattice
import Unmask.Proofs.Resuming
import Unmask.Proofs.Rulings
/-!
# The order of classes

A decompiler hands classes over in some order, and the order shows: numbers and aliases are given in it, and a
tie between tools goes to the first. It does not show in what is renamed. `Reorders` relates two sets with the
same declarations in maybe another order, and everything that decides about a rename is the same for both: the
rate that picks the mode (`overallRate_eq`), the names that packages must not have, and so what the rules pick
(`picks_eq`).

The builder makes such sets of lists with the same classes (`build_perm`), where the work is in the packages: those
that it derives come in the order of the classes, but each once. `plan_reordered` is the statement about plans.
-/

namespace Unmask

/-! ## Building -/

namespace SymbolSet

/-- The same declarations, maybe in another order. -/
structure Reorders (set set' : SymbolSet) : Prop where
  packages : set.packages.Perm set'.packages
  classes : set.classes.Perm set'.classes

/-- Classes with distinct names are all kept, in order. -/
theorem foldl_addClass {classes acc : List ClassDecl} (h : ((acc ++ classes).map (·.fullName)).Nodup) :
    classes.foldl addClass acc = acc ++ classes := by
  induction classes generalizing acc with
  | nil => simp
  | cons c rest ih =>
    have hnew : c.fullName ∉ acc.map (·.fullName) := by
      intro hmem
      rw [List.map_append, List.nodup_append] at h
      exact h.2.2 _ hmem _ (List.mem_map_of_mem List.mem_cons_self) rfl
    rw [List.foldl_cons, addClass_of_not_mem hnew, ih (by simpa using h), List.append_assoc]
    rfl

/-- Packages are added behind those that are there: each name that is new, once. -/
theorem foldl_addPackage (names : List String) (packages : List PackageDecl) :
    ∃ added : List String, names.foldl addPackage packages = packages ++ added.map PackageDecl.ofName ∧ added.Nodup ∧
      ∀ name, name ∈ added ↔ name ∈ names ∧ name ∉ packages.map (·.fullName) := by
  induction names generalizing packages with
  | nil => exact ⟨[], by simp⟩
  | cons n rest ih =>
    rw [List.foldl_cons]
    by_cases hn : n ∈ packages.map (·.fullName)
    · have hany : packages.any (·.fullName == n) = true := by
        simpa using hn
      obtain ⟨added, he, hnodup, hmem⟩ := ih packages
      refine ⟨added, by rw [addPackage, if_pos hany, he], hnodup, fun name => ?_⟩
      rw [hmem, List.mem_cons]
      constructor
      · rintro ⟨hname, hfresh⟩
        exact ⟨.inr hname, hfresh⟩
      · rintro ⟨rfl | hname, hfresh⟩
        · exact absurd hn hfresh
        · exact ⟨hname, hfresh⟩
    · have hany : ¬ packages.any (·.fullName == n) = true := by
        simpa using hn
      -- The new package counts as there for all that follow, so its name does not come again.
      obtain ⟨added, he, hnodup, hmem⟩ := ih (packages ++ [PackageDecl.ofName n])
      have hnames : (packages ++ [PackageDecl.ofName n]).map (·.fullName) = packages.map (·.fullName) ++ [n] := by
        simp [PackageDecl.ofName]
      rw [hnames] at hmem
      refine ⟨n :: added, by rw [addPackage, if_neg hany, he]; simp, ?_, fun name => ?_⟩
      · exact List.nodup_cons.2 ⟨fun hmem' => ((hmem n).1 hmem').2 (by simp), hnodup⟩
      · rw [List.mem_cons, hmem, List.mem_cons]
        by_cases he : name = n
        · simp [he, hn]
        · simp [he]

theorem foldl_addPackage_perm {names names' : List String} (h : ∀ name, name ∈ names ↔ name ∈ names')
    (packages : List PackageDecl) : (names.foldl addPackage packages).Perm (names'.foldl addPackage packages) := by
  obtain ⟨added, he, hnodup, hmem⟩ := foldl_addPackage names packages
  obtain ⟨added', he', hnodup', hmem'⟩ := foldl_addPackage names' packages
  rw [he, he']
  refine List.Perm.append_left _ (List.Perm.map _ ?_)
  rw [List.perm_ext_iff_of_nodup hnodup hnodup']
  intro name
  rw [hmem, hmem', h]

/-- Classes with distinct names make the same set in any order. -/
theorem build_perm (packages : List PackageDecl) {classes classes' : List ClassDecl}
    (hnames : (classes.map (·.fullName)).Nodup) (h : classes.Perm classes') :
    (build packages classes).Reorders (build packages classes') := by
  have hnames' : (classes'.map (·.fullName)).Nodup := (h.map _).nodup_iff.1 hnames
  have hkept : classes.foldl addClass [] = classes := foldl_addClass hnames
  have hkept' : classes'.foldl addClass [] = classes' := foldl_addClass hnames'
  constructor
  · simp only [build, hkept, hkept']
    exact foldl_addPackage_perm (fun name => (h.flatMap_right _).mem_iff) packages
  · simp only [build, hkept, hkept']
    exact h

end SymbolSet

/-! ## What the order cannot change -/

namespace SymbolSet.Reorders

variable {set set' : SymbolSet} (h : set.Reorders set')

include h

theorem symbols_perm : set.symbols.Perm set'.symbols := by
  unfold symbols fields methods
  exact (((h.packages.map _).append (h.classes.map _)).append (h.classes.flatMap_right _)).append
    (h.classes.flatMap_right _)

theorem overallRate_eq (k : Classifier) :
    (Survey.ofSet k set).value.overallRate = (Survey.ofSet k set').value.overallRate := by
  have hshare : ∀ {names names' : List String}, names.Perm names' → Share.ofNames k names = Share.ofNames k names' := by
    intro names names' hp
    rw [Share.ofNames, Share.ofNames, hp.countP_eq, hp.length_eq]
  -- The rate is made of counts alone; the vote on the tool, which may differ, has no part in it.
  simp only [Survey.ofSet, Logged.value_bind, Logged.value_pure, hshare (h.classes.map _),
    hshare (h.classes.flatMap_right _)]

theorem resolve_eq (p : Profile) (m : Mode) : (p.resolve m set).value = (p.resolve m set').value := by
  rw [p.value_resolve, p.value_resolve, Profile.survey, Profile.survey, Survey.recommended, Survey.recommended,
    h.overallRate_eq]

theorem verdict_prepare_eq (r : Rule) (s : Symbol) : (r.prepare set).verdict s = (r.prepare set').verdict s := by
  cases r with
  | collision _ =>
    have hnames := fun name => ((h.classes.map Rule.classNameInUse).contains_eq (a := name))
    cases s with
    | pkg q => simp only [Rule.prepare, Rule.verdict, Rule.collides, hnames]
    | cls _ | field _ _ | method _ _ => rfl
  | base | whitelist _ | topLevelDomain | resourceClass | commonWords | pattern _ | entropy _ | length _ _ => rfl

theorem picks_eq (p : Profile) (m : Mode) (s : Symbol) : p.picks set m s = p.picks set' m s := by
  rw [Bool.eq_iff_iff, Profile.picks, Profile.picks, Rules.value_decide_iff, Rules.value_decide_iff]
  simp only [Rules.prepare, List.mem_map, exists_exists_and_eq_and, forall_exists_index, and_imp,
    forall_apply_eq_imp_iff₂, h.verdict_prepare_eq]

theorem renames_eq (p : Profile) (m : Mode) (s : Symbol) :
    (Pass.start set m p).value.renames s = (Pass.start set' m p).value.renames s := by
  rw [renames_start, renames_start, h.resolve_eq, h.picks_eq]

theorem renamed_perm (p : Profile) (m : Mode) :
    (set.symbols.filter (Pass.start set m p).value.renames).Perm
      (set'.symbols.filter (Pass.start set' m p).value.renames) := by
  rw [List.filter_congr fun s _ => h.renames_eq p m s]
  exact h.symbols_perm.filter _

theorem origins_perm (p : Profile) (m : Mode) :
    (plan set m p).value.origins.Perm (plan set' m p).value.origins := by
  rw [Plan.origins, Plan.origins, entries_plan, entries_plan, Naming.map_origin_entry, Naming.map_origin_entry,
    map_symbol_namings, map_symbol_namings]
  exact (h.renamed_perm p m).map _

theorem index_eq (p : Profile) (m : Mode) : (plan set m p).value.index = (plan set' m p).value.index := by
  have hmode := h.resolve_eq p m
  rcases Pass.start_cases set m p with ⟨hd, hs⟩ | ⟨hd, -⟩ <;>
    rcases Pass.start_cases set' m p with ⟨hd', hs'⟩ | ⟨hd', -⟩
  · rw [plan_value, plan_value, hs, hs', Pass.value_run_of_no_namer rfl, Pass.value_run_of_no_namer rfl]
  · exact absurd (hmode ▸ hd) hd'
  · exact absurd (hmode.trans hd') hd
  · refine PerKind.ext_get fun k => UInt32.toNat_inj.1 ?_
    rw [index_plan set m p hd, index_plan set' m p hd', Namer.toNat_counters_nameAll, Namer.toNat_counters_nameAll,
      (h.renamed_perm p m).countP_eq]
    simp only [Profile.freshNamer]

end SymbolSet.Reorders

/-- Classes with distinct names may come in any order: the mode stays the same, each symbol is decided on alike,
and the plan renames the same symbols, though maybe in another order and to other aliases. -/
theorem plan_reordered (packages : List PackageDecl) (classes classes' : List ClassDecl)
    (hnames : (classes.map (·.fullName)).Nodup) (horder : classes.Perm classes') (m : Mode) (p : Profile) :
    let set := SymbolSet.build packages classes
    let set' := SymbolSet.build packages classes'
    (Pass.start set m p).value.mode = (Pass.start set' m p).value.mode ∧
    (∀ s, ((Pass.start set m p).value.decide s).value = ((Pass.start set' m p).value.decide s).value) ∧
    (plan set m p).value.origins.Perm (plan set' m p).value.origins ∧
    (plan set m p).value.mode = (plan set' m p).value.mode ∧
    (plan set m p).value.index = (plan set' m p).value.index := by
  intro set set'
  have h : set.Reorders set' := SymbolSet.build_perm packages hnames horder
  have hmode := h.resolve_eq p m
  exact ⟨hmode, h.renames_eq p m, h.origins_perm p m, hmode, h.index_eq p m⟩

/-- Two classes in packages of their own. -/
def twoClasses : List ClassDecl := [ClassDecl.ofName "com.ab.x", ClassDecl.ofName "com.cd.y"]

theorem plan_reordered_two :
    let set := SymbolSet.build [] twoClasses
    let set' := SymbolSet.build [] twoClasses.reverse
    let p := Profile.preset .balanced
    (twoClasses.map (·.fullName)).Nodup ∧ twoClasses.Perm twoClasses.reverse ∧
      (Pass.start set .auto p).value.mode = (Pass.start set' .auto p).value.mode ∧
      (plan set .auto p).value.origins.Perm (plan set' .auto p).value.origins ∧
      (plan set .balanced p).value.origins.Perm (plan set' .balanced p).value.origins ∧
      (plan set .balanced p).value.entries.map (·.renamed) = ["p000ab", "p001cd", "C0000x", "C0001y"] ∧
      (plan set' .balanced p).value.entries.map (·.renamed) = ["p000cd", "p001ab", "C0000y", "C0001x"] := by
  intro set set' p
  have hnames : (twoClasses.map (·.fullName)).Nodup := by decide +kernel
  have horder : twoClasses.Perm twoClasses.reverse := (List.reverse_perm _).symm
  obtain ⟨hmode, -, hauto, -⟩ := plan_reordered [] _ _ hnames horder .auto p
  obtain ⟨-, -, hbalanced, -⟩ := plan_reordered [] _ _ hnames horder .balanced p
  exact ⟨hnames, horder, hmode, hauto, hbalanced, by decide +kernel, by decide +kernel⟩

end Unmask
