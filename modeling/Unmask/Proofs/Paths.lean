import Mathlib.Data.List.Nodup
import Unmask.Proofs.ClassTable
import Unmask.Proofs.Scopes
/-!
# Looking renames up by path

A plan is asked for a rename by the path of the symbol, and answers with the first entry at that path. No two
entries of a plan are alike, since aliases never repeat, so every entry is found exactly when no two renamed
symbols share a path (`paths_identify_iff`).

They may. The builder keeps the classes of a program apart, but a package may go by the qualified name of a
class, and packages come first (`class_behind_package`). Paths are distinct where names are as a compiler has
them (`Tidy`): a package or class never goes by the name of a class or inside of one, names are free of dots and
brackets, and the members of a class differ.
-/

namespace Unmask

/-! ## Entries at one path -/

/-- Where no entry comes twice, all are found by their paths exactly when the paths are distinct. -/
theorem Plan.get?_path_iff {plan : Plan} (h : plan.entries.Nodup) :
    (∀ e ∈ plan.entries, plan.get? e.path = some e) ↔ (plan.entries.map (·.path)).Nodup := by
  constructor
  · intro hfound
    rw [List.nodup_map_iff_inj_on h]
    intro e he f hf heq
    have hsame : plan.get? e.path = some f := heq ▸ hfound f hf
    rw [hfound e he] at hsame
    exact Option.some.inj hsame
  · intro hpaths e he
    exact (find?_key_eq_some_iff hpaths).2 ⟨he, rfl⟩

theorem Naming.nodup_entry {ns : List Naming} (h : ∀ k, (aliases k ns).Nodup) : (ns.map Naming.entry).Nodup := by
  induction ns with
  | nil => exact List.nodup_nil
  | cons n rest ih =>
    obtain ⟨s, chosen⟩ := n
    rw [List.map_cons, List.nodup_cons]
    constructor
    · -- Kind and alias alone tell entries apart.
      intro hmem
      obtain ⟨n, hn, he⟩ := List.mem_map.1 hmem
      have hk : n.symbol.kind = s.kind := congrArg Entry.kind he
      have hc : n.chosen = chosen := congrArg Entry.renamed he
      have hfresh := h s.kind
      rw [aliases_cons_self, List.nodup_cons] at hfresh
      refine hfresh.1 (List.mem_map.2 ⟨n, List.mem_filter.2 ⟨hn, by simp [hk]⟩, hc⟩)
    · refine ih fun k => (h k).sublist ?_
      exact (List.Sublist.filter _ (List.sublist_cons_self _ _)).map _

theorem nodup_entries_plan (set : SymbolSet) (m : Mode) (p : Profile) : (plan set m p).value.entries.Nodup := by
  rw [entries_plan]
  exact Naming.nodup_entry (nodup_aliases_namings set m p)

theorem map_path_entry (ns : List Naming) :
    (ns.map Naming.entry).map (·.path) = (ns.map (·.symbol)).map Symbol.path := by
  simp only [List.map_map]
  rfl

/-! ## Classes -/

theorem namings_split (set : SymbolSet) (m : Mode) (p : Profile) :
    let pass := (Pass.start set m p).value
    ∃ ps cs ms, pass.namings = ps ++ (cs ++ ms) ∧
      ps.map (·.symbol) = (set.packages.map Symbol.pkg).filter pass.renames ∧
      cs.map (·.symbol) = (set.classes.map Symbol.cls).filter pass.renames ∧
      ms.map (·.symbol) = (set.fields ++ set.methods).filter pass.renames := by
  intro pass
  have hwalk := map_symbol_namings set m p
  rw [SymbolSet.symbols, List.append_assoc, List.append_assoc, List.filter_append, List.filter_append] at hwalk
  obtain ⟨ps, rest, hns, hps, hrest⟩ := List.map_eq_append_iff.1 hwalk
  obtain ⟨cs, ms, rfl, hcs, hms⟩ := List.map_eq_append_iff.1 hrest
  exact ⟨ps, cs, ms, hns, hps, hcs, hms⟩

theorem mem_of_map_symbol_eq {ns : List Naming} {ss : List Symbol} {picks : Symbol → Bool}
    (h : ns.map (·.symbol) = ss.filter picks) {n : Naming} (hn : n ∈ ns) : n.symbol ∈ ss ∧ picks n.symbol = true := by
  have hmem := List.mem_map_of_mem (f := (·.symbol)) hn
  rw [h] at hmem
  exact List.mem_filter.1 hmem

theorem find?_class {classes : List ClassDecl} (hclasses : (classes.map (·.fullName)).Nodup) {ns : List Naming}
    {picks : Symbol → Bool} (h : ns.map (·.symbol) = (classes.map Symbol.cls).filter picks) {n : Naming} (hn : n ∈ ns)
    {c : ClassDecl} (hc : n.symbol = .cls c) : ns.find? (·.symbol.path == c.fullName) = some n := by
  have hpaths : (ns.map (·.symbol.path)).Nodup := by
    have hmap : ns.map (·.symbol.path) = (ns.map (·.symbol)).map Symbol.path := by rw [List.map_map]; rfl
    rw [hmap, h]
    refine List.Nodup.sublist (List.filter_sublist.map _) ?_
    rw [List.map_map]
    exact hclasses
  have hfound := (find?_key_eq_some_iff hpaths).2 ⟨hn, rfl⟩
  rwa [hc] at hfound

/-- The rename of a class is found by its path exactly when no package of its qualified name is renamed. -/
theorem get?_class_iff {set : SymbolSet} (hclasses : (set.classes.map (·.fullName)).Nodup) (m : Mode) (p : Profile)
    {n : Naming} (hn : n ∈ (Pass.start set m p).value.namings) {c : ClassDecl} (hc : n.symbol = .cls c) :
    (plan set m p).value.get? c.fullName = some n.entry ↔
      ∀ q ∈ set.packages, (Pass.start set m p).value.renames (.pkg q) = true → q.fullName ≠ c.fullName := by
  obtain ⟨ps, cs, ms, hns, hps, hcs, hms⟩ := namings_split set m p
  have hget : (plan set m p).value.get? c.fullName =
      ((ps ++ (cs ++ ms)).find? (·.symbol.path == c.fullName)).map Naming.entry := by
    rw [Plan.get?, entries_plan, hns, List.find?_map]
    rfl
  rw [hget, List.find?_append]
  constructor
  · -- A renamed package of that name comes before the class, and is found instead.
    intro hfound q hq hr he
    have hmem : Symbol.pkg q ∈ ps.map (·.symbol) := by
      rw [hps]
      exact List.mem_filter.2 ⟨List.mem_map_of_mem hq, hr⟩
    obtain ⟨y, hy, hyq⟩ := List.mem_map.1 hmem
    have hsome : (ps.find? (·.symbol.path == c.fullName)).isSome = true :=
      List.find?_isSome.2 ⟨y, hy, by simp [hyq, Symbol.path, he]⟩
    obtain ⟨x, hx⟩ := Option.isSome_iff_exists.1 hsome
    rw [hx] at hfound
    have hkind : x.symbol.kind = n.symbol.kind := congrArg Entry.kind (Option.some.inj hfound)
    obtain ⟨r, -, hxr⟩ := List.mem_map.1 (mem_of_map_symbol_eq hps (List.mem_of_find?_eq_some hx)).1
    rw [← hxr, hc] at hkind
    cases hkind
  · intro hclear
    have hnone : ps.find? (·.symbol.path == c.fullName) = none := by
      rw [List.find?_eq_none]
      intro x hx
      obtain ⟨hmem, hr⟩ := mem_of_map_symbol_eq hps hx
      obtain ⟨q, hq, hxq⟩ := List.mem_map.1 hmem
      rw [← hxq] at hr ⊢
      simpa [Symbol.path] using hclear q hq hr
    have hclass : n ∈ cs := by
      rw [hns, List.mem_append, List.mem_append] at hn
      rcases hn with hn | hn | hn
      · have hmem := (mem_of_map_symbol_eq hps hn).1
        simp [hc] at hmem
      · exact hn
      · have hmem := (mem_of_map_symbol_eq hms hn).1
        simp [hc, SymbolSet.fields, SymbolSet.methods] at hmem
    rw [hnone, List.find?_append, find?_class hclasses hcs hclass hc]
    rfl

/-! ## Programs with distinct paths -/

namespace Text

/-- A text is cut at the first mark in one way only. -/
theorem eq_of_append_cons_eq {mark : Char} {a b x y : List Char} (ha : mark ∉ a) (hb : mark ∉ b)
    (h : a ++ mark :: x = b ++ mark :: y) : a = b ∧ x = y := by
  induction a generalizing b with
  | nil =>
    cases b with
    | nil => exact ⟨rfl, (List.cons.inj h).2⟩
    | cons d b => exact absurd ((List.cons.inj h).1 ▸ List.mem_cons_self) hb
  | cons c a ih =>
    cases b with
    | nil => exact absurd ((List.cons.inj h).1 ▸ List.mem_cons_self) ha
    | cons d b =>
      obtain ⟨rfl, hrest⟩ := List.cons.inj h
      have ha' : mark ∉ a := fun hm => ha (List.mem_cons_of_mem _ hm)
      have hb' : mark ∉ b := fun hm => hb (List.mem_cons_of_mem _ hm)
      obtain ⟨rfl, hxy⟩ := ih ha' hb' hrest
      exact ⟨rfl, hxy⟩

/-- A text is cut at the last mark in one way only. -/
theorem eq_of_cons_append_eq {mark : Char} {a b x y : List Char} (hx : mark ∉ x) (hy : mark ∉ y)
    (h : a ++ mark :: x = b ++ mark :: y) : a = b ∧ x = y := by
  have hr : x.reverse ++ mark :: a.reverse = y.reverse ++ mark :: b.reverse := by
    simpa using congrArg List.reverse h
  obtain ⟨hxy, hab⟩ := eq_of_append_cons_eq (by simpa using hx) (by simpa using hy) hr
  exact ⟨List.reverse_inj.1 hab, List.reverse_inj.1 hxy⟩

end Text

/-- The name of a method with its argument types, as paths show it. -/
def MethodDecl.signature (m : MethodDecl) : String :=
  m.name ++ "(" ++ String.intercalate "," (m.args.map TypeRef.text) ++ ")"

/-- Whether a text is the label of a member: a name without dots and brackets, and for methods what is in
brackets after it. -/
def IsLabel (label : List Char) : Prop :=
  ∃ name tail, label = name ++ tail ∧ '.' ∉ name ∧ '(' ∉ name ∧ (tail = [] ∨ ∃ args, tail = '(' :: args)

theorem IsLabel.path_inj {l l' c d : List Char} (hl : IsLabel l) (hl' : IsLabel l') (hc : '(' ∉ c) (hd : '(' ∉ d)
    (h : c ++ '.' :: l = d ++ '.' :: l') : c = d ∧ l = l' := by
  obtain ⟨x, t, rfl, hdot, hbr, ht⟩ := hl
  obtain ⟨y, u, rfl, hdot', hbr', hu⟩ := hl'
  have hhead : '(' ∉ c ++ '.' :: x := by simp [hc, hbr]
  have hhead' : '(' ∉ d ++ '.' :: y := by simp [hd, hbr']
  have h' : (c ++ '.' :: x) ++ t = (d ++ '.' :: y) ++ u := by simpa using h
  -- Both sides are cut at the bracket if they have one, and then at the last dot.
  have hcut : c ++ '.' :: x = d ++ '.' :: y ∧ t = u := by
    rcases ht with rfl | ⟨args, rfl⟩ <;> rcases hu with rfl | ⟨args', rfl⟩
    · simpa using h'
    · rw [List.append_nil] at h'
      rw [h'] at hhead
      simp at hhead
    · rw [List.append_nil] at h'
      rw [← h'] at hhead'
      simp at hhead'
    · obtain ⟨hcut, hargs⟩ := Text.eq_of_append_cons_eq hhead hhead' h'
      exact ⟨hcut, by rw [hargs]⟩
  obtain ⟨hcd, hxy⟩ := Text.eq_of_cons_append_eq hdot hdot' hcut.1
  exact ⟨hcd, by rw [hxy, hcut.2]⟩

/-- A program with names as a compiler has them. -/
structure SymbolSet.Tidy (set : SymbolSet) : Prop where
  packages : (set.packages.map (·.fullName)).Nodup
  /-- No package goes by the qualified name of a class. -/
  apart : ∀ q ∈ set.packages, ∀ c ∈ set.classes, q.fullName ≠ c.fullName
  /-- No package or class goes by a name inside of a class. -/
  outside : ∀ c ∈ set.classes, ∀ name ∈ set.packages.map (·.fullName) ++ set.classes.map (·.fullName),
    ¬ c.fullName.toList ++ ['.'] <+: name.toList
  classNames : ∀ c ∈ set.classes, '(' ∉ c.fullName.toList
  fieldNames : ∀ c ∈ set.classes, ∀ f ∈ c.fields, '.' ∉ f.name.toList ∧ '(' ∉ f.name.toList
  methodNames : ∀ c ∈ set.classes, ∀ m ∈ c.methods, '.' ∉ m.name.toList ∧ '(' ∉ m.name.toList
  /-- The fields of a class have distinct names. -/
  fields : ∀ c ∈ set.classes, (c.fields.map (·.name)).Nodup
  /-- The methods of a class have distinct names or arguments. -/
  methods : ∀ c ∈ set.classes, (c.methods.map (·.signature)).Nodup

/-- The paths of members, class by class, by their labels. -/
def memberPaths (classes : List ClassDecl) (labels : ClassDecl → List String) : List String :=
  classes.flatMap fun c => (labels c).map (c.fullName ++ "." ++ ·)

theorem mem_memberPaths {classes : List ClassDecl} {labels : ClassDecl → List String} {path : String} :
    path ∈ memberPaths classes labels ↔ ∃ c ∈ classes, ∃ l ∈ labels c, c.fullName ++ "." ++ l = path := by
  simp only [memberPaths, List.mem_flatMap, List.mem_map]

theorem map_path_fields (set : SymbolSet) :
    set.fields.map Symbol.path = memberPaths set.classes fun c => c.fields.map (·.name) := by
  simp only [SymbolSet.fields, memberPaths, List.map_flatMap, List.map_map]
  rfl

theorem map_path_methods (set : SymbolSet) :
    set.methods.map Symbol.path = memberPaths set.classes fun c => c.methods.map (·.signature) := by
  have hpath : ∀ c m, (Symbol.method m c).path = c.fullName ++ "." ++ m.signature := by
    simp [Symbol.path, MethodDecl.signature, String.append_assoc]
  simp only [SymbolSet.methods, memberPaths, List.map_flatMap, List.map_map, Function.comp_def, hpath]

/-- The path of a member tells the class and the label. -/
theorem eq_of_member_path_eq {c d : ClassDecl} {l l' : String} (hl : IsLabel l.toList) (hl' : IsLabel l'.toList)
    (hc : '(' ∉ c.fullName.toList) (hd : '(' ∉ d.fullName.toList)
    (h : c.fullName ++ "." ++ l = d.fullName ++ "." ++ l') : c.fullName = d.fullName ∧ l = l' := by
  have hchars : c.fullName.toList ++ '.' :: l.toList = d.fullName.toList ++ '.' :: l'.toList := by
    simpa using congrArg String.toList h
  obtain ⟨hcd, hll⟩ := hl.path_inj hl' hc hd hchars
  exact ⟨String.toList_injective hcd, String.toList_injective hll⟩

theorem nodup_memberPaths {classes : List ClassDecl} {labels : ClassDecl → List String}
    (hclasses : (classes.map (·.fullName)).Nodup) (hbracket : ∀ c ∈ classes, '(' ∉ c.fullName.toList)
    (hlabel : ∀ c ∈ classes, ∀ l ∈ labels c, IsLabel l.toList) (hlabels : ∀ c ∈ classes, (labels c).Nodup) :
    (memberPaths classes labels).Nodup := by
  rw [memberPaths, List.nodup_flatMap]
  constructor
  · intro c hc
    exact (hlabels c hc).map fun l l' h => (String.append_right_inj _).1 h
  · have hne : classes.Pairwise fun c d => c.fullName ≠ d.fullName := List.pairwise_map.1 hclasses
    refine hne.imp_of_mem fun {c d} hc hd hcd path hp hp' => ?_
    obtain ⟨l, hl, rfl⟩ := List.mem_map.1 hp
    obtain ⟨l', hl', h⟩ := List.mem_map.1 hp'
    have := eq_of_member_path_eq (hlabel d hd l' hl') (hlabel c hc l hl) (hbracket d hd) (hbracket c hc) h
    exact hcd this.1.symm

namespace SymbolSet.Tidy

variable {set : SymbolSet} (h : set.Tidy) {c : ClassDecl} (hc : c ∈ set.classes)

include h hc

theorem isLabel_field {l : String} (hl : l ∈ c.fields.map (·.name)) : IsLabel l.toList ∧ '(' ∉ l.toList := by
  obtain ⟨f, hf, rfl⟩ := List.mem_map.1 hl
  obtain ⟨hdot, hbr⟩ := h.fieldNames c hc f hf
  exact ⟨⟨f.name.toList, [], by simp, hdot, hbr, .inl rfl⟩, hbr⟩

theorem isLabel_method {l : String} (hl : l ∈ c.methods.map (·.signature)) : IsLabel l.toList ∧ '(' ∈ l.toList := by
  obtain ⟨m, hm, rfl⟩ := List.mem_map.1 hl
  obtain ⟨hdot, hbr⟩ := h.methodNames c hc m hm
  have hsplit : m.signature.toList =
      m.name.toList ++ '(' :: (String.intercalate "," (m.args.map TypeRef.text) ++ ")").toList := by
    simp [MethodDecl.signature]
  rw [hsplit]
  exact ⟨⟨_, _, rfl, hdot, hbr, .inr ⟨_, rfl⟩⟩, by simp⟩

theorem ne_member_path {name : String}
    (hname : name ∈ set.packages.map (·.fullName) ++ set.classes.map (·.fullName)) (label : String) :
    name ≠ c.fullName ++ "." ++ label := by
  rintro rfl
  refine h.outside c hc _ hname ⟨label.toList, ?_⟩
  simp

end SymbolSet.Tidy

/-- In a program with names as a compiler has them, paths tell symbols apart. -/
theorem SymbolSet.Tidy.nodup_paths {set : SymbolSet} (h : set.Tidy) (hclasses : (set.classes.map (·.fullName)).Nodup) :
    (set.symbols.map Symbol.path).Nodup := by
  have hpaths : set.symbols.map Symbol.path = (set.packages.map (·.fullName) ++ set.classes.map (·.fullName)) ++
      (set.fields.map Symbol.path ++ set.methods.map Symbol.path) := by
    simp only [SymbolSet.symbols, List.map_append, List.map_map, List.append_assoc]
    rfl
  rw [hpaths, map_path_fields, map_path_methods, List.nodup_append, List.nodup_append, List.nodup_append]
  refine ⟨⟨h.packages, hclasses, ?_⟩, ⟨?_, ?_, ?_⟩, ?_⟩
  · intro a ha b hb
    obtain ⟨q, hq, rfl⟩ := List.mem_map.1 ha
    obtain ⟨c, hc, rfl⟩ := List.mem_map.1 hb
    exact h.apart q hq c hc
  · exact nodup_memberPaths hclasses h.classNames (fun c hc l hl => (h.isLabel_field hc hl).1) h.fields
  · exact nodup_memberPaths hclasses h.classNames (fun c hc l hl => (h.isLabel_method hc hl).1) h.methods
  · intro a ha b hb heq
    obtain ⟨c, hc, l, hl, rfl⟩ := mem_memberPaths.1 ha
    obtain ⟨d, hd, l', hl', rfl⟩ := mem_memberPaths.1 hb
    -- The label of a method has a bracket, that of a field none.
    obtain ⟨hlabel, hno⟩ := h.isLabel_field hc hl
    obtain ⟨hlabel', hyes⟩ := h.isLabel_method hd hl'
    obtain ⟨-, rfl⟩ := eq_of_member_path_eq hlabel hlabel' (h.classNames c hc) (h.classNames d hd) heq
    exact hno hyes
  · intro a ha b hb
    obtain ⟨c, hc, l, rfl⟩ : ∃ c ∈ set.classes, ∃ l, c.fullName ++ "." ++ l = b := by
      rcases List.mem_append.1 hb with hb | hb
      all_goals
        obtain ⟨c, hc, l, -, he⟩ := mem_memberPaths.1 hb
        exact ⟨c, hc, l, he⟩
    exact h.ne_member_path hc ha l

/-- By settings in which nothing is wrong there is always a plan, and its entries are the renames of the symbols
that the pass decides to rename. Every entry is found by its path, and so is every alias, exactly when these
symbols have distinct paths. They do in a program with names as a compiler has them. The rename of a class is
found exactly when no package of its qualified name is renamed too. -/
theorem paths_identify_iff (packages : List PackageDecl) (classes : List ClassDecl) (m : Mode) (s : Settings)
    (h : s.Valid) :
    let set := SymbolSet.build packages classes
    let pass := (Pass.start set m ⟨s, h⟩).value
    let renamed := set.symbols.filter fun t => (pass.decide t).value
    ∃ outcome, planWith set m s = .ok outcome ∧
      outcome.value.entries = pass.namings.map Naming.entry ∧ pass.namings.map (·.symbol) = renamed ∧
      ((∀ e ∈ outcome.value.entries, outcome.value.get? e.path = some e) ↔ (renamed.map Symbol.path).Nodup) ∧
      ((renamed.map Symbol.path).Nodup →
        ∀ n ∈ pass.namings, outcome.value.alias? n.symbol.path = some n.chosen) ∧
      (set.Tidy → (renamed.map Symbol.path).Nodup) ∧
      (∀ n ∈ pass.namings, ∀ c, n.symbol = .cls c →
        (outcome.value.get? c.fullName = some n.entry ↔
          ∀ q ∈ set.packages, (pass.decide (.pkg q)).value = true → q.fullName ≠ c.fullName)) := by
  intro set pass renamed
  have hsymbols : pass.namings.map (·.symbol) = renamed := map_symbol_namings set m ⟨s, h⟩
  have hentries : (plan set m ⟨s, h⟩).value.entries = pass.namings.map Naming.entry := entries_plan set m ⟨s, h⟩
  have hclasses := SymbolSet.nodup_fullName_build packages classes
  have hfound : (∀ e ∈ (plan set m ⟨s, h⟩).value.entries, (plan set m ⟨s, h⟩).value.get? e.path = some e) ↔
      (renamed.map Symbol.path).Nodup := by
    rw [Plan.get?_path_iff (nodup_entries_plan set m ⟨s, h⟩), hentries, map_path_entry, hsymbols]
  refine ⟨_, planWith_of_valid set m h, hentries, hsymbols, hfound, fun hpaths n hn => ?_, fun htidy => ?_, ?_⟩
  · have hentry := hfound.2 hpaths n.entry (hentries ▸ List.mem_map_of_mem hn)
    have hget : (plan set m ⟨s, h⟩).value.get? n.symbol.path = some n.entry := hentry
    rw [Plan.alias?, hget]
    rfl
  · exact (htidy.nodup_paths hclasses).sublist (List.filter_sublist.map _)
  · exact fun n hn c hc => get?_class_iff hclasses m ⟨s, h⟩ hn hc

theorem paths_identify_iff_small :
    let p : Profile := ⟨{}, Settings.valid_default⟩
    let pass := (Pass.start smallProgram .balanced p).value
    ∃ outcome, planWith smallProgram .balanced {} = .ok outcome ∧ smallProgram.Tidy ∧
      (∀ e ∈ outcome.value.entries, outcome.value.get? e.path = some e) ∧
      ∀ n ∈ pass.namings, outcome.value.alias? n.symbol.path = some n.chosen := by
  intro p pass
  have htidy : smallProgram.Tidy := by constructor <;> decide +kernel
  obtain ⟨outcome, hplan, -, -, hfound, halias, hpaths, -⟩ := paths_identify_iff [PackageDecl.ofName "com"]
    [{ ClassDecl.ofName "com.ab.x" with
      fields := [{ name := "y", type := some .int }]
      methods := [{ name := "<init>" }, { name := "z" }] }] .balanced {} Settings.valid_default
  exact ⟨outcome, hplan, htidy, hfound.2 (hpaths htidy), halias (hpaths htidy)⟩

/-- A class beside a package of its qualified name. -/
def shadowedProgram : SymbolSet :=
  SymbolSet.build [] [ClassDecl.ofName "com.example.a", ClassDecl.ofName "com.example.a.c"]

/-- The plan renames the package and the class, and gives the package for the path of both. -/
theorem class_behind_package :
    ∃ outcome, planWith shadowedProgram .balanced {} = .ok outcome ∧
      ∃ e ∈ outcome.value.entries, e = ⟨.cls, "com.example.a", "a", "C0000a"⟩ ∧
        outcome.value.get? e.path = some ⟨.pkg, "com.example.a", "a", "p000a"⟩ := by
  refine ⟨_, planWith_of_valid _ _ Settings.valid_default, _, ?_, rfl, ?_⟩
  · decide +kernel
  · decide +kernel

end Unmask
