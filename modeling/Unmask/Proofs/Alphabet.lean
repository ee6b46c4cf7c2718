import Unmask.Proofs.Walk
/-!
# The alphabet of aliases

An alias is glued together from marks, numbers, tags, hints, the separator and one more number. Every one of
these is plain (ASCII letters, digits, `_` and `$`) whatever the names of the program are made of, with a
single exception: the name of the framework class from which a class descends is taken over as it stands. So
an alias is plain unless it shows such a name with another character in it (`isPlainText_wish`), and a plan
is plain exactly when no class that it renames descends from one (`plan_plain_iff`). No alias is empty.
-/

namespace Unmask

namespace Text

/-- Whether a text is made of plain characters. -/
def isPlainText (s : String) : Bool := s.toList.all isPlain

@[simp] theorem isPlainText_empty : isPlainText "" = true := by decide

@[simp] theorem isPlainText_append (a b : String) :
    isPlainText (a ++ b) = (isPlainText a && isPlainText b) := by
  simp [isPlainText]

@[simp] theorem isPlainText_ofList (cs : List Char) : isPlainText (String.ofList cs) = cs.all isPlain := by
  simp [isPlainText]

/-! ## Numbers and digests -/

theorem isPlain_of_isDigit {c : Char} (h : c.isDigit = true) : isPlain c = true := by
  simp [isPlain, Char.isAlphanum, h]

@[simp] theorem isPlainText_repr (n : Nat) : isPlainText n.repr = true := by
  rw [isPlainText, List.all_eq_true]
  intro c hc
  rw [Nat.toList_repr] at hc
  exact isPlain_of_isDigit (Nat.isDigit_of_mem_toDigits (by decide) (by decide) hc)

@[simp] theorem isPlainText_padded (least n : Nat) : isPlainText (Decimal.padded least n) = true := by
  have hzero : isPlain '0' = true := by decide
  simp [Decimal.padded, hzero]

theorem isPlain_digitChar : ∀ n < 16, isPlain (Nat.digitChar n) = true := by decide

theorem all_isPlain_hex (b : UInt8) : (Digest.hex b).all isPlain = true := by
  have hb := b.toNat_lt
  simp [Digest.hex, isPlain_digitChar (b.toNat / 16) (by omega), isPlain_digitChar (b.toNat % 16) (by omega)]

@[simp] theorem isPlainText_short (s : String) : isPlainText (Digest.short s) = true := by
  rw [Digest.short, isPlainText_ofList, List.all_flatMap]
  exact List.all_eq_true.2 fun b _ => all_isPlain_hex b

end Text

open Text

/-! ## Hints and marks -/

namespace Alias

@[simp] theorem isPlainText_hint (maxLength : Nat) (name : String) :
    isPlainText (hint maxLength name) = true := by
  unfold hint
  split_ifs
  · exact isPlainText_empty
  · have hx : isPlainText "x" = true := by decide
    simp [hx]
  · rw [sanitize, isPlainText_ofList, List.all_filter]
    simp

@[simp] theorem isPlainText_classTag (c : ClassDecl) : isPlainText (classTag c) = true := by
  have htags : ∀ tag ∈ classTags, isPlainText tag = true := by decide
  exact htags _ (classTag_mem c)

@[simp] theorem isPlainText_fieldCode (type : Option TypeRef) : isPlainText (fieldCode type) = true := by
  have hcodes : ∀ code ∈ fieldCodes, isPlainText code = true := by decide
  exact hcodes _ (fieldCode_mem type)

@[simp] theorem isPlainText_methodRole (m : MethodDecl) : isPlainText (methodRole m) = true := by
  have hroles : ∀ role ∈ methodRoles, isPlainText role = true := by decide
  exact hroles _ (methodRole_mem m)

@[simp] theorem isPlainText_returnTag (type : Option TypeRef) : isPlainText (returnTag type) = true := by
  have htags : ∀ tag ∈ returnTags, isPlainText tag = true := by decide
  exact htags _ (returnTag_mem type)

/-- A class that is something by its own declaration needs no ancestry. -/
theorem frameworkBase_of_own (set : SymbolSet) {c : ClassDecl} {base : String} (h : ownBase? c = some base) :
    frameworkBase set c = base := by
  rw [frameworkBase, baseAmong, h]

end Alias

/-! ## Aliases -/

/-- Whether aliases of the style show what a class descends from. An enumeration is nothing else. -/
def Style.showsBase : Style → ClassDecl → Bool
  | .plain, _ => false
  | .descriptive t, c => t.frameworkBases && !c.access.isEnum

/-- Whether what the style takes over as it stands for an alias of the symbol is plain. -/
def Style.borrowsPlain (style : Style) (set : SymbolSet) : Symbol → Bool
  | .cls c => !style.showsBase c || isPlainText (Alias.frameworkBase set c)
  | .pkg _ | .field _ _ | .method _ _ => true

namespace Namer

theorem isPlainText_plainClassMark (c : ClassDecl) : isPlainText (plainClassMark c) = true := by
  unfold plainClassMark
  split_ifs <;> decide

theorem isPlainText_classMark (t : Traits) (set : SymbolSet) (c : ClassDecl) :
    isPlainText (classMark t set c) = (Style.descriptive t).borrowsPlain set (.cls c) := by
  have hrole : isPlainText (if t.rolePrefixes then
      if c.access.isInterface then "I" else if c.access.isAbstract then "Abstract" else "" else "") = true := by
    split_ifs <;> decide
  simp only [classMark, Style.borrowsPlain, Style.showsBase]
  cases c.access.isEnum
  · rw [if_neg (by decide), isPlainText_append, hrole]
    cases t.frameworkBases <;> simp
  · have henum : isPlainText "Enum" = true := by decide
    cases t.rolePrefixes <;> simp [henum]

theorem isPlainText_plainWish (maxLength : Nat) (s : Symbol) (n : Nat) :
    isPlainText (plainWish maxLength s n) = true := by
  have hmarks : isPlainText "p" = true ∧ isPlainText "C" = true ∧ isPlainText "f" = true ∧
      isPlainText "m" = true := by decide
  cases s <;> simp [plainWish, hmarks, isPlainText_plainClassMark]

theorem isPlainText_descriptiveWish (t : Traits) (maxLength : Nat) (set : SymbolSet) (s : Symbol) (n : Nat) :
    isPlainText (descriptiveWish t maxLength set s n) = (Style.descriptive t).borrowsPlain set s := by
  have hmarks : isPlainText "pkg" = true ∧ isPlainText "C" = true ∧ isPlainText "f" = true ∧
      isPlainText "m" = true := by decide
  have hhint : isPlainText (if t.keepHint then Alias.hint maxLength s.name else "") = true := by
    split <;> simp
  cases s with
  | pkg p => simp [descriptiveWish, Style.borrowsPlain, hmarks]
  | cls c =>
    have htag : isPlainText (if t.semanticTags then Alias.classTag c else "") = true := by split <;> simp
    simp only [descriptiveWish, isPlainText_append, isPlainText_classMark, isPlainText_padded, hmarks, htag,
      hhint, Bool.and_true]
  | field f c =>
    have hcode : isPlainText (if t.rolePrefixes then Alias.fieldCode f.type else "f") = true := by
      split <;> simp [hmarks]
    simp [descriptiveWish, Style.borrowsPlain, hcode, hhint]
  | method m c =>
    have hrole : isPlainText (if t.rolePrefixes then Alias.methodRole m else "m") = true := by
      split <;> simp [hmarks]
    have htag : isPlainText (if t.rolePrefixes then Alias.returnTag m.returns else "") = true := by
      split <;> simp
    simp [descriptiveWish, Style.borrowsPlain, hrole, htag, hhint]

/-- A wish is plain exactly where all is plain that it takes over as it stands. -/
theorem isPlainText_wish (namer : Namer) (set : SymbolSet) (s : Symbol) (n : UInt32) :
    isPlainText (namer.wish set s n) = namer.style.borrowsPlain set s := by
  rw [wish]
  cases namer.style with
  | plain =>
    rw [isPlainText_plainWish]
    cases s <;> rfl
  | descriptive t => exact isPlainText_descriptiveWish t namer.maxLength set s n.toNat

theorem wish_ne_empty (namer : Namer) (set : SymbolSet) (s : Symbol) (n : UInt32) :
    namer.wish set s n ≠ "" := by
  rw [wish]
  cases namer.style <;> cases s <;>
    simp [plainWish, descriptiveWish, String.append_eq_empty_iff]

end Namer

theorem isPlainText_freeName {separator : String} (h : isPlainText separator = true) (wish : String)
    (taken : List String) : isPlainText (freeName separator wish taken) = isPlainText wish := by
  by_cases hm : wish ∈ taken
  · obtain ⟨n, -, he, -⟩ := freeName_of_mem separator hm
    simp [he, numberedName, h]
  · rw [freeName_eq_self hm]

theorem freeName_ne_empty (separator : String) {wish : String} (h : wish ≠ "") (taken : List String) :
    freeName separator wish taken ≠ "" := by
  by_cases hm : wish ∈ taken
  · obtain ⟨n, -, he, -⟩ := freeName_of_mem separator hm
    simp [he, numberedName, String.append_eq_empty_iff, h]
  · rw [freeName_eq_self hm]
    exact h

/-! ## Plans -/

theorem Settings.Valid.isPlainText_separator {s : Settings} (h : s.Valid) :
    isPlainText s.separator = true := by
  unfold Settings.Valid Settings.fault? at h
  split_ifs at h with _ _ _ _ hsep
  simpa [isPlainText] using hsep

/-- The aliases of a walk are not empty, and plain exactly where all is plain that they take over. -/
theorem namings_plain (set : SymbolSet) (m : Mode) (p : Profile) :
    ∀ n ∈ (Pass.start set m p).value.namings, n.chosen ≠ "" ∧
      isPlainText n.chosen = (p.style (p.resolve m set).value).borrowsPlain set n.symbol := by
  intro n hn
  obtain ⟨number, taken, hc⟩ := chosen_namings set m p n hn
  rw [hc, isPlainText_freeName p.valid.isPlainText_separator, Namer.isPlainText_wish]
  exact ⟨freeName_ne_empty _ (Namer.wish_ne_empty _ _ _ _) _, rfl⟩

theorem mem_symbols_cls {set : SymbolSet} {c : ClassDecl} : Symbol.cls c ∈ set.symbols ↔ c ∈ set.classes := by
  simp [SymbolSet.symbols, SymbolSet.fields, SymbolSet.methods]

/-- The aliases of a plan are plain exactly when every class that it renames descends from a framework class
with a plain name, as far as aliases show that. -/
theorem entries_plain_iff (set : SymbolSet) (m : Mode) (p : Profile) :
    (∀ e ∈ (plan set m p).value.entries, isPlainText e.renamed = true) ↔
      ∀ c ∈ set.classes, (Pass.start set m p).value.renames (.cls c) = true →
        (p.style (p.resolve m set).value).showsBase c = true →
        isPlainText (Alias.frameworkBase set c) = true := by
  have hentry : (∀ e ∈ (plan set m p).value.entries, isPlainText e.renamed = true) ↔
      ∀ s ∈ set.symbols.filter (Pass.start set m p).value.renames,
        (p.style (p.resolve m set).value).borrowsPlain set s = true := by
    rw [entries_plan, ← map_symbol_namings, List.forall_mem_map, List.forall_mem_map]
    exact forall₂_congr fun n hn => by rw [← (namings_plain set m p n hn).2]; rfl
  rw [hentry]
  constructor
  · intro h c hc hr hb
    have := h (.cls c) (List.mem_filter.2 ⟨mem_symbols_cls.2 hc, hr⟩)
    simpa [Style.borrowsPlain, hb] using this
  · intro h s hs
    obtain ⟨hmem, hr⟩ := List.mem_filter.1 hs
    cases s with
    | cls c =>
      cases hb : (p.style (p.resolve m set).value).showsBase c with
      | false => simp [Style.borrowsPlain, hb]
      | true => simp [Style.borrowsPlain, h c (mem_symbols_cls.1 hmem) hr hb]
    | pkg _ | field _ _ | method _ _ => rfl

/-- By settings in which nothing is wrong there is always a plan. Its aliases are not empty, and those of
packages, fields and methods are plain. All of them are plain exactly when every class that the plan renames,
and whose alias shows from which framework class it descends, descends from one with a plain name. -/
theorem plan_plain_iff (set : SymbolSet) (m : Mode) (s : Settings) (h : s.Valid) :
    ∃ outcome, planWith set m s = .ok outcome ∧
      (∀ e ∈ outcome.value.entries, e.renamed ≠ "" ∧ (e.kind ≠ .cls → isPlainText e.renamed = true)) ∧
      ((∀ e ∈ outcome.value.entries, isPlainText e.renamed = true) ↔
        ∀ c ∈ set.classes, ((Pass.start set m ⟨s, h⟩).value.decide (.cls c)).value = true →
          (Profile.style ⟨s, h⟩ outcome.value.mode).showsBase c = true →
          isPlainText (Alias.frameworkBase set c) = true) := by
  refine ⟨_, planWith_of_valid set m h, ?_, entries_plain_iff set m ⟨s, h⟩⟩
  rw [entries_plan, List.forall_mem_map]
  intro n hn
  obtain ⟨hne, hplain⟩ := namings_plain set m ⟨s, h⟩ n hn
  refine ⟨hne, fun hk => hplain.trans ?_⟩
  cases hs : n.symbol with
  | cls c => exact absurd (by simp [Naming.entry, Entry.ofSymbol, hs, Symbol.kind]) hk
  | pkg _ | field _ _ | method _ _ => rfl

/-- A class that descends from a framework class with an accent in its name. -/
def accentedClass : ClassDecl :=
  { ClassDecl.ofName "com.example.a" with super := some "android.app.Activit\u00e9" }

theorem plan_plain_iff_accented :
    ∃ h : Settings.Valid {}, ∃ outcome,
      planWith (SymbolSet.build [] [accentedClass]) .enhanced {} = .ok outcome ∧
      (∀ e ∈ outcome.value.entries, e.renamed ≠ "" ∧ (e.kind ≠ .cls → isPlainText e.renamed = true)) ∧
      ((∀ e ∈ outcome.value.entries, isPlainText e.renamed = true) ↔
        ∀ c ∈ (SymbolSet.build [] [accentedClass]).classes,
          ((Pass.start (SymbolSet.build [] [accentedClass]) .enhanced ⟨{}, h⟩).value.decide (.cls c)).value
            = true →
          (Profile.style ⟨{}, h⟩ outcome.value.mode).showsBase c = true →
          isPlainText (Alias.frameworkBase (SymbolSet.build [] [accentedClass]) c) = true) :=
  ⟨Settings.valid_default, plan_plain_iff _ .enhanced {} Settings.valid_default⟩

/-- The accent comes through into the plan. -/
theorem accented_alias_not_plain :
    ∃ outcome, planWith (SymbolSet.build [] [accentedClass]) .enhanced {} = .ok outcome ∧
      ∃ e ∈ outcome.value.entries, isPlainText e.renamed = false := by
  refine ⟨_, planWith_of_valid _ _ Settings.valid_default, ?_⟩
  by_contra hall
  -- Were all of the plan plain, so would be the framework class, and it is not.
  have hplain := (entries_plain_iff _ _ _).1 fun e he => by simpa using fun hf => hall ⟨e, he, hf⟩
  have hbase : Alias.frameworkBase (SymbolSet.build [] [accentedClass]) accentedClass =
      "Activit\u00e9" := Alias.frameworkBase_of_own _ (by decide +kernel)
  have := hplain accentedClass (by decide +kernel) (by decide +kernel) (by decide +kernel)
  rw [hbase] at this
  exact absurd this (by decide)

end Unmask
