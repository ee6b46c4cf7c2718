import Mathlib.Algebra.GroupWithZero.Nat
import Unmask.Proofs.Resuming
/-!
# Numbers in aliases

A registry is forgotten at the end of a run, so over a chain of runs aliases are kept apart by their numbers alone.
That works where the number can be read back. A hint may open or end in digits, and then it cannot. Without hints
the digits of the number are the last ones of an alias: what follows is one of a few tags, none of which has a
digit, and what stands before ends in a mark, whatever the framework class in front of it is called
(`lastNumber_wish`).

So a namer without hints finds every wish free as long as its counter moves (`nameAll_of_hintless`), and the aliases
of a chain carry the numbers from its first seed on, one after the other (`Legs.map_lastNumber`). `hintless_chain` says
what follows for the aliases.
-/

namespace Unmask

/-! ## Reading numbers -/

namespace Text

/-- The number that the last digits of a text spell. -/
def lastNumber (s : String) : Nat :=
  Nat.ofDigitChars 10 ((s.toList.reverse.dropWhile (!·.isDigit)).takeWhile Char.isDigit).reverse 0

/-- Whether no character of the text is a digit. -/
def isDigitFree (s : String) : Bool := s.toList.all (!·.isDigit)

/-- Whether the text ends in something other than a digit. -/
def endsInMark (s : String) : Bool := s.toList.getLast?.any (!·.isDigit)

/-- The text is the number in decimal digits, maybe with zeros in front. -/
structure Spells (s : String) (n : Nat) : Prop where
  digits : ∀ c ∈ s.toList, c.isDigit = true
  nonempty : s.toList ≠ []
  value : Nat.ofDigitChars 10 s.toList 0 = n

theorem spells_repr (n : Nat) : Spells n.repr n := by
  refine ⟨fun c hc => ?_, ?_, ?_⟩
  · rw [Nat.toList_repr] at hc
    exact Nat.isDigit_of_mem_toDigits (by decide) (by decide) hc
  · rw [Nat.toList_repr]
    exact Nat.toDigits_ne_nil
  · rw [Nat.toList_repr, Nat.ofDigitChars_ten_toDigits]

theorem ofDigitChars_replicate_zero (k : Nat) : Nat.ofDigitChars 10 (List.replicate k '0') 0 = 0 := by
  induction k with
  | zero => rfl
  | succ k ih => rw [List.replicate_succ, Nat.ofDigitChars_cons]; exact ih

theorem spells_padded (least n : Nat) : Spells (Decimal.padded least n) n := by
  obtain ⟨hdigits, hne, hvalue⟩ := spells_repr n
  have hpadded : (Decimal.padded least n).toList =
      List.replicate (least - n.repr.length) '0' ++ n.repr.toList := by
    simp [Decimal.padded]
  refine ⟨fun c hc => ?_, ?_, ?_⟩
  · rw [hpadded, List.mem_append] at hc
    rcases hc with hc | hc
    · rw [List.eq_of_mem_replicate hc]
      decide
    · exact hdigits c hc
  · rw [hpadded]
    exact List.append_ne_nil_of_right_ne_nil _ hne
  · rw [hpadded, Nat.ofDigitChars_append, ofDigitChars_replicate_zero, hvalue]

theorem lastNumber_append {mark digits tail : String} {n : Nat} (hmark : endsInMark mark = true)
    (hdigits : Spells digits n) (htail : isDigitFree tail = true) : lastNumber (mark ++ digits ++ tail) = n := by
  obtain ⟨head, c, hc, hsplit⟩ : ∃ head c, c.isDigit = false ∧ mark.toList = head ++ [c] := by
    cases hl : mark.toList.getLast? with
    | none => simp [endsInMark, hl] at hmark
    | some c =>
      obtain ⟨head, he⟩ := List.getLast?_eq_some_iff.1 hl
      exact ⟨head, c, by simpa [endsInMark, hl] using hmark, he⟩
  have hrev : (mark ++ digits ++ tail).toList.reverse =
      tail.toList.reverse ++ (digits.toList.reverse ++ c :: head.reverse) := by
    simp [hsplit]
  have hskip : ∀ t ∈ tail.toList.reverse, (!t.isDigit) = true := by
    simpa [isDigitFree] using htail
  have htake : ∀ d ∈ digits.toList.reverse, d.isDigit = true := by
    simpa using hdigits.digits
  -- Seen from the end: the tail is skipped, and the digits end at the mark.
  have hstop : (digits.toList.reverse ++ c :: head.reverse).dropWhile (!·.isDigit) =
      digits.toList.reverse ++ c :: head.reverse := by
    cases hd : digits.toList.reverse with
    | nil => exact absurd (List.reverse_eq_nil_iff.1 hd) hdigits.nonempty
    | cons d ds =>
      have : d.isDigit = true := htake d (hd ▸ List.mem_cons_self)
      simp [this]
  rw [lastNumber, hrev, List.dropWhile_append_of_pos hskip, hstop, List.takeWhile_append_of_pos htake,
    List.takeWhile_cons_of_neg (by simp [hc]), List.append_nil, List.reverse_reverse, hdigits.value]

end Text

open Text

/-! ## Wishes without a hint -/

/-- Whether aliases of the style have no hint of the old name, those of packages apart. -/
def Style.isHintless : Style → Bool
  | .plain => false
  | .descriptive t => !t.keepHint

namespace Namer

variable (set : SymbolSet)

/-- What holds of all marks of a sort, and of what stands in their place, holds of the one that an alias has. -/
theorem ite_mark {marks : List String} {mark : String} (p : String → Bool) (on : Bool) (other : String)
    (hmem : mark ∈ marks) (h : ∀ m ∈ other :: marks, p m = true) : p (if on then mark else other) = true := by
  cases on with
  | true => exact h mark (List.mem_cons_of_mem _ hmem)
  | false => exact h other List.mem_cons_self

/-- The number of a wish without a hint can be read back. -/
theorem lastNumber_wish {namer : Namer} (h : namer.style.isHintless = true) {s : Symbol} (hk : s.kind ≠ .pkg)
    (n : UInt32) : lastNumber (namer.wish set s n) = n.toNat := by
  unfold wish
  cases hstyle : namer.style with
  | plain => simp [hstyle, Style.isHintless] at h
  | descriptive t =>
    have hhint : t.keepHint = false := by simpa [hstyle, Style.isHintless] using h
    cases s with
    | pkg p => exact absurd rfl hk
    | cls c =>
      have hmark : endsInMark (classMark t set c ++ "C") = true := by simp [endsInMark]
      have htag := ite_mark isDigitFree t.semanticTags "" (Alias.classTag_mem c) (by decide)
      simpa [descriptiveWish, hhint] using lastNumber_append hmark (spells_padded 4 n.toNat) htag
    | field f c =>
      have hmark := ite_mark endsInMark t.rolePrefixes "f" (Alias.fieldCode_mem f.type) (by decide)
      have htail : isDigitFree "" = true := by decide
      simpa [descriptiveWish, hhint] using lastNumber_append hmark (spells_repr n.toNat) htail
    | method m c =>
      have hmark := ite_mark endsInMark t.rolePrefixes "m" (Alias.methodRole_mem m) (by decide)
      have htag := ite_mark isDigitFree t.rolePrefixes "" (Alias.returnTag_mem m.returns) (by decide)
      simpa [descriptiveWish, hhint] using lastNumber_append hmark (spells_repr n.toNat) htag

/-! ## One run -/

/-- The wishes with which symbols come to the registry, one after the other. -/
def wishAll (set : SymbolSet) : Namer → List Symbol → List Naming
  | _, [] => []
  | namer, s :: rest => ⟨s, namer.nextWish set s⟩ :: wishAll set (namer.name set s).value.2 rest

/-- Where all names that are taken have smaller numbers, and the counter does not come to its end, symbols get what
the namer wishes for them, and the numbers follow one another. -/
theorem nameAll_of_hintless {namer : Namer} (h : namer.style.isHintless = true) {k : Kind} (hk : k ≠ .pkg)
    (hbelow : ∀ a ∈ namer.registry.taken.get k, lastNumber a < (namer.counters.get k).toNat) (ss : List Symbol)
    (hroom : (namer.counters.get k).toNat + ss.countP (·.kind == k) ≤ 4294967295) :
    (namer.nameAll set ss).1.filter (·.symbol.kind == k) = (namer.wishAll set ss).filter (·.symbol.kind == k) ∧
      (Naming.aliases k (namer.nameAll set ss).1).map lastNumber =
        List.range' (namer.counters.get k).toNat (ss.countP (·.kind == k)) := by
  induction ss generalizing namer with
  | nil => exact ⟨rfl, rfl⟩
  | cons s rest ih =>
    rw [nameAll_cons, wishAll]
    by_cases hs : s.kind = k
    · subst hs
      rw [List.countP_cons_of_pos (by simp)] at hroom ⊢
      have hnumber : lastNumber (namer.nextWish set s) = (namer.counters.get s.kind).toNat :=
        lastNumber_wish set h hk _
      have hfree : namer.nextWish set s ∉ namer.registry.taken.get s.kind := by
        intro hmem
        have := hbelow _ hmem
        omega
      have hchosen : (namer.name set s).value.1 = namer.nextWish set s := by
        rw [chosen_name]
        exact freeName_eq_self hfree
      have hcounter : ((namer.name set s).value.2.counters.get s.kind).toNat =
          (namer.counters.get s.kind).toNat + 1 := by
        rw [counters_name, Counters.get_next_self, Counters.toNat_succ]
        omega
      have hbelow' : ∀ a ∈ (namer.name set s).value.2.registry.taken.get s.kind,
          lastNumber a < ((namer.name set s).value.2.counters.get s.kind).toNat := by
        intro a ha
        rw [registry_name, Registry.taken_register_self, ← chosen_name, hchosen, List.mem_cons] at ha
        rw [hcounter]
        rcases ha with rfl | ha
        · omega
        · have := hbelow a ha
          omega
      obtain ⟨hsame, hnumbers⟩ := @ih (namer.name set s).value.2 h hbelow' (by omega)
      rw [hcounter] at hnumbers
      constructor
      · rw [List.filter_cons_of_pos (by simp), List.filter_cons_of_pos (by simp), hsame, hchosen]
      · rw [Naming.aliases_cons_self, List.map_cons, hnumbers, hchosen, hnumber, List.range'_succ]
    · -- A symbol of another kind touches neither the counter nor the names.
      have hcounter : (namer.name set s).value.2.counters.get k = namer.counters.get k := by
        rw [counters_name, Counters.get_next_of_ne _ (Ne.symm hs)]
      have htaken : (namer.name set s).value.2.registry.taken.get k = namer.registry.taken.get k := by
        rw [registry_name, Registry.taken_register_of_ne _ _ (Ne.symm hs)]
      rw [List.countP_cons_of_neg (by simpa using hs)] at hroom ⊢
      rw [List.filter_cons_of_neg (by simpa using hs), List.filter_cons_of_neg (by simpa using hs),
        Naming.aliases_cons_of_ne hs, ← hcounter]
      exact ih h (by rwa [hcounter, htaken]) (by rwa [hcounter])

end Namer

/-- The wishes of a whole walk, each with the symbol that it is for. -/
def Pass.wishes (p : Pass) : List Naming :=
  match p.namer with
  | none => []
  | some namer => namer.wishAll p.set (p.set.symbols.filter p.renames)

/-- The aliases that a plan gives to symbols of a kind, in order. -/
def Plan.aliases (plan : Plan) (k : Kind) : List String := (plan.entries.filter (·.kind == k)).map (·.renamed)

theorem count_plan (set : SymbolSet) (m : Mode) (p : Profile) (k : Kind) :
    (plan set m p).value.count k = (set.symbols.filter (Pass.start set m p).value.renames).countP (·.kind == k) := by
  rw [Plan.count, entries_plan, Naming.countP_entry, map_symbol_namings]

theorem filter_kind_entry (k : Kind) (ns : List Naming) :
    (ns.map Naming.entry).filter (·.kind == k) = (ns.filter (·.symbol.kind == k)).map Naming.entry :=
  List.filter_map

theorem plan_of_hintless {set : SymbolSet} {m : Mode} {p : Profile}
    (h : (p.style (p.resolve m set).value).isHintless = true) {k : Kind} (hk : k ≠ .pkg)
    (hroom : (p.settings.initialIndex.get k).toNat + (plan set m p).value.count k ≤ 4294967295) :
    (plan set m p).value.entries.filter (·.kind == k) =
        ((Pass.start set m p).value.wishes.filter (·.symbol.kind == k)).map Naming.entry ∧
      ((plan set m p).value.aliases k).map lastNumber =
        List.range' (p.settings.initialIndex.get k).toNat ((plan set m p).value.count k) ∧
      ((plan set m p).value.index.get k).toNat =
        (p.settings.initialIndex.get k).toNat + (plan set m p).value.count k := by
  rcases Pass.start_cases set m p with ⟨hd, -⟩ | ⟨hd, hs⟩
  · rw [hd] at h
    cases h
  have hbelow : ∀ a ∈ (p.freshNamer (p.resolve m set).value).registry.taken.get k,
      lastNumber a < ((p.freshNamer (p.resolve m set).value).counters.get k).toNat := by
    simp [Profile.freshNamer]
  obtain ⟨hsame, hnumbers⟩ := Namer.nameAll_of_hintless set h hk hbelow
    (set.symbols.filter (Pass.start set m p).value.renames) (by rwa [← count_plan])
  have hnamings : (Pass.start set m p).value.namings = ((p.freshNamer (p.resolve m set).value).nameAll set
      (set.symbols.filter (Pass.start set m p).value.renames)).1 := by
    rw [hs]
    rfl
  have hwishes : (Pass.start set m p).value.wishes = (p.freshNamer (p.resolve m set).value).wishAll set
      (set.symbols.filter (Pass.start set m p).value.renames) := by
    rw [hs]
    rfl
  rw [← hnamings] at hsame hnumbers
  rw [← hwishes] at hsame
  refine ⟨?_, ?_, ?_⟩
  · rw [entries_plan, filter_kind_entry, hsame]
  · rw [Plan.aliases, entries_plan, Naming.aliases_entry, count_plan]
    exact hnumbers
  · rw [index_plan set m p hd, Namer.toNat_counters_nameAll, ← count_plan]
    simp only [Profile.freshNamer]
    omega

/-! ## Chains -/

/-- Whether the job makes descriptive aliases without hints, which it does by its mode or by its settings. -/
def Job.IsHintless (job : Job) : Prop :=
  job.settings.descriptiveNames = true ∧
    (Mode.ofName? job.modeName = some .aggressive ∨
      Mode.ofName? job.modeName = some .enhanced ∧ job.settings.keepHint = false)

instance (job : Job) : Decidable job.IsHintless := inferInstanceAs (Decidable (_ ∧ _))

theorem Job.IsHintless.style {job : Job} (h : job.IsHintless) {mode : Mode} (hm : Mode.ofName? job.modeName = some mode)
    {seed : Option Counters} {p : Profile} (hp : p.settings = job.seeded seed) :
    (p.style (p.resolve mode job.set).value).isHintless = true := by
  have hnames : p.settings.descriptiveNames = true := by
    rw [hp]
    cases seed <;> exact h.1
  rw [p.value_resolve]
  rcases h.2 with hmode | ⟨hmode, hhint⟩
  · rw [hm] at hmode
    cases hmode
    simp [Profile.style, hnames, Style.isHintless]
  · rw [hm] at hmode
    cases hmode
    have hkeep : p.settings.keepHint = false := by
      rw [hp]
      cases seed <;> exact hhint
    simp [Profile.style, hnames, hkeep, Style.isHintless]

/-- Whether all symbols of the kind that the run renames get what its namer wishes for them. -/
def Leg.GrantsWishes (leg : Leg) (k : Kind) : Prop :=
  ∃ mode p, Mode.ofName? leg.job.modeName = some mode ∧ p.settings = leg.job.seeded (some leg.seed) ∧
    leg.plan = (Unmask.plan leg.job.set mode p).value ∧
    leg.plan.entries.filter (·.kind == k) =
      ((Pass.start leg.job.set mode p).value.wishes.filter (·.symbol.kind == k)).map Naming.entry

namespace Legs

/-- The aliases of a chain carry the numbers from its seed on, one after the other. -/
theorem map_lastNumber {start : Counters} {legs : List Leg} (hlegs : Legs (some start) legs)
    (h : ∀ leg ∈ legs, leg.job.IsHintless) {k : Kind} (hk : k ≠ .pkg)
    (hroom : (start.get k).toNat + (legs.map (·.plan.count k)).sum ≤ 4294967295) :
    (legs.flatMap (·.plan.aliases k)).map lastNumber =
        List.range' (start.get k).toNat (legs.map (·.plan.count k)).sum ∧
      ∀ leg ∈ legs, leg.GrantsWishes k := by
  induction legs generalizing start with
  | nil => exact ⟨rfl, by simp⟩
  | cons first rest ih =>
    cases hlegs with
    | @cons _ job outcome _ hrun hrest =>
      obtain ⟨mode, p, hm, hp, rfl⟩ := Job.eq_plan_of_run hrun
      have hseed : p.settings.initialIndex = start := by
        rw [hp]
        rfl
      have hhintless : job.IsHintless := h _ List.mem_cons_self
      simp only [List.map_cons, List.sum_cons] at hroom ⊢
      obtain ⟨hwishes, hnumbers, hindex⟩ := plan_of_hintless (hhintless.style hm hp) hk (by rw [hseed]; omega)
      rw [hseed] at hnumbers hindex
      -- The rest starts where this run ends, at the next number.
      obtain ⟨ihnumbers, ihwishes⟩ := ih hrest (fun leg hleg => h leg (List.mem_cons_of_mem _ hleg)) (by omega)
      constructor
      · rw [List.flatMap_cons, List.map_append, hnumbers, ihnumbers, hindex, List.range'_append_1]
      · rintro leg hleg
        rcases List.mem_cons.1 hleg with rfl | hleg
        · exact ⟨mode, p, hm, hp, rfl, hwishes⟩
        · exact ihwishes leg hleg

theorem reseed {seed : Option Counters} {first : Leg} {rest : List Leg} (h : Legs seed (first :: rest)) :
    Legs (some first.seed) (first :: rest) := by
  cases h with
  | @cons _ job outcome _ hrun hrest =>
    have hrun' : job.run (some (job.seeded seed).initialIndex) = .ok outcome := by
      cases seed <;> exact hrun
    exact .cons hrun' hrest

end Legs

/-- A chain of sound jobs without hints runs to its end. Where the counter of classes, of fields or of methods does
not come to its end on the way, the aliases of that kind are pairwise distinct over all plans together, and each is
what the namer wished for. -/
theorem hintless_chain (seed : Option Counters) (jobs : List Job) (h : ∀ job ∈ jobs, job.Sound ∧ job.IsHintless) :
    ∃ legs, Legs seed legs ∧ legs.map (·.job) = jobs ∧ (chain seed jobs).value = .ok (legs.map (·.plan)) ∧
      ∀ k, k ≠ .pkg →
        (∀ first ∈ legs.head?, (first.seed.get k).toNat + (legs.map (·.plan.count k)).sum ≤ 4294967295) →
        (legs.flatMap (·.plan.aliases k)).Nodup ∧ ∀ leg ∈ legs, leg.GrantsWishes k := by
  obtain ⟨legs, hlegs, hjobs, hchain⟩ := exists_legs seed jobs fun job hjob => (h job hjob).1
  refine ⟨legs, hlegs, hjobs, hchain, fun k hk hroom => ?_⟩
  cases legs with
  | nil => simp
  | cons first rest =>
    have hhintless : ∀ leg ∈ first :: rest, leg.job.IsHintless :=
      fun leg hleg => (h leg.job (hjobs ▸ List.mem_map_of_mem hleg)).2
    obtain ⟨hnumbers, hwishes⟩ := hlegs.reseed.map_lastNumber hhintless hk (hroom first rfl)
    refine ⟨List.Nodup.of_map lastNumber ?_, hwishes⟩
    rw [hnumbers]
    exact List.nodup_range'

/-- An activity of a framework that numbers its own classes, with a field and a method. -/
def numberedActivity : SymbolSet := SymbolSet.build []
  [{ ClassDecl.ofName "x.a" with
    super := some "android.app.Act2C0009"
    fields := [{ name := "b", type := some .int }]
    methods := [{ name := "c", returns := some .boolean }] }]

/-- Two runs over one program, by other marks. -/
def hintlessJobs : List Job := [
  { set := numberedActivity, modeName := "aggressive" },
  { set := numberedActivity, modeName := "Enhanced", settings := { keepHint := false, rolePrefixes := false } }]

theorem hintless_chain_twice :
    let seed : Counters := ⟨0, 9999, 7, 4294967293⟩
    (∀ job ∈ hintlessJobs, job.Sound ∧ job.IsHintless) ∧
      ∃ legs, Legs (some seed) legs ∧ legs.map (·.job) = hintlessJobs ∧
        ∀ k, k ≠ .pkg →
          (∀ first ∈ legs.head?, (first.seed.get k).toNat + (legs.map (·.plan.count k)).sum ≤ 4294967295) ∧
          (legs.flatMap (·.plan.aliases k)).Nodup ∧ ∀ leg ∈ legs, leg.GrantsWishes k := by
  intro seed
  have hjobs : ∀ job ∈ hintlessJobs, job.Sound ∧ job.IsHintless := by decide +kernel
  have hcounts : ∀ k ∈ [Kind.cls, .field, .method],
      (chain (some seed) hintlessJobs).value.toOption.map (fun plans => (plans.map (·.count k)).sum) = some 2 := by
    decide +kernel
  obtain ⟨legs, hlegs, hmap, hchain, hall⟩ := hintless_chain (some seed) hintlessJobs hjobs
  refine ⟨hjobs, legs, hlegs, hmap, fun k hk => ?_⟩
  have hroom : ∀ first ∈ legs.head?, (first.seed.get k).toNat + (legs.map (·.plan.count k)).sum ≤ 4294967295 := by
    have hcount := hcounts k (by cases k <;> simp at hk ⊢)
    have hsum : (legs.map (·.plan.count k)).sum = 2 := by
      simpa [hchain, Except.toOption, Function.comp_def] using hcount
    have hseed : (seed.get k).toNat ≤ 4294967293 := by
      cases k <;> decide
    intro first hfirst
    cases hlegs with
    | nil => cases hfirst
    | cons _ _ =>
      cases hfirst
      rw [hsum]
      exact Nat.add_le_add_right hseed 2
  exact ⟨hroom, hall k hk hroom⟩

end Unmask
