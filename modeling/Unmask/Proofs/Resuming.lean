import Unmask.Chain
import Unmask.Proofs.Walk
/-!
# Counters over a chain of runs

A chain hands the counters of a run on to the next one. A run that names symbols leaves each counter where it
found it or further on. A disabled run has no namer and so no counters of its own: it leaves all of them at
zero, wherever they stood (`initialIndex_le_index_iff`).

`Legs` are the runs of a chain with the counters from which each started. `resumed_counters` says that a chain
of sound jobs runs to its end, that a run of it moves no counter back exactly when it is not disabled or finds
all counters at zero, and that numbering never starts again while this holds. `restarted_chain` shows a chain
in which it does, and an alias comes twice.
-/

namespace Unmask

/-! ## Counters side by side -/

namespace PerKind

/-- One value for each kind is at most another where that holds kind by kind. -/
instance {α : Type} [LE α] : LE (PerKind α) := ⟨fun a b => ∀ k, a.get k ≤ b.get k⟩

theorem ext_get {α : Type} {a b : PerKind α} (h : ∀ k, a.get k = b.get k) : a = b := by
  obtain ⟨_, _, _, _⟩ := a
  obtain ⟨_, _, _, _⟩ := b
  congr 1
  · exact h .pkg
  · exact h .cls
  · exact h .field
  · exact h .method

end PerKind

namespace Counters

theorem le_trans {a b c : Counters} (hab : a ≤ b) (hbc : b ≤ c) : a ≤ c :=
  fun k => UInt32.le_trans (hab k) (hbc k)

theorem le_zero_iff {a : Counters} : a ≤ zero ↔ a = zero := by
  constructor
  · intro h
    refine PerKind.ext_get fun k => UInt32.le_antisymm (h k) ?_
    rw [zero, PerKind.get_replicate]
    exact UInt32.zero_le
  · rintro rfl k
    exact UInt32.le_refl _

end Counters

/-! ## One run -/

theorem initialIndex_le_index_iff (set : SymbolSet) (m : Mode) (p : Profile) :
    p.settings.initialIndex ≤ (plan set m p).value.index ↔
      ((p.resolve m set).value = .disabled → p.settings.initialIndex = Counters.zero) := by
  rcases Pass.start_cases set m p with ⟨hd, hs⟩ | ⟨hd, -⟩
  · -- Without a namer the counters are at zero, wherever they started.
    have hindex : (plan set m p).value.index = Counters.zero := by
      rw [plan_value, hs, Pass.value_run_of_no_namer rfl]
    rw [hindex, Counters.le_zero_iff]
    exact ⟨fun h _ => h, fun h => h hd⟩
  · refine ⟨fun _ h => absurd h hd, fun _ k => ?_⟩
    rw [UInt32.le_iff_toNat_le, index_plan set m p hd, Namer.toNat_counters_nameAll]
    -- Where the counter stops at the largest number, it started at or below that.
    have := (p.settings.initialIndex.get k).toNat_lt
    simp only [Profile.freshNamer]
    omega

theorem resolve_eq_disabled_iff (set : SymbolSet) (m : Mode) (p : Profile) :
    (p.resolve m set).value = .disabled ↔ m = .disabled := by
  rw [p.value_resolve]
  split
  · rename_i hm
    subst hm
    unfold Survey.recommended
    split_ifs <;> simp
  · rfl

theorem Profile.settings_of_ofSettings {s : Settings} {p : Profile} (h : ofSettings s = .ok p) : p.settings = s := by
  unfold ofSettings at h
  split at h
  · rw [← Except.ok.inj h]
  · cases h

namespace Job

/-- Whether nothing is wrong with the job: its mode can be read, and its settings are valid. -/
def Sound (job : Job) : Prop := (Mode.ofName? job.modeName).isSome = true ∧ job.settings.Valid

instance (job : Job) : Decidable job.Sound := inferInstanceAs (Decidable (_ ∧ _))

/-- Whether the job is to rename nothing. -/
def IsDormant (job : Job) : Prop := Mode.ofName? job.modeName = some .disabled

instance (job : Job) : Decidable job.IsDormant := inferInstanceAs (Decidable (_ = _))

theorem valid_seeded {job : Job} (h : job.settings.Valid) (seed : Option Counters) : (job.seeded seed).Valid := by
  cases seed <;> exact h

theorem run_of_sound {job : Job} (h : job.Sound) (seed : Option Counters) :
    ∃ mode, Mode.ofName? job.modeName = some mode ∧
      job.run seed = .ok (plan job.set mode ⟨job.seeded seed, valid_seeded h.2 seed⟩) := by
  obtain ⟨mode, hm⟩ := Option.isSome_iff_exists.1 h.1
  have hread : Mode.read job.modeName = .ok mode := by rw [Mode.read, hm]
  refine ⟨mode, hm, ?_⟩
  rw [run, hread]
  exact planWith_of_valid job.set mode _

theorem eq_plan_of_run {job : Job} {seed : Option Counters} {outcome : Logged Plan} (h : job.run seed = .ok outcome) :
    ∃ mode p, Mode.ofName? job.modeName = some mode ∧ p.settings = job.seeded seed ∧
      outcome = plan job.set mode p := by
  unfold run Mode.read planWith at h
  cases hm : Mode.ofName? job.modeName with
  | none => simp [hm] at h
  | some mode =>
    cases hp : Profile.ofSettings (job.seeded seed) with
    | error fault => simp [hm, hp] at h
    | ok p =>
      simp only [hm, hp, Except.ok.injEq] at h
      exact ⟨mode, p, rfl, Profile.settings_of_ofSettings hp, h.symm⟩

end Job

/-! ## The runs of a chain -/

/-- One run of a chain. -/
structure Leg where
  job : Job
  /-- The counters from which the run started. -/
  seed : Counters
  plan : Plan

/-- The runs of jobs one after the other, each from the counters that the run before it left. -/
inductive Legs : Option Counters → List Leg → Prop
  | nil {seed} : Legs seed []
  | cons {seed job outcome rest} (h : job.run seed = .ok outcome)
      (hrest : Legs (some outcome.value.index) rest) :
      Legs seed (⟨job, (job.seeded seed).initialIndex, outcome.value⟩ :: rest)

/-- A chain of sound jobs runs to its end. -/
theorem exists_legs (seed : Option Counters) (jobs : List Job) (h : ∀ job ∈ jobs, job.Sound) :
    ∃ legs, Legs seed legs ∧ legs.map (·.job) = jobs ∧ (chain seed jobs).value = .ok (legs.map (·.plan)) := by
  induction jobs generalizing seed with
  | nil => exact ⟨[], .nil, rfl, rfl⟩
  | cons job rest ih =>
    obtain ⟨mode, -, hrun⟩ := Job.run_of_sound (h job List.mem_cons_self) seed
    obtain ⟨legs, hlegs, hjobs, hchain⟩ :=
      ih (some (plan job.set mode ⟨job.seeded seed, _⟩).value.index) fun j hj => h j (List.mem_cons_of_mem _ hj)
    refine ⟨_, .cons hrun hlegs, by rw [List.map_cons, hjobs], ?_⟩
    rw [chain, hrun]
    simp [hchain, Except.map]

namespace Legs

theorem seed_le_index_iff {seed : Option Counters} {legs : List Leg} (h : Legs seed legs) :
    ∀ leg ∈ legs, leg.seed ≤ leg.plan.index ↔ (leg.job.IsDormant → leg.seed = Counters.zero) := by
  induction h with
  | nil => simp
  | @cons seed job outcome rest hrun _ ih =>
    rintro leg hleg
    rcases List.mem_cons.1 hleg with rfl | hleg
    · obtain ⟨mode, p, hm, hp, rfl⟩ := Job.eq_plan_of_run hrun
      simp only [← hp, initialIndex_le_index_iff, resolve_eq_disabled_iff, Job.IsDormant, hm, Option.some.injEq]
    · exact ih leg hleg

theorem le_seed {start : Counters} {legs : List Leg} (h : Legs (some start) legs)
    (hkeep : ∀ leg ∈ legs, leg.seed ≤ leg.plan.index) : ∀ leg ∈ legs, start ≤ leg.seed := by
  induction legs generalizing start with
  | nil => simp
  | cons first rest ih =>
    cases h with
    | cons hrun hrest =>
      rintro leg hleg
      rcases List.mem_cons.1 hleg with rfl | hleg
      · exact fun k => UInt32.le_refl _
      · -- The next run starts where the first one ends, which is not below where that one started.
        have hfirst := hkeep _ List.mem_cons_self
        have hlater := ih hrest (fun l hl => hkeep l (List.mem_cons_of_mem _ hl)) leg hleg
        exact Counters.le_trans hfirst hlater

theorem pairwise_index_le_seed {seed : Option Counters} {legs : List Leg} (h : Legs seed legs)
    (hkeep : ∀ leg ∈ legs, leg.seed ≤ leg.plan.index) :
    legs.Pairwise fun earlier later => earlier.plan.index ≤ later.seed := by
  induction h with
  | nil => exact .nil
  | @cons seed job outcome rest _ hrest ih =>
    have hkeep' : ∀ leg ∈ rest, leg.seed ≤ leg.plan.index := fun l hl => hkeep l (List.mem_cons_of_mem _ hl)
    exact .cons (hrest.le_seed hkeep') (ih hkeep')

end Legs

/-- A chain of sound jobs runs to its end. Each of its runs leaves all counters at or above those from which it
started, exactly when it is not disabled or found all counters at zero. Where all runs are so, numbering never
starts again: each run begins at or above the counters that any run before it left. -/
theorem resumed_counters (seed : Option Counters) (jobs : List Job) (h : ∀ job ∈ jobs, job.Sound) :
    ∃ legs, Legs seed legs ∧ legs.map (·.job) = jobs ∧ (chain seed jobs).value = .ok (legs.map (·.plan)) ∧
      (∀ leg ∈ legs, leg.seed ≤ leg.plan.index ↔ (leg.job.IsDormant → leg.seed = Counters.zero)) ∧
      ((∀ leg ∈ legs, leg.job.IsDormant → leg.seed = Counters.zero) →
        legs.Pairwise fun earlier later => earlier.plan.index ≤ later.seed) := by
  obtain ⟨legs, hlegs, hjobs, hchain⟩ := exists_legs seed jobs h
  refine ⟨legs, hlegs, hjobs, hchain, hlegs.seed_le_index_iff, fun hzero => ?_⟩
  exact hlegs.pairwise_index_le_seed fun leg hleg => (hlegs.seed_le_index_iff leg hleg).2 (hzero leg hleg)

/-- Two runs, the second in the mode that suits the program. -/
def resumedJobs : List Job := [{ set := smallProgram }, { set := smallProgram, modeName := " Auto" }]

theorem resumed_counters_twice :
    (∀ job ∈ resumedJobs, job.Sound) ∧
      ∃ legs, Legs (some ⟨7, 0, 4294967295, 2⟩) legs ∧ legs.map (·.job) = resumedJobs ∧
        (∀ leg ∈ legs, leg.seed ≤ leg.plan.index) ∧
        legs.Pairwise fun earlier later => earlier.plan.index ≤ later.seed := by
  have hsound : ∀ job ∈ resumedJobs, job.Sound := by decide +kernel
  have hawake : ∀ job ∈ resumedJobs, ¬ job.IsDormant := by decide +kernel
  obtain ⟨legs, hlegs, hjobs, -, hkeep, hpairs⟩ := resumed_counters (some ⟨7, 0, 4294967295, 2⟩) resumedJobs hsound
  have hzero : ∀ leg ∈ legs, leg.job.IsDormant → leg.seed = Counters.zero := by
    intro leg hleg hd
    exact absurd hd (hawake _ (hjobs ▸ List.mem_map_of_mem hleg))
  exact ⟨hsound, legs, hlegs, hjobs, fun leg hleg => (hkeep leg hleg).2 (hzero leg hleg), hpairs hzero⟩

/-- Two runs with a disabled one between them. -/
def restartedJobs : List Job := [
  { set := SymbolSet.build [] [ClassDecl.ofName "com.shop.a"] },
  { set := {}, modeName := "disabled" },
  { set := SymbolSet.build [] [ClassDecl.ofName "com.store.a"] }]

/-- A disabled run between others moves the counter of classes from one back to zero, so the run after it
gives out a number, and here an alias, once more. -/
theorem restarted_chain :
    (chain none restartedJobs).value.toOption.map
        (·.map fun plan => (plan.index.cls, plan.entries.map (·.renamed))) =
      some [(1, ["C0000a"]), (0, []), (1, ["C0000a"])] := by
  decide +kernel

end Unmask
