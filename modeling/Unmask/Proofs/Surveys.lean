import Mathlib.Data.List.Basic
import Mathlib.Data.List.Induction
import Unmask.Survey
/-!
# What surveys find

The vote is kept on a ballot, which lists the tools in the order in which they were first voted for. `cast` puts one
vote on it, and `tally` is the ballot after the last one (`tally_eq_foldl`). Then one tool after the other is held
against the leader. What a challenge preserves is `Leads`: the leader has more votes than any tool before it and no
fewer than any after it. So the tool that is left has most votes of all, and came first of those that have as many
(`plurality_eq_some_iff`).

The counts are those of a walk over the whole program: of every kind a survey counts the symbols that have a name of
their own, and among them those whose name looks obfuscated (`share_ofSet`).

Both can be had in one walk over the classes. A `Census` has the counters and the ballot as they stand after some
classes, and a visit moves them on (`Census.Holds.visit`, `Census.Holds.foldl`). What they amount to at the end is the
survey (`ofSet_eq_census`).
-/

namespace Unmask

theorem Logged.bind_assoc {α β γ : Type} (x : Logged α) (f : α → Logged β) (g : β → Logged γ) :
    x >>= f >>= g = x >>= fun a => f a >>= g :=
  congrArg (Logged.mk _) (List.append_assoc _ _ _)

theorem Logged.value_foldlM {α β : Type} (f : β → α → Logged β) (b : β) (l : List α) :
    (l.foldlM f b).value = l.foldl (fun b a => (f b a).value) b := by
  induction l generalizing b with
  | nil => rfl
  | cons a l ih => rw [List.foldlM_cons, Logged.value_bind, ih, List.foldl_cons]

namespace Survey

section Vote

variable {votes : List Tool} {t : Tool}

/-! ## The order of first votes -/

theorem eraseDups_concat (votes : List Tool) (t : Tool) :
    (votes ++ [t]).eraseDups = if t ∈ votes then votes.eraseDups else votes.eraseDups ++ [t] := by
  rw [List.eraseDups_append]
  by_cases h : t ∈ votes <;> simp [List.removeAll, h, List.eraseDups_cons]

/-- Tools stand on the ballot in the order in which they were first voted for. -/
theorem pairwise_eraseDups (votes : List Tool) :
    votes.eraseDups.Pairwise (fun t u => votes.idxOf t < votes.idxOf u) := by
  induction votes using List.reverseRecOn with
  | nil => simp
  | append_singleton votes t ih =>
    have hold : votes.eraseDups.Pairwise (fun u v => (votes ++ [t]).idxOf u < (votes ++ [t]).idxOf v) := by
      refine ih.imp_of_mem fun hu hv hlt => ?_
      rw [List.idxOf_append_of_mem (List.mem_eraseDups.1 hu), List.idxOf_append_of_mem (List.mem_eraseDups.1 hv)]
      exact hlt
    rw [eraseDups_concat]
    split_ifs with h
    · exact hold
    · refine List.pairwise_append.2 ⟨hold, List.pairwise_singleton _ _, ?_⟩
      intro u hu v hv
      rw [List.mem_eraseDups] at hu
      rw [List.mem_singleton.1 hv, List.idxOf_append_of_mem hu, List.idxOf_append_of_notMem h]
      have := List.idxOf_lt_length_iff.2 hu
      omega

theorem nodup_eraseDups (votes : List Tool) : votes.eraseDups.Nodup :=
  (pairwise_eraseDups votes).imp fun hlt he => absurd hlt (by rw [he]; exact Nat.lt_irrefl _)

/-! ## The ballot, vote by vote -/

/-- Puts one more vote on a ballot. A tool that has none yet comes last. -/
def cast : List (Tool × Nat) → Tool → List (Tool × Nat)
  | [], t => [(t, 1)]
  | (u, n) :: rest, t => if u = t then (u, n + 1) :: rest else (u, n) :: cast rest t

theorem cast_of_not_mem {tools : List Tool} (h : t ∉ tools) (count : Tool → Nat) :
    cast (tools.map fun u => (u, count u)) t = tools.map (fun u => (u, count u)) ++ [(t, 1)] := by
  induction tools with
  | nil => rfl
  | cons u tools ih =>
    rw [List.mem_cons, not_or] at h
    rw [List.map_cons, cast, if_neg (Ne.symm h.1), ih h.2, List.cons_append]

theorem cast_of_mem {tools : List Tool} (hnodup : tools.Nodup) (h : t ∈ tools) (count : Tool → Nat) :
    cast (tools.map fun u => (u, count u)) t = tools.map fun u => (u, count u + if u = t then 1 else 0) := by
  induction tools with
  | nil => simp at h
  | cons u tools ih =>
    rw [List.nodup_cons] at hnodup
    rw [List.map_cons, cast, List.map_cons]
    by_cases hu : u = t
    · subst hu
      have hrest : ∀ v ∈ tools, (v, count v) = (v, count v + if v = u then 1 else 0) := by
        intro v hv
        have hne : v ≠ u := fun he => hnodup.1 (he ▸ hv)
        rw [if_neg hne, Nat.add_zero]
      rw [if_pos rfl, if_pos rfl, List.map_congr_left hrest]
    · rw [if_neg hu, if_neg hu, ih hnodup.2 ((List.mem_cons.1 h).resolve_left (Ne.symm hu)), Nat.add_zero]

/-- With one more vote, the ballot is the old one with that vote on it. -/
theorem tally_concat (votes : List Tool) (t : Tool) : tally (votes ++ [t]) = cast (tally votes) t := by
  have hcount : ∀ u, (votes ++ [t]).count u = votes.count u + if u = t then 1 else 0 := by
    intro u
    simp only [List.count_append, List.count_singleton, beq_iff_eq, eq_comm (a := t)]
  unfold tally
  rw [eraseDups_concat]
  split_ifs with h
  · rw [cast_of_mem (nodup_eraseDups votes) (List.mem_eraseDups.2 h)]
    simp only [hcount]
  · have hnot : t ∉ votes.eraseDups := fun hmem => h (List.mem_eraseDups.1 hmem)
    have hold : ∀ u ∈ votes.eraseDups, (u, (votes ++ [t]).count u) = (u, votes.count u) := by
      intro u hu
      have hne : u ≠ t := fun he => hnot (he ▸ hu)
      rw [hcount, if_neg hne, Nat.add_zero]
    rw [cast_of_not_mem hnot, List.map_append, List.map_congr_left hold]
    simp [hcount, List.count_eq_zero_of_not_mem h]

theorem tally_eq_foldl (votes : List Tool) : tally votes = votes.foldl cast [] := by
  induction votes using List.reverseRecOn with
  | nil => rfl
  | append_singleton votes t ih => rw [tally_concat, List.foldl_append, ← ih, List.foldl_cons, List.foldl_nil]

/-! ## The leader -/

/-- The leader of a ballot has more votes than any tool before it and no fewer than any after it. An empty ballot has
none. -/
def Leads (ballot : List (Tool × Nat)) : Option (Tool × Nat) → Prop
  | none => ballot = []
  | some leader =>
    ∃ before after, ballot = before ++ leader :: after ∧ (∀ e ∈ before, e.2 < leader.2) ∧ ∀ e ∈ after, e.2 ≤ leader.2

theorem Leads.challenge {ballot : List (Tool × Nat)} {leader : Option (Tool × Nat)} (h : Leads ballot leader)
    (entry : Tool × Nat) : Leads (ballot ++ [entry]) (challenge leader entry).value := by
  cases leader with
  | none =>
    obtain rfl : ballot = [] := h
    exact ⟨[], [], rfl, by simp, by simp⟩
  | some leader =>
    obtain ⟨before, after, rfl, hbefore, hafter⟩ := h
    by_cases hlt : leader.2 < entry.2
    · have hvalue : (Survey.challenge (some leader) entry).value = some entry := by
        simp [Survey.challenge, hlt]
      rw [hvalue]
      refine ⟨before ++ leader :: after, [], rfl, ?_, by simp⟩
      intro e he
      rcases List.mem_append.1 he with he | he
      · exact Nat.lt_trans (hbefore e he) hlt
      · rcases List.mem_cons.1 he with rfl | he
        · exact hlt
        · exact Nat.lt_of_le_of_lt (hafter e he) hlt
    · have hvalue : (Survey.challenge (some leader) entry).value = some leader := by
        simp only [Survey.challenge, if_neg hlt]
        split_ifs <;> rfl
      rw [hvalue]
      refine ⟨before, after ++ [entry], by simp, hbefore, ?_⟩
      intro e he
      rcases List.mem_append.1 he with he | he
      · exact hafter e he
      · rw [List.mem_singleton.1 he]
        omega

theorem leads_foldlM (ballot : List (Tool × Nat)) : Leads ballot (ballot.foldlM challenge none).value := by
  rw [Logged.value_foldlM]
  induction ballot using List.reverseRecOn with
  | nil => rfl
  | append_singleton ballot entry ih =>
    rw [List.foldl_append, List.foldl_cons, List.foldl_nil]
    exact ih.challenge entry

/-! ## The winner -/

/-- A tool wins a vote if it was voted for, no tool was voted for more often, and any other that was voted for as
often was first voted for later. -/
structure Wins (votes : List Tool) (t : Tool) : Prop where
  voted : t ∈ votes
  most : ∀ u, votes.count u ≤ votes.count t
  first : ∀ u ≠ t, votes.count u = votes.count t → votes.idxOf t < votes.idxOf u

theorem Wins.unique {u : Tool} (ht : Wins votes t) (hu : Wins votes u) : t = u := by
  by_contra hne
  have hcount : votes.count u = votes.count t := Nat.le_antisymm (ht.most u) (hu.most t)
  have := ht.first u (Ne.symm hne) hcount
  have := hu.first t hne hcount.symm
  omega

theorem mem_tally {n : Nat} : (t, n) ∈ tally votes ↔ t ∈ votes ∧ votes.count t = n := by
  simp only [tally, List.mem_map, List.mem_eraseDups, Prod.mk.injEq]
  constructor
  · rintro ⟨u, hu, rfl, rfl⟩
    exact ⟨hu, rfl⟩
  · rintro ⟨ht, rfl⟩
    exact ⟨t, ht, rfl, rfl⟩

theorem tally_eq_nil : tally votes = [] ↔ votes = [] := by
  rw [tally, List.map_eq_nil_iff]
  constructor
  · intro h
    rw [List.eq_nil_iff_forall_not_mem]
    intro t ht
    rw [← List.mem_eraseDups, h] at ht
    simp at ht
  · rintro rfl
    rfl

theorem Leads.wins {n : Nat} (h : Leads (tally votes) (some (t, n))) : Wins votes t := by
  obtain ⟨before, after, hballot, hbefore, hafter⟩ := h
  have hentry : (t, n) ∈ tally votes := by rw [hballot]; simp
  obtain ⟨hvoted, rfl⟩ := mem_tally.1 hentry
  -- Where a tool with votes stands on the ballot says how it compares with the leader.
  have hplace : ∀ u ∈ votes, votes.count u < votes.count t ∨ u = t ∨ (u, votes.count u) ∈ after := by
    intro u hu
    have hmem : (u, votes.count u) ∈ tally votes := mem_tally.2 ⟨hu, rfl⟩
    rw [hballot, List.mem_append, List.mem_cons] at hmem
    rcases hmem with hmem | hmem | hmem
    · exact .inl (hbefore _ hmem)
    · exact .inr (.inl (Prod.mk.inj hmem).1)
    · exact .inr (.inr hmem)
  refine ⟨hvoted, fun u => ?_, fun u hne hcount => ?_⟩
  · by_cases hu : u ∈ votes
    · rcases hplace u hu with hlt | rfl | hmem
      · omega
      · exact Nat.le_refl _
      · exact hafter _ hmem
    · rw [List.count_eq_zero_of_not_mem hu]
      exact Nat.zero_le _
  · have hu : u ∈ votes := by
      rw [← List.count_pos_iff, hcount]
      exact List.count_pos_iff.2 hvoted
    rcases hplace u hu with hlt | rfl | hmem
    · omega
    · exact absurd rfl hne
    · have horder : (tally votes).Pairwise (fun d e => votes.idxOf d.1 < votes.idxOf e.1) :=
        List.pairwise_map.2 (pairwise_eraseDups votes)
      rw [hballot] at horder
      exact List.rel_of_pairwise_cons (List.pairwise_append.1 horder).2.1 hmem

theorem plurality_eq (votes : List Tool) :
    (votes = [] ∧ (plurality votes).value = none) ∨ ∃ t, Wins votes t ∧ (plurality votes).value = some t := by
  have hleads := leads_foldlM (tally votes)
  have hvalue : (plurality votes).value = ((tally votes).foldlM challenge none).value.map (·.1) := rfl
  cases hleader : ((tally votes).foldlM challenge none).value with
  | none =>
    rw [hleader] at hleads hvalue
    exact .inl ⟨tally_eq_nil.1 hleads, hvalue⟩
  | some leader =>
    rw [hleader] at hleads hvalue
    exact .inr ⟨leader.1, hleads.wins, hvalue⟩

theorem plurality_eq_none_iff : (plurality votes).value = none ↔ votes = [] := by
  rcases plurality_eq votes with ⟨rfl, hvalue⟩ | ⟨t, hwins, hvalue⟩
  · simp [hvalue]
  · simpa [hvalue] using List.ne_nil_of_mem hwins.voted

theorem plurality_eq_some_iff : (plurality votes).value = some t ↔ Wins votes t := by
  rcases plurality_eq votes with ⟨rfl, hvalue⟩ | ⟨u, hwins, hvalue⟩
  · rw [hvalue]
    exact ⟨nofun, fun h => absurd h.voted (by simp)⟩
  · rw [hvalue, Option.some.injEq]
    constructor
    · rintro rfl
      exact hwins
    · exact hwins.unique

end Vote

/-! ## The counts -/

/-- Whether a survey counts a symbol. Constructors have no name of their own, and synthetic methods have the one that
the compiler gave them. -/
def counts : Symbol → Bool
  | .pkg _ => false
  | .cls _ | .field _ _ => true
  | .method m _ => !(m.isConstructor || m.access.isSynthetic)

/-- The symbols of a kind that a survey counts, in the order of a walk. -/
def counted (set : SymbolSet) (kind : Kind) : List Symbol :=
  set.symbols.filter fun s => s.kind = kind && counts s

/-- What a survey found about a kind. -/
def share (s : Survey) : Kind → Share
  | .pkg => {}
  | .cls => s.classes
  | .field => s.fields
  | .method => s.methods

theorem map_name_counted (set : SymbolSet) (kind : Kind) :
    (counted set kind).map Symbol.name =
      match kind with
      | .pkg => []
      | .cls => set.classes.map (·.name)
      | .field => set.classes.flatMap fun c => c.fields.map (·.name)
      | .method => set.classes.flatMap methodNames := by
  have hmethods : methodNames = fun c : ClassDecl =>
      (c.methods.filter fun m => !m.isConstructor && !m.access.isSynthetic).map (·.name) := by
    funext c
    simp [methodNames]
  unfold counted SymbolSet.symbols SymbolSet.fields SymbolSet.methods
  cases kind <;>
    simp [List.filter_flatMap, List.filter_map, List.map_flatMap, Function.comp_def, Symbol.kind, counts, Symbol.name,
      hmethods]

theorem share_ofSet (k : Classifier) (set : SymbolSet) {kind : Kind} (h : kind ≠ .pkg) :
    (ofSet k set).value.share kind = Share.ofNames k ((counted set kind).map Symbol.name) := by
  rw [map_name_counted]
  cases kind with
  | pkg => exact absurd rfl h
  | cls | field | method => rfl

theorem votes_eq (k : Classifier) (set : SymbolSet) :
    votes k set = ((set.classes.map (·.name)).filter k.isLikelyObfuscated).filterMap k.tool? := by
  rw [votes, List.filterMap_filter, List.filterMap_map]
  rfl

/-! ## One walk for all -/

/-- How many names were met, and how many of them look obfuscated. -/
structure Count where
  total : Nat := 0
  obfuscated : Nat := 0

namespace Count

/-- Counts one more name. -/
def note (k : Classifier) (n : Count) (name : String) : Count :=
  ⟨n.total + 1, if k.isLikelyObfuscated name then n.obfuscated + 1 else n.obfuscated⟩

/-- What there is to count in some names. -/
def ofNames (k : Classifier) (names : List String) : Count := ⟨names.length, names.countP k.isLikelyObfuscated⟩

/-- The share that the counts amount to. -/
def share (n : Count) : Share := Share.ofCounts n.obfuscated n.total

theorem note_ofNames (k : Classifier) (names : List String) (name : String) :
    (ofNames k names).note k name = ofNames k (names ++ [name]) := by
  simp only [note, ofNames, List.length_append, List.length_singleton, List.countP_append, List.countP_singleton]
  split_ifs <;> rfl

theorem foldl_note (k : Classifier) (names more : List String) :
    more.foldl (note k) (ofNames k names) = ofNames k (names ++ more) := by
  induction more generalizing names with
  | nil => rw [List.foldl_nil, List.append_nil]
  | cons name rest ih => rw [List.foldl_cons, note_ofNames, ih, List.append_assoc, List.singleton_append]

end Count

/-- The counters and the ballot of a walk over classes. -/
structure Census where
  classes : Count := {}
  fields : Count := {}
  methods : Count := {}
  ballot : List (Tool × Nat) := []

namespace Census

/-- Counts a class, its fields and those of its methods that have a name of their own, and lets the class vote. -/
def visit (k : Classifier) (t : Census) (c : ClassDecl) : Census where
  classes := t.classes.note k c.name
  fields := c.fields.foldl (fun n f => n.note k f.name) t.fields
  methods := c.methods.foldl
    (fun n m => if m.isConstructor || m.access.isSynthetic then n else n.note k m.name) t.methods
  ballot :=
    if k.isLikelyObfuscated c.name then
      match k.tool? c.name with
      | some tool => cast t.ballot tool
      | none => t.ballot
    else t.ballot

/-- The census of a program. -/
def ofSet (k : Classifier) (set : SymbolSet) : Census := set.classes.foldl (visit k) {}

/-- The survey that a census amounts to. -/
def survey (t : Census) : Logged Survey := do
  let leader ← t.ballot.foldlM challenge none
  pure {
    classes := t.classes.share
    methods := t.methods.share
    fields := t.fields.share
    tool := leader.map (·.1)
    overallRate :=
      Share.percent (t.classes.obfuscated + t.methods.obfuscated + t.fields.obfuscated)
        (t.classes.total + t.methods.total + t.fields.total) }

/-- The counters hold what there is to count in some classes, and the ballot has their votes. -/
structure Holds (k : Classifier) (t : Census) (seen : List ClassDecl) : Prop where
  classes : t.classes = Count.ofNames k (seen.map (·.name))
  fields : t.fields = Count.ofNames k (seen.flatMap fun c => c.fields.map (·.name))
  methods : t.methods = Count.ofNames k (seen.flatMap methodNames)
  ballot : t.ballot = (votes k { classes := seen }).foldl cast []

variable {k : Classifier} {t : Census} {seen : List ClassDecl}

theorem methods_visit (t : Census) (c : ClassDecl) :
    (t.visit k c).methods = (methodNames c).foldl (Count.note k) t.methods := by
  simp only [visit, methodNames, List.foldl_map, List.foldl_filter]
  congr 1
  funext n m
  cases m.isConstructor || m.access.isSynthetic <;> rfl

theorem ballot_visit (t : Census) (c : ClassDecl) :
    (t.visit k c).ballot = (votes k { classes := [c] }).foldl cast t.ballot := by
  simp only [visit, votes, List.filterMap_cons, List.filterMap_nil]
  split_ifs
  · cases k.tool? c.name <;> rfl
  · rfl

theorem Holds.visit (h : t.Holds k seen) (c : ClassDecl) : (t.visit k c).Holds k (seen ++ [c]) where
  classes := by
    rw [List.map_append, List.map_singleton, ← Count.note_ofNames, ← h.classes]
    rfl
  fields := by
    rw [List.flatMap_append, List.flatMap_singleton, ← Count.foldl_note, ← h.fields, List.foldl_map]
    rfl
  methods := by
    rw [List.flatMap_append, List.flatMap_singleton, ← Count.foldl_note, ← h.methods, methods_visit]
  ballot := by
    have hvotes : votes k { classes := seen ++ [c] } = votes k { classes := seen } ++ votes k { classes := [c] } :=
      List.filterMap_append
    rw [hvotes, List.foldl_append, ← h.ballot, ballot_visit]

theorem Holds.foldl (h : t.Holds k seen) (rest : List ClassDecl) :
    (rest.foldl (Census.visit k) t).Holds k (seen ++ rest) := by
  induction rest generalizing t seen with
  | nil => rwa [List.append_nil]
  | cons c rest ih =>
    rw [List.append_cons]
    exact ih (h.visit c)

theorem holds_ofSet (k : Classifier) (set : SymbolSet) : (ofSet k set).Holds k set.classes := by
  have hempty : Holds k {} [] := ⟨rfl, rfl, rfl, rfl⟩
  exact hempty.foldl set.classes

end Census

theorem ofSet_eq_census (k : Classifier) (set : SymbolSet) : ofSet k set = (Census.ofSet k set).survey := by
  obtain ⟨hclasses, hfields, hmethods, hballot⟩ := Census.holds_ofSet k set
  have htally : (Census.ofSet k set).ballot = tally (votes k set) := hballot.trans (tally_eq_foldl _).symm
  unfold Census.survey ofSet plurality
  rw [hclasses, hfields, hmethods, htally, Logged.bind_assoc]
  rfl

/-- The tool of a survey is the winner of the vote in which every class name that looks obfuscated votes for the tool
it points to, if it does to any. The counts of a survey are the numbers of classes, of fields, and of methods that are
neither constructors nor synthetic, and the numbers of names among these that look obfuscated. A survey is what one walk
over the classes finds that counts and collects votes on the way. -/
theorem tool_and_counts (k : Classifier) (set : SymbolSet) :
    let s := (ofSet k set).value
    let ballot := ((set.classes.map (·.name)).filter k.isLikelyObfuscated).filterMap k.tool?
    ofSet k set = (Census.ofSet k set).survey ∧
      (s.tool = none ↔ ballot = []) ∧ (∀ t, s.tool = some t ↔ Wins ballot t) ∧
      ∀ kind ∈ [Kind.cls, .field, .method],
        (s.share kind).total = (counted set kind).length ∧
        (s.share kind).obfuscated = (counted set kind).countP (k.isLikelyObfuscated ·.name) ∧
        (s.share kind).obfuscated ≤ (s.share kind).total := by
  intro s ballot
  have htool : s.tool = (plurality ballot).value := by
    change (plurality (votes k set)).value = _
    rw [votes_eq]
  refine ⟨ofSet_eq_census k set, htool ▸ plurality_eq_none_iff, fun t => htool ▸ plurality_eq_some_iff, ?_⟩
  intro kind hkind
  have hshare : s.share kind = Share.ofNames k ((counted set kind).map Symbol.name) :=
    share_ofSet k set (by rintro rfl; simp at hkind)
  have htotal : (s.share kind).total = (counted set kind).length := by
    rw [hshare]
    exact List.length_map _
  have hobfuscated : (s.share kind).obfuscated = (counted set kind).countP (k.isLikelyObfuscated ·.name) := by
    rw [hshare]
    exact List.countP_map
  refine ⟨htotal, hobfuscated, ?_⟩
  rw [htotal, hobfuscated]
  exact List.countP_le_length

end Survey

end Unmask
