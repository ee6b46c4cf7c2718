import Unmask.Proofs.Walk
/-!
# The life of a pass

Before the walk a caller may ask a pass about single symbols, as often as it likes: whether a symbol would
be renamed, or to rename it at once. A `Session` is everything that one pass gives out, the answers to such
calls and the plan at the end.

Calls are a walk of their own (`serveAll_of_namer`): asking changes nothing, and renaming goes through the
same namer. So all aliases of a session come from one list of symbols named in order, and those of one kind
never repeat (`nodup_aliases_session`).
-/

namespace Unmask

/-- What a caller may ask of a pass. -/
inductive Call where
  /-- Whether the symbol is to be renamed. -/
  | decide (s : Symbol)
  /-- To rename the symbol now. -/
  | rename (s : Symbol)

/-- What a pass says to a call. -/
inductive Answer where
  | verdict (s : Symbol) (renames : Bool)
  | outcome (s : Symbol) (chosen? : Option String)

namespace Call

/-- The symbol that a call wants renamed. -/
def wanted? : Call → Option Symbol
  | decide _ => none
  | rename s => some s

end Call

namespace Answer

/-- The alias that an answer gives out. -/
def naming? : Answer → Option Naming
  | outcome s (some chosen) => some ⟨s, chosen⟩
  | _ => none

end Answer

namespace Pass

/-- Answers a call. -/
def serve (p : Pass) : Call → Logged (Answer × Pass)
  | .decide s => do
    let renames ← p.decide s
    pure (.verdict s renames, p)
  | .rename s => do
    let (chosen?, p) ← p.rename s
    pure (.outcome s chosen?, p)

/-- Answers calls, one after the other. -/
def serveAll (p : Pass) : List Call → Logged (List Answer × Pass)
  | [] => pure ([], p)
  | call :: rest => do
    let (answer, p) ← p.serve call
    let (answers, p) ← serveAll p rest
    pure (answer :: answers, p)

end Pass

/-- Everything that one pass gives out. -/
structure Session where
  /-- The answers to the calls before the walk. -/
  answers : List Answer
  plan : Plan

/-- The pass answers some calls and then makes its plan. -/
def Pass.session (p : Pass) (calls : List Call) : Logged Session := do
  let (answers, p) ← p.serveAll calls
  let plan ← p.run
  pure { answers, plan }

/-- A pass over a program from its start to its plan, with some calls in between. -/
def session (set : SymbolSet) (m : Mode) (p : Profile) (calls : List Call) : Logged Session := do
  let pass ← Pass.start set m p
  pass.session calls

/-- The aliases of a kind that a session gives out, by its answers and by its plan together. -/
def Session.aliases (s : Session) (k : Kind) : List String :=
  Naming.aliases k (s.answers.filterMap Answer.naming?) ++
    (s.plan.entries.filter (·.kind == k)).map (·.renamed)

/-! ## Calls name symbols in order -/

namespace Pass

theorem serveAll_cons (p : Pass) (call : Call) (rest : List Call) :
    (p.serveAll (call :: rest)).value =
      ((p.serve call).value.1 :: ((p.serve call).value.2.serveAll rest).value.1,
        ((p.serve call).value.2.serveAll rest).value.2) := rfl

/-- The symbols that calls get renamed. -/
def granted (p : Pass) (calls : List Call) : List Symbol := (calls.filterMap Call.wanted?).filter p.renames

theorem serve_value (p : Pass) (call : Call) :
    (∃ s namer, p.namer = some namer ∧ p.granted [call] = [s] ∧
      (p.serve call).value =
        (.outcome s (some (namer.name p.set s).value.1), { p with namer := some (namer.name p.set s).value.2 })) ∨
    ((p.granted [call] = [] ∨ p.namer = none) ∧ (p.serve call).value.2 = p ∧
      (p.serve call).value.1.naming? = none) := by
  cases call with
  | decide s => exact .inr ⟨.inl rfl, rfl, rfl⟩
  | rename s =>
    have hv : (p.serve (.rename s)).value = (.outcome s (p.rename s).value.1, (p.rename s).value.2) := rfl
    rw [hv]
    rcases p.rename_cases s with ⟨hr, namer, hn, hv⟩ | ⟨hr, hv⟩
    · exact .inl ⟨s, namer, hn, by simp [granted, Call.wanted?, hr], by rw [hv]⟩
    · refine .inr ⟨hr.imp_left fun hr => ?_, by rw [hv], by rw [hv]; rfl⟩
      simp [granted, Call.wanted?, hr]

/-- Calls name the symbols that they ask to rename and that the rules pick, in order. -/
theorem serveAll_of_namer {p : Pass} {namer : Namer} (h : p.namer = some namer) (calls : List Call) :
    (p.serveAll calls).value.1.filterMap Answer.naming? = (namer.nameAll p.set (p.granted calls)).1 ∧
      (p.serveAll calls).value.2 = { p with namer := some (namer.nameAll p.set (p.granted calls)).2 } := by
  -- As on the walk, a call changes the namer alone, and so never what the next calls are granted.
  induction calls generalizing p namer with
  | nil =>
    obtain ⟨set, mode, rules, _⟩ := p
    subst h
    exact ⟨rfl, rfl⟩
  | cons call rest ih =>
    have hsplit : p.granted (call :: rest) = p.granted [call] ++ p.granted rest := by
      rw [granted, ← List.singleton_append, List.filterMap_append, List.filter_append]
      rfl
    rw [serveAll_cons, hsplit]
    rcases p.serve_value call with ⟨s, n, hn, hg, hv⟩ | ⟨hg, hp, ha⟩
    · rw [h] at hn
      cases hn
      obtain ⟨ih₁, ih₂⟩ := ih (p := { p with namer := some (namer.name p.set s).value.2 }) rfl
      rw [hv, hg, List.singleton_append, Namer.nameAll_cons]
      exact ⟨congrArg (List.cons _) ih₁, ih₂⟩
    · have hg : p.granted [call] = [] := by simpa [h] using hg
      rw [hp, hg, List.nil_append, List.filterMap_cons_none ha]
      exact ih h

/-- A pass without a namer grants nothing. -/
theorem serveAll_of_no_namer {p : Pass} (h : p.namer = none) (calls : List Call) :
    (p.serveAll calls).value.1.filterMap Answer.naming? = [] ∧ (p.serveAll calls).value.2 = p := by
  induction calls with
  | nil => exact ⟨rfl, rfl⟩
  | cons call rest ih =>
    rw [serveAll_cons]
    rcases p.serve_value call with ⟨_, _, hn, -⟩ | ⟨-, hp, ha⟩
    · simp [h] at hn
    · rw [hp, List.filterMap_cons_none ha]
      exact ih

theorem session_value (p : Pass) (calls : List Call) :
    (p.session calls).value = ⟨(p.serveAll calls).value.1, (p.serveAll calls).value.2.run.value⟩ := rfl

/-- The aliases of a session are those of one list of symbols: the walk goes on with the namer that the
calls leave behind. -/
theorem aliases_session_of_namer {p : Pass} {namer : Namer} (h : p.namer = some namer)
    (hm : p.mode ≠ .disabled) (calls : List Call) (k : Kind) :
    (p.session calls).value.aliases k =
      Naming.aliases k (namer.nameAll p.set (p.granted calls ++ p.set.symbols.filter p.renames)).1 := by
  obtain ⟨hgiven, hpass⟩ := serveAll_of_namer h calls
  have hrun := value_run_of_namer (p := { p with namer := some (namer.nameAll p.set (p.granted calls)).2 })
    rfl hm
  rw [session_value, Session.aliases, hgiven, hpass]
  simp only [hrun]
  rw [Naming.aliases_entry, Namer.nameAll_append, Naming.aliases_append]
  rfl

theorem aliases_session_of_no_namer {p : Pass} (h : p.namer = none) (calls : List Call) (k : Kind) :
    (p.session calls).value.aliases k = [] := by
  obtain ⟨hnone, hpass⟩ := serveAll_of_no_namer h calls
  rw [session_value, Session.aliases, hnone, hpass, value_run_of_no_namer h]
  rfl

end Pass

/-! ## Aliases never repeat -/

/-- Over the whole life of a pass, the aliases it gives out for symbols of one kind are pairwise distinct,
whether they were asked for one by one or came with the plan. -/
theorem nodup_aliases_session (set : SymbolSet) (m : Mode) (p : Profile) (calls : List Call) (k : Kind) :
    ((session set m p calls).value.aliases k).Nodup := by
  have hsession : (session set m p calls).value = ((Pass.start set m p).value.session calls).value := rfl
  rw [hsession]
  rcases Pass.start_cases set m p with ⟨-, hs⟩ | ⟨hd, hs⟩
  · rw [hs, Pass.aliases_session_of_no_namer rfl]
    exact List.nodup_nil
  · rw [hs, Pass.aliases_session_of_namer rfl hd]
    exact Namer.nodup_aliases_nameAll _ set (p.nodup_taken_freshNamer _ k) _

end Unmask
