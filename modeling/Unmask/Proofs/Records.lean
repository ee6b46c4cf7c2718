import Unmask.Proofs.Protection
import Unmask.Proofs.Traces
/-!
# The log of a run

A run leaves records at three levels. What rules say goes to the trace; above it stands what comes of that. These
records are made in three places: the namer makes one when it gives a name, the pass one when it has a rename, and
the run one at its end. Together they are an account of the plan (`account_of_run`): two records for each entry, in
order, then the summary, and not a word about a symbol that stays.

One step of the walk leaves the records of its entry, if it has one (`notable_rename`), and a whole walk those of its
entries (`notable_renameAll`).
-/

namespace Unmask

/-- The records that are shown to a reader who does not ask for traces. -/
def notable (log : List Record) : List Record := log.filter fun r => Level.debug.shows r.level

theorem notable_append (log log' : List Record) : notable (log ++ log') = notable log ++ notable log' :=
  List.filter_append ..

/-- The records of one rename. -/
def Entry.records (e : Entry) : List Record :=
  [⟨.debug, e.kind.id ++ " alias " ++ e.renamed⟩, ⟨.debug, "rename " ++ e.text⟩]

theorem notable_log_decide (rules : Rules) (s : Symbol) : notable (rules.decide s).log = [] := by
  rw [notable, List.filter_eq_nil_iff, Rules.log_decide]
  intro record hrecord
  rw [List.mem_append, List.mem_map, List.mem_map] at hrecord
  rcases hrecord with ⟨r, -, rfl⟩ | ⟨r, -, rfl⟩ <;> exact Bool.false_ne_true

theorem Namer.log_name (namer : Namer) (set : SymbolSet) (s : Symbol) :
    (namer.name set s).log = [⟨.debug, s.kind.id ++ " alias " ++ (namer.name set s).value.1⟩] := rfl

namespace Pass

theorem notable_decide (p : Pass) (s : Symbol) : notable (p.decide s).log = [] := by
  unfold decide
  split
  · rfl
  · exact notable_log_decide _ s

theorem notable_rename (p : Pass) (s : Symbol) :
    notable (p.rename s).log = ((p.rename s).value.1.toList.map (Entry.ofSymbol s)).flatMap Entry.records := by
  unfold rename
  rw [Logged.log_bind, notable_append, notable_decide, Logged.value_bind, List.nil_append]
  split
  · simp [Namer.log_name, notable, Level.shows, Level.rank, Entry.records, Entry.ofSymbol, Entry.text, Symbol.text,
      String.append_assoc]
  · rfl

theorem log_renameAll_cons (p : Pass) (s : Symbol) (rest : List Symbol) :
    (p.renameAll (s :: rest)).log = (p.rename s).log ++ ((p.rename s).value.2.renameAll rest).log := by
  rw [renameAll]
  simp

theorem notable_renameAll (p : Pass) (ss : List Symbol) :
    notable (p.renameAll ss).log = (p.renameAll ss).value.1.flatMap Entry.records := by
  induction ss generalizing p with
  | nil => rfl
  | cons s rest ih =>
    rw [log_renameAll_cons, notable_append, notable_rename, ih, renameAll_cons, List.flatMap_append]

theorem log_run (p : Pass) :
    p.run.log = (p.renameAll (if p.mode.isEnabled then p.set.symbols else [])).log ++
      [⟨.info, p.run.value.summary p.set.classes.length⟩] := rfl

theorem notable_run (p : Pass) :
    notable p.run.log =
      p.run.value.entries.flatMap Entry.records ++ [⟨.info, p.run.value.summary p.set.classes.length⟩] := by
  rw [log_run, notable_append, notable_renameAll]
  rfl

theorem log_run_of_disabled {p : Pass} (h : p.mode = .disabled) :
    p.run.log = [⟨.info, p.run.value.summary p.set.classes.length⟩] := by
  rw [log_run, h]
  rfl

theorem set_after (set : SymbolSet) (m : Mode) (p : Profile) (calls : List Call) :
    (after set m p calls).set = set := by
  rcases after_cases set m p calls with ⟨-, hp⟩ | ⟨-, _, hp⟩ <;> rw [hp]

end Pass

/-- What a run puts on record above the trace, after any calls to the pass, is an account of its plan: for every entry
in order the name that the namer gave and the rename that came of it, and at the end how much was renamed. A symbol
that is not renamed leaves no such record, and a disabled run leaves the last record alone. -/
theorem account_of_run (set : SymbolSet) (m : Mode) (p : Profile) (calls : List Call) :
    let pass := Pass.after set m p calls
    let plan := pass.run.value
    let closing : Record := ⟨.info, "Rename plan (" ++ plan.mode.id ++ "): " ++ toString (plan.count .cls) ++ " of " ++
      toString set.classes.length ++ " classes renamed, " ++ toString plan.entries.length ++ " renames total"⟩
    (pass.run.log.filter fun r => Level.debug.shows r.level) =
      (plan.entries.flatMap fun e => [⟨.debug, e.kind.id ++ " alias " ++ e.renamed⟩, ⟨.debug, "rename " ++ e.text⟩]) ++
        [closing] ∧
    (∀ s, ((pass.rename s).log.filter fun r => Level.debug.shows r.level) = [] ↔ (pass.rename s).value.1 = none) ∧
    (plan.mode = .disabled → pass.run.log = [closing]) := by
  intro pass plan closing
  have hclosing : closing = ⟨.info, plan.summary pass.set.classes.length⟩ := by
    rw [Pass.set_after]
    rfl
  refine ⟨?_, fun s => ?_, fun hmode => ?_⟩
  · rw [hclosing]
    exact pass.notable_run
  · have hrename := pass.notable_rename s
    rw [notable] at hrename
    rw [hrename]
    cases (pass.rename s).value.1 <;> simp [Entry.records]
  · rw [hclosing]
    exact Pass.log_run_of_disabled hmode

/-- A run after a call that took the first number of a class, and a disabled run. -/
theorem account_of_run_small :
    let p := Profile.preset .balanced
    let busy := Pass.after smallProgram .balanced p [.rename (.cls (ClassDecl.ofName "com.ab.x"))]
    let dormant := Pass.after smallProgram .disabled p []
    (dormant.run.value.mode = .disabled ∧
      dormant.run.log = [⟨.info, "Rename plan (disabled): 0 of 1 classes renamed, 0 renames total"⟩]) ∧
    (busy.run.log.filter fun r => Level.debug.shows r.level).map Record.text =
      ["DEBUG package alias p000ab", "DEBUG rename package com.ab -> p000ab",
        "DEBUG class alias C0001x", "DEBUG rename class com.ab.x -> C0001x",
        "DEBUG field alias f0y", "DEBUG rename field com.ab.x.y -> f0y",
        "DEBUG method alias m0z", "DEBUG rename method com.ab.x.z() -> m0z",
        "INFO Rename plan (default): 1 of 1 classes renamed, 4 renames total"] := by
  intro p busy dormant
  obtain ⟨-, -, hlast⟩ := account_of_run smallProgram .disabled p []
  have hmode : dormant.run.value.mode = .disabled := rfl
  refine ⟨⟨hmode, (hlast hmode).trans ?_⟩, by decide +kernel⟩
  decide +kernel

end Unmask
