import Mathlib.Data.List.TakeWhile
import Unmask.Proofs.Rulings
/-!
# What the trace of a decision tells

Rules are asked in order and the first that forbids ends it, so which rules leave a record depends on their order.
The trace still tells the decision. It has a record for every rule that forces, as far as the rules were asked, and
ends with the one for the rule that forbids (`log_decide`). A symbol is renamed exactly when there are records and
none of them says that it is forbidden (`value_decide_iff_log`); the two sorts of records differ in their text, whatever
the symbol is called (`not_forbids_forcedRecord`).

The decision itself does not depend on the order. It is the same for any two lists that have the same rules apart from
those that say nothing (`value_decide_congr`).
-/

namespace Unmask

/-- Whether the record says that a rule forbids to rename the symbol. -/
def Record.forbids (s : Symbol) (r : Record) : Bool :=
  (s.text ++ ": rename forbidden by ").toList.isPrefixOf r.message.toList

namespace Rules

theorem forbids_forbiddenRecord (s : Symbol) (r : Rule) : (forbiddenRecord s r).forbids s = true := by
  simp [Record.forbids, forbiddenRecord, String.toList_append]

theorem not_forbids_forcedRecord (s : Symbol) (r : Rule) : ¬ (forcedRecord s r).forbids s = true := by
  -- Both texts open with the symbol, and part at `forb` and `forc`.
  simp only [Record.forbids, forcedRecord, String.toList_append, List.append_assoc, List.isPrefixOf_iff_prefix,
    List.prefix_append_right_inj]
  intro h
  simp at h

theorem log_ask (s : Symbol) (forced : Bool) (rules : Rules) :
    (ask s forced rules).log =
      ((rules.takeWhile (·.verdict s != .forbid)).filter (·.verdict s == .force)).map (forcedRecord s) ++
        (rules.find? (·.verdict s == .forbid)).toList.map (forbiddenRecord s) := by
  induction rules generalizing forced with
  | nil => rfl
  | cons r rest ih =>
    rw [ask]
    cases hv : r.verdict s with
    | abstain => simp [ih, hv]
    | force => simp [ih, hv]
    | forbid => simp [hv]

theorem log_decide (rules : Rules) (s : Symbol) :
    (rules.decide s).log =
      ((rules.takeWhile (·.verdict s != .forbid)).filter (·.verdict s == .force)).map (forcedRecord s) ++
        (rules.find? (·.verdict s == .forbid)).toList.map (forbiddenRecord s) :=
  log_ask s false rules

theorem log_decide_of_unforbidden {rules : Rules} {s : Symbol} (h : ∀ r ∈ rules, r.verdict s ≠ .forbid) :
    (rules.decide s).log = (rules.filter (·.verdict s == .force)).map (forcedRecord s) := by
  have hall : rules.takeWhile (·.verdict s != .forbid) = rules := by
    rw [List.takeWhile_eq_self_iff]
    simpa using h
  have hnone : rules.find? (·.verdict s == .forbid) = none := by
    rw [List.find?_eq_none]
    simpa using h
  rw [log_decide, hall, hnone]
  simp

theorem exists_forbids_iff (rules : Rules) (s : Symbol) :
    (∃ record ∈ (rules.decide s).log, record.forbids s = true) ↔ ∃ r ∈ rules, r.verdict s = .forbid := by
  constructor
  · rintro ⟨record, hrecord, hforbids⟩
    rw [log_decide, List.mem_append, List.mem_map, List.mem_map] at hrecord
    rcases hrecord with ⟨r, -, rfl⟩ | ⟨r, hr, -⟩
    · exact absurd hforbids (not_forbids_forcedRecord s r)
    · have hfound : rules.find? (·.verdict s == .forbid) = some r := by simpa using hr
      exact ⟨r, List.mem_of_find?_eq_some hfound, by simpa using List.find?_some hfound⟩
  · rintro ⟨r, hr, hv⟩
    obtain ⟨first, hfirst⟩ : ∃ first, rules.find? (·.verdict s == .forbid) = some first :=
      Option.isSome_iff_exists.1 (List.find?_isSome.2 ⟨r, hr, by simp [hv]⟩)
    refine ⟨forbiddenRecord s first, ?_, forbids_forbiddenRecord s first⟩
    rw [log_decide, hfirst]
    simp

theorem value_decide_iff_log (rules : Rules) (s : Symbol) :
    (rules.decide s).value = true ↔
      (rules.decide s).log ≠ [] ∧ ∀ record ∈ (rules.decide s).log, record.forbids s = false := by
  have hforbids := exists_forbids_iff rules s
  rw [value_decide_iff]
  constructor
  · rintro ⟨⟨r, hr, hv⟩, hnone⟩
    refine ⟨?_, fun record hrecord => ?_⟩
    · rw [log_decide_of_unforbidden hnone, ne_eq, List.map_eq_nil_iff, List.filter_eq_nil_iff]
      intro hsilent
      exact hsilent r hr (by simp [hv])
    · by_contra hne
      obtain ⟨q, hq, hqv⟩ := hforbids.1 ⟨record, hrecord, by simpa using hne⟩
      exact hnone q hq hqv
  · rintro ⟨hlog, hclear⟩
    have hnone : ∀ r ∈ rules, r.verdict s ≠ .forbid := by
      intro r hr hv
      obtain ⟨record, hrecord, hf⟩ := hforbids.2 ⟨r, hr, hv⟩
      rw [hclear record hrecord] at hf
      cases hf
    refine ⟨?_, hnone⟩
    rw [log_decide_of_unforbidden hnone, ne_eq, List.map_eq_nil_iff, List.filter_eq_nil_iff] at hlog
    simpa using hlog

/-- Only the rules that say something count, and not how often they come or in which order. -/
theorem value_decide_congr {rules rules' : Rules} {s : Symbol}
    (h : ∀ r, r.verdict s ≠ .abstain → (r ∈ rules ↔ r ∈ rules')) :
    (rules.decide s).value = (rules'.decide s).value := by
  have hforce : ∀ r, r.verdict s = .force → (r ∈ rules ↔ r ∈ rules') := fun r hr => h r (by simp [hr])
  have hforbid : ∀ r, r.verdict s = .forbid → (r ∈ rules ↔ r ∈ rules') := fun r hr => h r (by simp [hr])
  rw [Bool.eq_iff_iff, value_decide_iff, value_decide_iff]
  refine and_congr (exists_congr fun r => and_congr_left fun hr => hforce r hr) (forall_congr' fun r => ?_)
  constructor
  · intro hnone hmem hr
    exact hnone ((hforbid r hr).2 hmem) hr
  · intro hnone hmem hr
    exact hnone ((hforbid r hr).1 hmem) hr

end Rules

/-- Forbidding comes before forcing and forcing before silence, in whatever order the rules are asked: a symbol is
renamed exactly when some rule forces it and none forbids it. So neither the order of the rules counts, nor how often
they come, nor the rules that say nothing. The trace has one record for each rule that forces and stands before the
first that forbids, in order, and then one for that. It tells the decision: the symbol is renamed exactly when the
trace is not empty and says nowhere that a rule forbids it. -/
theorem traced_decision (rules : Rules) (s : Symbol) :
    let ruling := rules.decide s
    (ruling.value = true ↔ (∃ r ∈ rules, r.verdict s = .force) ∧ ∀ r ∈ rules, r.verdict s ≠ .forbid) ∧
    (∀ rules' : Rules, rules.Perm rules' → ruling.value = (rules'.decide s).value) ∧
    (∀ rules' : Rules, (∀ r, r.verdict s ≠ .abstain → (r ∈ rules ↔ r ∈ rules')) →
      ruling.value = (rules'.decide s).value) ∧
    ruling.log =
      ((rules.takeWhile (·.verdict s != .forbid)).filter (·.verdict s == .force)).map
          (fun r => ⟨.trace, s.text ++ ": rename forced by " ++ r.id⟩) ++
        (rules.find? (·.verdict s == .forbid)).toList.map
          (fun r => ⟨.trace, s.text ++ ": rename forbidden by " ++ r.id⟩) ∧
    (ruling.value = true ↔ ruling.log ≠ [] ∧ ∀ record ∈ ruling.log, record.forbids s = false) := by
  intro ruling
  refine ⟨Rules.value_decide_iff rules s, ?_, ?_, Rules.log_decide rules s, Rules.value_decide_iff_log rules s⟩
  · intro rules' hperm
    exact Rules.value_decide_congr fun r _ => hperm.mem_iff
  · intro rules' hsame
    exact Rules.value_decide_congr hsame

/-- A class of a short name that must stay, between rules that force it, forbid it and say nothing. -/
theorem traced_decision_kept :
    let s := Symbol.cls { ClassDecl.ofName "com.shop.a" with keep := true }
    let rules : Rules := [.length 3 64, .topLevelDomain, .base, .length 2 9]
    let rules' : Rules := [.base, .length 2 9, .base, .length 3 64]
    rules.Perm rules.reverse ∧ (rules.decide s).value = (Rules.decide rules.reverse s).value ∧
    (∀ r, r.verdict s ≠ .abstain → (r ∈ rules ↔ r ∈ rules')) ∧
    (rules.decide s).value = (rules'.decide s).value ∧
    (rules.decide s).log.map Record.text =
      ["TRACE class com.shop.a: rename forced by length", "TRACE class com.shop.a: rename forbidden by base"] ∧
    (rules'.decide s).log.map Record.text = ["TRACE class com.shop.a: rename forbidden by base"] := by
  intro s rules rules'
  have hperm : rules.Perm rules.reverse := (List.reverse_perm rules).symm
  have hsilent : Rule.topLevelDomain.verdict s = .abstain := by decide
  have hsame : ∀ r, r.verdict s ≠ .abstain → (r ∈ rules ↔ r ∈ rules') := by
    intro r hr
    have hne : r ≠ .topLevelDomain := by
      rintro rfl
      exact hr hsilent
    simp [rules, rules', hne]
    tauto
  obtain ⟨-, horder, hmembers, -⟩ := traced_decision rules s
  exact ⟨hperm, horder _ hperm, hsame, hmembers _ hsame, by decide +kernel, by decide +kernel⟩

end Unmask
