import Unmask.Proofs.Collisions
import Unmask.Proofs.Numbering
/-!
# Aliases that can be declared

Every alias has a digit in it, and no reserved word has one. So an alias that is plain and opens with a letter can be
declared (`isIdentifier_of_opening`), and it needs no more than its opening to see that: what a registry puts at the
end changes neither. Marks open with a letter, all but the name of a framework class, which is taken over as it
stands. Where no such name comes first, an alias can be declared (`plan_identifiers`), whatever characters the names
of the program are made of.
-/

namespace Unmask

namespace Text

/-- Whether the text opens with an ASCII letter. -/
def opensInLetter (s : String) : Bool := s.toList.head?.any Char.isAlpha

theorem opensInLetter_append {a : String} (h : opensInLetter a = true) (b : String) :
    opensInLetter (a ++ b) = true := by
  unfold opensInLetter at h ⊢
  rw [String.toList_append]
  cases ha : a.toList with
  | nil => simp [ha] at h
  | cons c r => simpa [ha] using h

theorem isDigitFree_append (a b : String) : isDigitFree (a ++ b) = (isDigitFree a && isDigitFree b) := by
  simp [isDigitFree]

theorem Spells.not_isDigitFree {s : String} {n : Nat} (h : Spells s n) : isDigitFree s = false := by
  obtain ⟨hdigits, hne, -⟩ := h
  obtain ⟨c, hc⟩ := List.exists_mem_of_ne_nil _ hne
  rw [isDigitFree, List.all_eq_false]
  exact ⟨c, hc, by simp [hdigits c hc]⟩

/-! ## Plain characters in identifiers -/

theorem toNat_lt_of_isPlain {c : Char} (h : isPlain c = true) : c.toNat < 0x80 := by
  delta isPlain Char.isAlphanum Char.isAlpha Char.isUpper Char.isLower Char.isDigit at h
  simp only [Bool.or_eq_true, Bool.and_eq_true, decide_eq_true_eq, beq_iff_eq, UInt32.le_iff_toNat_le] at h
  rcases h with (((h | h) | h) | rfl) | rfl
  · exact Nat.lt_of_le_of_lt h.2 (by decide)
  · exact Nat.lt_of_le_of_lt h.2 (by decide)
  · exact Nat.lt_of_le_of_lt h.2 (by decide)
  · decide
  · decide

theorem isIdentifierRest_of_isPlain {c : Char} (h : isPlain c = true) : isIdentifierRest c = true := by
  have hascii := toNat_lt_of_isPlain h
  simpa [isIdentifierRest, isLetter_of_ascii hascii, isNumeral_of_ascii hascii, isPlain, Char.isAlphanum] using h

theorem isIdentifierStart_of_isAlpha {c : Char} (h : c.isAlpha = true) : isIdentifierStart c = true := by
  have hascii : c.toNat < 0x80 := toNat_lt_of_isPlain (by simp [isPlain, Char.isAlphanum, h])
  simp [isIdentifierStart, isLetter_of_ascii hascii, h]

/-- A plain text can be declared if it opens with a letter and with a digit somewhere in its opening. -/
theorem isIdentifier_of_opening {opening text : String} (hletter : opensInLetter opening = true)
    (hdigit : isDigitFree opening = false) (hopening : opening.toList <+: text.toList)
    (hplain : isPlainText text = true) : isIdentifier text = true := by
  obtain ⟨rest, htext⟩ := hopening
  have hreserved : text ∉ reservedWords := by
    have hwords : ∀ word ∈ reservedWords, isDigitFree word = true := by decide
    intro hmem
    have hfree := hwords text hmem
    rw [isDigitFree, ← htext, List.all_append, Bool.and_eq_true] at hfree
    exact absurd (hfree.1.symm.trans hdigit) (by decide)
  cases ho : opening.toList with
  | nil => simp [opensInLetter, ho] at hletter
  | cons c r =>
    have hc : c.isAlpha = true := by simpa [opensInLetter, ho] using hletter
    rw [ho, List.cons_append] at htext
    rw [isPlainText, ← htext, List.all_cons, Bool.and_eq_true, List.all_eq_true] at hplain
    have hrest : (r ++ rest).all isIdentifierRest = true :=
      List.all_eq_true.2 fun d hd => isIdentifierRest_of_isPlain (hplain.2 d hd)
    rw [isIdentifier, ← htext]
    simp only [isIdentifierStart_of_isAlpha hc, hrest, Bool.true_and]
    simpa using hreserved

end Text

open Text

/-! ## How wishes open -/

namespace Namer

theorem opensInLetter_plainClassMark (c : ClassDecl) : opensInLetter (plainClassMark c ++ "C") = true := by
  unfold plainClassMark
  split_ifs <;> decide

theorem opensInLetter_classMark {t : Traits} {c : ClassDecl} (h : (Style.descriptive t).showsBase c = false)
    (set : SymbolSet) : opensInLetter (classMark t set c ++ "C") = true := by
  unfold classMark
  cases henum : c.access.isEnum with
  | true =>
    simp only [if_true]
    split_ifs <;> decide
  | false =>
    have hbase : t.frameworkBases = false := by simpa [Style.showsBase, henum] using h
    simp only [hbase, Bool.false_eq_true, if_false, String.append_empty]
    split_ifs <;> decide

/-- A wish opens with a letter unless it opens with the name of a framework class. -/
theorem opensInLetter_wish {namer : Namer} {s : Symbol} (h : ∀ c, s = .cls c → namer.style.showsBase c = false)
    (set : SymbolSet) (n : UInt32) : opensInLetter (namer.wish set s n) = true := by
  unfold wish
  cases hstyle : namer.style with
  | plain =>
    cases s with
    | pkg _ | field _ _ | method _ _ => exact opensInLetter_append (opensInLetter_append (by decide) _) _
    | cls c => exact opensInLetter_append (opensInLetter_append (opensInLetter_plainClassMark c) _) _
  | descriptive t =>
    cases s with
    | pkg _ => exact opensInLetter_append (opensInLetter_append (by decide) _) _
    | cls c =>
      have hbase := h c rfl
      rw [hstyle] at hbase
      have hmark := opensInLetter_append (opensInLetter_classMark hbase set) (Decimal.padded 4 n.toNat)
      exact opensInLetter_append (opensInLetter_append hmark _) _
    | field f _ =>
      have hcode := ite_mark opensInLetter t.rolePrefixes "f" (Alias.fieldCode_mem f.type) (by decide)
      exact opensInLetter_append (opensInLetter_append hcode _) _
    | method f _ =>
      have hrole := ite_mark opensInLetter t.rolePrefixes "m" (Alias.methodRole_mem f) (by decide)
      exact opensInLetter_append (opensInLetter_append (opensInLetter_append hrole _) _) _

theorem not_isDigitFree_wish (namer : Namer) (set : SymbolSet) (s : Symbol) (n : UInt32) :
    isDigitFree (namer.wish set s n) = false := by
  have hrepr : isDigitFree n.toNat.repr = false := (spells_repr _).not_isDigitFree
  have hpadded : ∀ least, isDigitFree (Decimal.padded least n.toNat) = false :=
    fun least => (spells_padded least _).not_isDigitFree
  unfold wish
  cases namer.style <;> cases s <;>
    simp [plainWish, descriptiveWish, isDigitFree_append, hrepr, hpadded]

end Namer

/-! ## Aliases of a plan -/

theorem Profile.showsBase_eq_false (p : Profile) {m : Mode}
    (h : m ∈ [.conservative, .balanced] ∨ p.settings.descriptiveNames = false ∨ p.settings.frameworkBases = false)
    (c : ClassDecl) : (p.style m).showsBase c = false := by
  cases m with
  | disabled | auto | conservative | balanced => rfl
  | enhanced | aggressive =>
    rcases h with hm | hd | hf
    · simp at hm
    · simp [style, hd, Style.showsBase]
    · cases hd : p.settings.descriptiveNames <;> simp [style, hd, hf, Style.showsBase]

/-- The aliases of a walk can be declared where they do not open with the name of a framework class. -/
theorem isIdentifier_namings (set : SymbolSet) (m : Mode) (p : Profile) {n : Naming}
    (hn : n ∈ (Pass.start set m p).value.namings)
    (h : ∀ c, n.symbol = .cls c → (p.style (p.resolve m set).value).showsBase c = false) :
    isPlainText n.chosen = true ∧ isIdentifier n.chosen = true := by
  obtain ⟨number, hopening⟩ := prefix_namings set m p hn
  have hplain : isPlainText n.chosen = true := by
    rw [(namings_plain set m p n hn).2]
    cases hs : n.symbol with
    | cls c => simp [Style.borrowsPlain, h c hs]
    | pkg _ | field _ _ | method _ _ => rfl
  exact ⟨hplain, isIdentifier_of_opening (Namer.opensInLetter_wish h set number)
    (Namer.not_isDigitFree_wish _ set n.symbol number) hopening hplain⟩

/-- By settings in which nothing is wrong there is always a plan. Its aliases are made of ASCII characters and can be
declared, those of classes as far as the mode or the settings leave the names of framework classes out of them. -/
theorem plan_identifiers (set : SymbolSet) (m : Mode) (s : Settings) (h : s.Valid) :
    ∃ outcome, planWith set m s = .ok outcome ∧ ∀ e ∈ outcome.value.entries,
      (e.kind ≠ .cls ∨ outcome.value.mode ∈ [.conservative, .balanced] ∨ s.descriptiveNames = false ∨
        s.frameworkBases = false) →
      (∀ c ∈ e.renamed.toList, c.toNat < 0x80) ∧ isIdentifier e.renamed = true := by
  refine ⟨_, planWith_of_valid set m h, ?_⟩
  rw [entries_plan, List.forall_mem_map]
  intro n hn hcase
  have hplain := isIdentifier_namings set m ⟨s, h⟩ hn fun c hs => by
    rcases hcase with hkind | hmode
    · exact absurd (by simp [Naming.entry, Entry.ofSymbol, hs, Symbol.kind]) hkind
    · exact Profile.showsBase_eq_false ⟨s, h⟩ hmode c
  refine ⟨fun c hc => ?_, hplain.2⟩
  exact toNat_lt_of_isPlain (List.all_eq_true.1 hplain.1 c hc)

/-- Settings with counters at their end, a short length for hints and a separator of two characters. -/
def exhaustedSettings : Settings where
  minLength := 2
  maxLength := 2
  separator := "$x"
  initialIndex := PerKind.replicate 4294967295

theorem valid_exhaustedSettings : exhaustedSettings.Valid := by decide +kernel

/-- Two fields without a plain character, two with a reserved word for a name, and one with a longer one. -/
def oddFields : SymbolSet :=
  SymbolSet.build [] [{ ClassDecl.ofName "com.shop.\u00e9" with
    fields := [{ name := "\u00e9" }, { name := "\u00fc" }, { name := "do" }, { name := "do" }, { name := "while" }] }]

theorem plan_identifiers_exhausted :
    exhaustedSettings.Valid ∧ ∃ outcome, planWith oddFields .balanced exhaustedSettings = .ok outcome ∧
      outcome.value.mode ∈ [Mode.conservative, .balanced] ∧
      outcome.value.entries.map (·.renamed) = ["p4294967295xfb54f3c5", "C4294967295", "f4294967295",
        "f4294967295$x2", "f4294967295do", "f4294967295do$x2", "f4294967295x901889f4"] ∧
      ∀ e ∈ outcome.value.entries, (∀ c ∈ e.renamed.toList, c.toNat < 0x80) ∧ isIdentifier e.renamed = true := by
  obtain ⟨outcome, hplan, hall⟩ := plan_identifiers oddFields .balanced exhaustedSettings valid_exhaustedSettings
  rw [planWith_of_valid _ _ valid_exhaustedSettings] at hplan
  cases hplan
  have hmode : (plan oddFields .balanced ⟨_, valid_exhaustedSettings⟩).value.mode ∈
      [Mode.conservative, .balanced] := by decide
  refine ⟨valid_exhaustedSettings, _, planWith_of_valid _ _ valid_exhaustedSettings, hmode, ?_,
    fun e he => hall e he (.inr (.inl hmode))⟩
  decide +kernel

end Unmask
