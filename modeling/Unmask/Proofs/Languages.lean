import Mathlib.Computability.Language
import Unmask.Proofs.Confidence
/-!
# The languages of signatures

Each signature is a language over characters, and the recognisers of shapes accept these languages and nothing else
(`bears_iff`). Signatures overlap, and some have repetitions that are read from either end: a fence of underscores stands
before or after the rest, digits at the end are met from behind. There the recognisers cut a name where one class of
characters gives way to another. That is the only cut of two runs of different classes (`takeWhile_runs`), so nothing
is lost by not trying others.

The languages are said twice: in words, by how a name is put together (`Signature.Fits`), and as regular expressions
(`Signature.pattern`). `signatures_exact` says that the signatures of a name are those whose language it is in.
-/

namespace Unmask

namespace Shape

/-! ## Classes of characters -/

def IsSmall (c : Char) : Prop := 'a' ≤ c ∧ c ≤ 'z'

def IsCapital (c : Char) : Prop := 'A' ≤ c ∧ c ≤ 'Z'

def IsDigit (c : Char) : Prop := '0' ≤ c ∧ c ≤ '9'

def IsLetter (c : Char) : Prop := IsSmall c ∨ IsCapital c

def IsLetterOrDigit (c : Char) : Prop := IsLetter c ∨ IsDigit c

def IsHexDigit (c : Char) : Prop := IsDigit c ∨ ('a' ≤ c ∧ c ≤ 'f') ∨ ('A' ≤ c ∧ c ≤ 'F')

theorem isLower_iff {c : Char} : c.isLower = true ↔ IsSmall c := by
  rw [IsSmall, Char.le_def, Char.le_def]
  exact Bool.and_eq_true_iff.trans (and_congr decide_eq_true_iff decide_eq_true_iff)

theorem isUpper_iff {c : Char} : c.isUpper = true ↔ IsCapital c := by
  rw [IsCapital, Char.le_def, Char.le_def]
  exact decide_eq_true_iff

theorem isDigit_iff {c : Char} : c.isDigit = true ↔ IsDigit c := by
  rw [IsDigit, Char.le_def, Char.le_def]
  exact Bool.and_eq_true_iff.trans (and_congr decide_eq_true_iff decide_eq_true_iff)

theorem isAlpha_iff {c : Char} : c.isAlpha = true ↔ IsLetter c := by
  rw [IsLetter, ← isLower_iff, ← isUpper_iff, or_comm]
  exact Bool.or_eq_true_iff

theorem isAlphanum_iff {c : Char} : c.isAlphanum = true ↔ IsLetterOrDigit c := by
  rw [IsLetterOrDigit, ← isAlpha_iff, ← isDigit_iff]
  exact Bool.or_eq_true_iff

theorem isHex_iff {c : Char} : isHex c = true ↔ IsHexDigit c := by
  rw [isHex, Bool.or_eq_true, Bool.or_eq_true, isDigit_iff]
  simp [IsHexDigit, or_assoc]

theorem not_isLetterOrDigit_underscore : ¬ IsLetterOrDigit '_' := by
  rw [← isAlphanum_iff]
  decide

theorem not_isCapital_of_isDigit {c : Char} (h : IsDigit c) : ¬ IsCapital c := by
  intro hc
  have : 'A' ≤ '9' := Char.le_trans hc.1 h.2
  exact absurd this (by decide)

/-! ## Two runs -/

/-- A text is cut in one way only into characters of a class and then characters that are not of it. -/
theorem takeWhile_runs {p : Char → Bool} {u w : List Char} (hu : ∀ c ∈ u, p c = true) (hw : ∀ c ∈ w, p c = false) :
    (u ++ w).takeWhile p = u ∧ (u ++ w).dropWhile p = w := by
  rw [List.takeWhile_append_of_pos hu, List.dropWhile_append_of_pos hu]
  cases w with
  | nil => simp
  | cons c r => simp [hw c List.mem_cons_self]

/-! ## Languages in words -/

/-- One or two letters of one case, or two small letters with a dollar sign between them. -/
def ShortLetters (s : List Char) : Prop :=
  ((s.length = 1 ∨ s.length = 2) ∧ ((∀ c ∈ s, IsSmall c) ∨ ∀ c ∈ s, IsCapital c)) ∨
    ∃ x y, IsSmall x ∧ IsSmall y ∧ s = [x, '$', y]

/-- Two `z` and a letter, or an underscore and one or two letters. -/
def SequentialPrefix (s : List Char) : Prop :=
  (∃ x, IsLetter x ∧ s = ['z', 'z', x]) ∨
    ∃ w, (w.length = 1 ∨ w.length = 2) ∧ (∀ c ∈ w, IsLetter c) ∧ s = '_' :: w

/-- A character of the upper half of Latin-1, a combining mark, a pictograph or a spacing modifier somewhere. -/
def HasExtended (s : List Char) : Prop :=
  ∃ c ∈ s, (0x80 ≤ c.toNat ∧ c.toNat ≤ 0xFF) ∨ (0x300 ≤ c.toNat ∧ c.toNat ≤ 0x36F) ∨ Text.isPictograph c = true

/-- Eight or more hexadecimal digits, or `_0x` and at least one. -/
def LongHex (s : List Char) : Prop :=
  (8 ≤ s.length ∧ ∀ c ∈ s, IsHexDigit c) ∨ ∃ w, w ≠ [] ∧ (∀ c ∈ w, IsHexDigit c) ∧ s = '_' :: '0' :: 'x' :: w

/-- A run of two or more underscores before or after letters and digits, of which there may be none. -/
def UnderscoreFenced (s : List Char) : Prop :=
  ∃ u w, 2 ≤ u.length ∧ (∀ c ∈ u, c = '_') ∧ (∀ c ∈ w, IsLetterOrDigit c) ∧ (s = u ++ w ∨ s = w ++ u)

/-- Letter, digit, letter, digit and then letters and digits, or three or more capitals and then digits. -/
def Alternating (s : List Char) : Prop :=
  (∃ a b c d w, IsLetter a ∧ IsDigit b ∧ IsLetter c ∧ IsDigit d ∧ (∀ e ∈ w, IsLetterOrDigit e) ∧
    s = a :: b :: c :: d :: w) ∨
    ∃ u w, 3 ≤ u.length ∧ (∀ c ∈ u, IsCapital c) ∧ w ≠ [] ∧ (∀ c ∈ w, IsDigit c) ∧ s = u ++ w

/-- Anything, a dollar sign and at least one digit. -/
def NumericSuffix (s : List Char) : Prop := ∃ v w, w ≠ [] ∧ (∀ c ∈ w, IsDigit c) ∧ s = v ++ '$' :: w

/-- A mark of an anonymous function somewhere. -/
def HasLambdaMark (s : List Char) : Prop := "$$Lambda$".toList <:+: s ∨ "-$$".toList <:+: s

/-! ## Recognisers accept these languages -/

variable {s : List Char}

theorem isShortLetters_iff : isShortLetters s = true ↔ ShortLetters s := by
  unfold ShortLetters
  rcases s with _ | ⟨a, _ | ⟨b, _ | ⟨c, _ | ⟨d, r⟩⟩⟩⟩
  · simp [isShortLetters]
  · simp [isShortLetters, isLower_iff, isUpper_iff]
  · simp [isShortLetters, isLower_iff, isUpper_iff]
  · by_cases hb : b = '$'
    · subst hb
      simp [isShortLetters, isLower_iff]
    · simp [isShortLetters, hb]
  · simp [isShortLetters]

theorem isSequentialPrefix_iff : isSequentialPrefix s = true ↔ SequentialPrefix s := by
  unfold SequentialPrefix
  constructor
  · intro h
    unfold isSequentialPrefix at h
    split at h
    next a => exact .inl ⟨a, isAlpha_iff.1 h, rfl⟩
    next a => exact .inr ⟨[a], .inl rfl, by simpa [← isAlpha_iff] using h, rfl⟩
    next a b => exact .inr ⟨[a, b], .inr rfl, by simpa [← isAlpha_iff] using h, rfl⟩
    next => cases h
  · rintro (⟨x, hx, rfl⟩ | ⟨w, hlength | hlength, hw, rfl⟩)
    · exact isAlpha_iff.2 hx
    · obtain ⟨a, rfl⟩ := List.length_eq_one_iff.1 hlength
      simpa [isSequentialPrefix, isAlpha_iff] using hw
    · obtain ⟨a, b, rfl⟩ := List.length_eq_two.1 hlength
      simpa [isSequentialPrefix, isAlpha_iff] using hw

theorem any_isExtended_iff : s.any isExtended = true ↔ HasExtended s := by
  simp [HasExtended, isExtended, or_assoc]

theorem isLongHex_iff : isLongHex s = true ↔ LongHex s := by
  have hunderscore : ¬ IsHexDigit '_' := by
    rw [← isHex_iff]
    decide
  unfold isLongHex LongHex
  split
  next r => simp [isHex_iff, hunderscore]
  next hno =>
    have hnot : ¬ ∃ w, w ≠ [] ∧ (∀ c ∈ w, IsHexDigit c) ∧ s = '_' :: '0' :: 'x' :: w := by
      rintro ⟨w, -, -, rfl⟩
      exact hno w rfl
    simp [isHex_iff, hnot]

theorem isUnderscoreFenced_iff : isUnderscoreFenced s = true ↔ UnderscoreFenced s := by
  unfold isUnderscoreFenced UnderscoreFenced
  simp only [Bool.or_eq_true, Bool.and_eq_true, decide_eq_true_eq, List.all_eq_true, isAlphanum_iff, beq_iff_eq]
  constructor
  · rintro (⟨htwo, hrest⟩ | ⟨htwo, hrest⟩)
    · exact ⟨_, _, htwo, fun c hc => eq_of_beq (List.mem_takeWhile_imp (p := (· == '_')) hc), hrest,
        .inl List.takeWhile_append_dropWhile.symm⟩
    · exact ⟨_, _, htwo, hrest, fun c hc => isAlphanum_iff.1 (List.mem_takeWhile_imp hc),
        .inr List.takeWhile_append_dropWhile.symm⟩
  · rintro ⟨u, w, htwo, hu, hw, rfl | rfl⟩
    · have hcut := takeWhile_runs (p := (· == '_')) (u := u) (w := w) (by simpa using hu) fun c hc => by
        rw [beq_eq_false_iff_ne]
        rintro rfl
        exact not_isLetterOrDigit_underscore (hw _ hc)
      rw [hcut.1, hcut.2]
      exact .inl ⟨htwo, hw⟩
    · have hcut := takeWhile_runs (p := Char.isAlphanum) (u := w) (w := u) (by simpa [isAlphanum_iff] using hw)
        fun c hc => by
          rw [hu c hc]
          decide
      rw [hcut.2]
      exact .inr ⟨htwo, hu⟩

theorem capitals_digits_iff :
    (3 ≤ (s.takeWhile Char.isUpper).length && !(s.dropWhile Char.isUpper).isEmpty &&
      (s.dropWhile Char.isUpper).all Char.isDigit) = true ↔
    ∃ u w, 3 ≤ u.length ∧ (∀ c ∈ u, IsCapital c) ∧ w ≠ [] ∧ (∀ c ∈ w, IsDigit c) ∧ s = u ++ w := by
  simp only [Bool.and_eq_true, decide_eq_true_eq, Bool.not_eq_true', List.isEmpty_eq_false_iff, List.all_eq_true,
    isDigit_iff]
  constructor
  · rintro ⟨⟨hthree, hne⟩, hdigits⟩
    exact ⟨_, _, hthree, fun c hc => isUpper_iff.1 (List.mem_takeWhile_imp hc), hne, hdigits,
      List.takeWhile_append_dropWhile.symm⟩
  · rintro ⟨u, w, hthree, hcapitals, hne, hdigits, rfl⟩
    have hcut : (u ++ w).takeWhile Char.isUpper = u ∧ (u ++ w).dropWhile Char.isUpper = w := by
      apply takeWhile_runs
      · exact fun c hc => isUpper_iff.2 (hcapitals c hc)
      · intro c hc
        rw [Bool.eq_false_iff, Ne, isUpper_iff]
        exact not_isCapital_of_isDigit (hdigits c hc)
    rw [hcut.1, hcut.2]
    exact ⟨⟨hthree, hne⟩, hdigits⟩

theorem isAlternating_iff : isAlternating s = true ↔ Alternating s := by
  unfold isAlternating Alternating
  rw [Bool.or_eq_true, capitals_digits_iff]
  apply or_congr_left
  split
  next a b c d r => simp [isAlpha_iff, isDigit_iff, isAlphanum_iff, and_assoc]
  next hshort =>
    constructor
    · nofun
    · rintro ⟨a, b, c, d, w, -, -, -, -, -, rfl⟩
      exact (hshort a b c d w rfl).elim

theorem head?_dropWhile_isDigit_iff {r : List Char} :
    (r.dropWhile Char.isDigit).head? = some '$' ↔ ∃ w v, (∀ c ∈ w, IsDigit c) ∧ r = w ++ '$' :: v := by
  constructor
  · intro h
    obtain ⟨v, hv⟩ := List.head?_eq_some_iff.1 h
    refine ⟨r.takeWhile Char.isDigit, v, fun c hc => isDigit_iff.1 (List.mem_takeWhile_imp hc), ?_⟩
    rw [← hv, List.takeWhile_append_dropWhile]
  · rintro ⟨w, v, hw, rfl⟩
    rw [List.dropWhile_append_of_pos fun c hc => isDigit_iff.2 (hw c hc)]
    rfl

theorem hasNumericSuffix_iff : hasNumericSuffix s = true ↔ NumericSuffix s := by
  unfold hasNumericSuffix NumericSuffix
  constructor
  · intro h
    split at h
    next => cases h
    next d r hs =>
      rw [Bool.and_eq_true, beq_iff_eq, head?_dropWhile_isDigit_iff, isDigit_iff] at h
      obtain ⟨hd, w, v, hw, rfl⟩ := h
      refine ⟨v.reverse, (d :: w).reverse, by simp, ?_, ?_⟩
      · intro c hc
        rcases List.mem_cons.1 (List.mem_reverse.1 hc) with rfl | hc
        · exact hd
        · exact hw c hc
      · rw [← List.reverse_inj, hs]
        simp
  · rintro ⟨v, w, hne, hdigits, rfl⟩
    obtain ⟨d, r, hw⟩ := List.exists_cons_of_ne_nil (List.reverse_ne_nil_iff.2 hne)
    have hreverse : (v ++ '$' :: w).reverse = d :: (r ++ '$' :: v.reverse) := by simp [hw]
    have hmem : ∀ c ∈ d :: r, IsDigit c := by
      intro c hc
      rw [← hw] at hc
      exact hdigits c (List.mem_reverse.1 hc)
    rw [hreverse]
    simp only [Bool.and_eq_true, beq_iff_eq, isDigit_iff, head?_dropWhile_isDigit_iff]
    exact ⟨hmem d List.mem_cons_self, r, _, fun c hc => hmem c (List.mem_cons_of_mem _ hc), rfl⟩

theorem hasLambdaMark_iff : hasLambdaMark s = true ↔ HasLambdaMark s := by
  rw [hasLambdaMark, Bool.or_eq_true, Text.hasPart_iff, Text.hasPart_iff]
  rfl

/-! ## Languages as regular expressions -/

open scoped Computability

/-- A single character of a class. -/
def one (p : Char → Prop) : Language Char := {s | ∃ c, p c ∧ s = [c]}

/-- A single text. -/
def word (w : String) : Language Char := {w.toList}

variable {p : Char → Prop} {l : Language Char}

theorem mem_one : s ∈ one p ↔ ∃ c, p c ∧ s = [c] := Iff.rfl

theorem mem_word {w : String} : s ∈ word w ↔ s = w.toList := Iff.rfl

theorem mem_one_mul : s ∈ one p * l ↔ ∃ c t, p c ∧ t ∈ l ∧ s = c :: t := by
  rw [Language.mem_mul]
  constructor
  · rintro ⟨_, ⟨c, hc, rfl⟩, t, ht, rfl⟩
    exact ⟨c, t, hc, ht, rfl⟩
  · rintro ⟨c, t, hc, ht, rfl⟩
    exact ⟨[c], ⟨c, hc, rfl⟩, t, ht, rfl⟩

theorem mem_word_mul {w : String} : s ∈ word w * l ↔ ∃ t ∈ l, s = w.toList ++ t := by
  rw [Language.mem_mul]
  constructor
  · rintro ⟨_, rfl, t, ht, rfl⟩
    exact ⟨t, ht, rfl⟩
  · rintro ⟨t, ht, rfl⟩
    exact ⟨w.toList, rfl, t, ht, rfl⟩

theorem mem_one_pow {n : Nat} : s ∈ one p ^ n ↔ s.length = n ∧ ∀ c ∈ s, p c := by
  induction n generalizing s with
  | zero =>
    rw [pow_zero, Language.mem_one]
    constructor
    · rintro rfl
      exact ⟨rfl, nofun⟩
    · exact fun h => List.length_eq_zero_iff.1 h.1
  | succ n ih =>
    rw [pow_succ', mem_one_mul]
    constructor
    · rintro ⟨c, t, hc, ht, rfl⟩
      obtain ⟨hlength, hall⟩ := ih.1 ht
      exact ⟨by simp [hlength], List.forall_mem_cons.2 ⟨hc, hall⟩⟩
    · rintro ⟨hlength, hall⟩
      obtain ⟨c, t, rfl⟩ := List.exists_of_length_succ s hlength
      obtain ⟨hc, hall⟩ := List.forall_mem_cons.1 hall
      exact ⟨c, t, hc, ih.2 ⟨by simpa using hlength, hall⟩, rfl⟩

/-- A number of characters of a class, or more. -/
def atLeast (n : Nat) (p : Char → Prop) : Language Char := one p ^ n * (one p)∗

theorem mem_atLeast {n : Nat} : s ∈ atLeast n p ↔ n ≤ s.length ∧ ∀ c ∈ s, p c := by
  have hstar : ∀ t, t ∈ (one p)∗ ↔ ∀ c ∈ t, p c := by
    intro t
    simp [Language.kstar_eq_iSup_pow, Language.mem_iSup, mem_one_pow]
  rw [atLeast, Language.mem_mul]
  constructor
  · rintro ⟨a, ha, b, hb, rfl⟩
    obtain ⟨hlength, hall⟩ := mem_one_pow.1 ha
    refine ⟨by simp [hlength], ?_⟩
    rw [List.forall_mem_append]
    exact ⟨hall, (hstar b).1 hb⟩
  · rintro ⟨hlength, hall⟩
    refine ⟨s.take n, ?_, s.drop n, ?_, List.take_append_drop n s⟩
    · exact mem_one_pow.2 ⟨List.length_take_of_le hlength, fun c hc => hall c (List.mem_of_mem_take hc)⟩
    · exact (hstar _).2 fun c hc => hall c (List.mem_of_mem_drop hc)

theorem mem_atLeast_mul {m n : Nat} {q : Char → Prop} :
    s ∈ atLeast m p * atLeast n q ↔
      ∃ u w, m ≤ u.length ∧ (∀ c ∈ u, p c) ∧ n ≤ w.length ∧ (∀ c ∈ w, q c) ∧ s = u ++ w := by
  rw [Language.mem_mul]
  constructor
  · rintro ⟨u, hu, w, hw, rfl⟩
    obtain ⟨hm, hp⟩ := mem_atLeast.1 hu
    obtain ⟨hn, hq⟩ := mem_atLeast.1 hw
    exact ⟨u, w, hm, hp, hn, hq, rfl⟩
  · rintro ⟨u, w, hm, hp, hn, hq, rfl⟩
    exact ⟨u, mem_atLeast.2 ⟨hm, hp⟩, w, mem_atLeast.2 ⟨hn, hq⟩, rfl⟩

theorem mem_somewhere : s ∈ ⊤ * l * ⊤ ↔ ∃ t ∈ l, t <:+: s := by
  simp only [Language.mem_mul]
  constructor
  · rintro ⟨_, ⟨v, -, t, ht, rfl⟩, w, -, rfl⟩
    exact ⟨t, ht, v, w, rfl⟩
  · rintro ⟨t, ht, v, w, rfl⟩
    exact ⟨v ++ t, ⟨v, trivial, t, ht, rfl⟩, w, trivial, rfl⟩

/-- One character of a class, or two. -/
def oneOrTwo (p : Char → Prop) : Language Char := one p + one p ^ 2

theorem mem_oneOrTwo : s ∈ oneOrTwo p ↔ (s.length = 1 ∨ s.length = 2) ∧ ∀ c ∈ s, p c := by
  have hone : one p = one p ^ 1 := (pow_one _).symm
  rw [oneOrTwo, Language.mem_add, or_and_right, ← mem_one_pow, ← mem_one_pow, ← hone]

end Shape

namespace Signature

open Shape

/-- The regular expression of a signature. Of confusable characters alone is what is not of a sequential prefix. -/
def pattern (confusable : List Char) : Signature → Language Char
  | shortLetters => oneOrTwo IsSmall + one IsSmall * (word "$" * one IsSmall) + oneOrTwo IsCapital
  | confusableOnly => atLeast 1 (· ∈ confusable) \ (word "zz" * one IsLetter + word "_" * oneOrTwo IsLetter)
  | sequentialPrefix => word "zz" * one IsLetter + word "_" * oneOrTwo IsLetter
  | extendedChars =>
    ⊤ * (one (fun c => 0x80 ≤ c.toNat ∧ c.toNat ≤ 0xFF) + one (fun c => 0x300 ≤ c.toNat ∧ c.toNat ≤ 0x36F) +
      one (Text.isPictograph · = true)) * ⊤
  | longHex => atLeast 8 IsHexDigit + word "_0x" * atLeast 1 IsHexDigit
  | underscoreFenced =>
    atLeast 2 (· = '_') * atLeast 0 IsLetterOrDigit + atLeast 0 IsLetterOrDigit * atLeast 2 (· = '_')
  | alternatingAlnum =>
    one IsLetter * (one IsDigit * (one IsLetter * (one IsDigit * atLeast 0 IsLetterOrDigit))) +
      atLeast 3 IsCapital * atLeast 1 IsDigit
  | numericSuffix => ⊤ * (word "$" * ((1 + word "$") * atLeast 1 IsDigit))
  | lambdaSuffix => ⊤ * (word "$$Lambda$" + word "-$$") * ⊤

/-- Whether a name is of the language of a signature, in words. -/
def Fits (confusable s : List Char) : Signature → Prop
  | shortLetters => ShortLetters s
  | confusableOnly => (∀ c ∈ s, c ∈ confusable) ∧ ¬ SequentialPrefix s
  | sequentialPrefix => SequentialPrefix s
  | extendedChars => HasExtended s
  | longHex => LongHex s
  | underscoreFenced => UnderscoreFenced s
  | alternatingAlnum => Alternating s
  | numericSuffix => NumericSuffix s
  | lambdaSuffix => HasLambdaMark s

variable {confusable s : List Char}

theorem mem_shortLetters_iff : s ∈ shortLetters.pattern confusable ↔ ShortLetters s := by
  simp only [pattern, Language.mem_add, mem_oneOrTwo, mem_one_mul, mem_word_mul, mem_one]
  constructor
  · rintro ((⟨hlength, hall⟩ | ⟨x, _, hx, ⟨_, ⟨y, hy, rfl⟩, rfl⟩, rfl⟩) | ⟨hlength, hall⟩)
    · exact .inl ⟨hlength, .inl hall⟩
    · exact .inr ⟨x, y, hx, hy, rfl⟩
    · exact .inl ⟨hlength, .inr hall⟩
  · rintro (⟨hlength, hall | hall⟩ | ⟨x, y, hx, hy, rfl⟩)
    · exact .inl (.inl ⟨hlength, hall⟩)
    · exact .inr ⟨hlength, hall⟩
    · exact .inl (.inr ⟨x, _, hx, ⟨_, ⟨y, hy, rfl⟩, rfl⟩, rfl⟩)

theorem mem_sequentialPrefix_iff : s ∈ sequentialPrefix.pattern confusable ↔ SequentialPrefix s := by
  simp only [pattern, Language.mem_add, mem_oneOrTwo, mem_word_mul, mem_one]
  constructor
  · rintro (⟨_, ⟨x, hx, rfl⟩, rfl⟩ | ⟨w, ⟨hlength, hall⟩, rfl⟩)
    · exact .inl ⟨x, hx, rfl⟩
    · exact .inr ⟨w, hlength, hall, rfl⟩
  · rintro (⟨x, hx, rfl⟩ | ⟨w, hlength, hall, rfl⟩)
    · exact .inl ⟨_, ⟨x, hx, rfl⟩, rfl⟩
    · exact .inr ⟨w, ⟨hlength, hall⟩, rfl⟩

theorem mem_confusableOnly_iff (hs : s ≠ []) :
    s ∈ confusableOnly.pattern confusable ↔ (∀ c ∈ s, c ∈ confusable) ∧ ¬ SequentialPrefix s := by
  have hpos : 1 ≤ s.length := List.length_pos_of_ne_nil hs
  have hdiff : s ∈ confusableOnly.pattern confusable ↔
      s ∈ atLeast 1 (· ∈ confusable) ∧ s ∉ sequentialPrefix.pattern confusable := Iff.rfl
  rw [hdiff, mem_atLeast, mem_sequentialPrefix_iff]
  simp [hpos]

theorem mem_extendedChars_iff : s ∈ extendedChars.pattern confusable ↔ HasExtended s := by
  simp only [pattern, mem_somewhere, Language.mem_add, mem_one]
  constructor
  · rintro ⟨_, (⟨c, hc, rfl⟩ | ⟨c, hc, rfl⟩) | ⟨c, hc, rfl⟩, hpart⟩
    · exact ⟨c, hpart.subset List.mem_cons_self, .inl hc⟩
    · exact ⟨c, hpart.subset List.mem_cons_self, .inr (.inl hc)⟩
    · exact ⟨c, hpart.subset List.mem_cons_self, .inr (.inr hc)⟩
  · rintro ⟨c, hmem, hc⟩
    refine ⟨[c], ?_, ?_⟩
    · rcases hc with hc | hc | hc
      · exact .inl (.inl ⟨c, hc, rfl⟩)
      · exact .inl (.inr ⟨c, hc, rfl⟩)
      · exact .inr ⟨c, hc, rfl⟩
    · obtain ⟨v, w, rfl⟩ := List.append_of_mem hmem
      exact ⟨v, w, by simp⟩

theorem mem_longHex_iff : s ∈ longHex.pattern confusable ↔ LongHex s := by
  simp only [pattern, Language.mem_add, mem_atLeast, mem_word_mul]
  constructor
  · rintro (h | ⟨w, ⟨hlength, hall⟩, rfl⟩)
    · exact .inl h
    · exact .inr ⟨w, List.ne_nil_of_length_pos hlength, hall, rfl⟩
  · rintro (h | ⟨w, hne, hall, rfl⟩)
    · exact .inl h
    · exact .inr ⟨w, ⟨List.length_pos_of_ne_nil hne, hall⟩, rfl⟩

theorem mem_underscoreFenced_iff : s ∈ underscoreFenced.pattern confusable ↔ UnderscoreFenced s := by
  simp only [pattern, Language.mem_add, mem_atLeast_mul]
  constructor
  · rintro (⟨u, w, htwo, hu, -, hw, rfl⟩ | ⟨w, u, -, hw, htwo, hu, rfl⟩)
    · exact ⟨u, w, htwo, hu, hw, .inl rfl⟩
    · exact ⟨u, w, htwo, hu, hw, .inr rfl⟩
  · rintro ⟨u, w, htwo, hu, hw, rfl | rfl⟩
    · exact .inl ⟨u, w, htwo, hu, Nat.zero_le _, hw, rfl⟩
    · exact .inr ⟨w, u, Nat.zero_le _, hw, htwo, hu, rfl⟩

theorem mem_alternatingAlnum_iff : s ∈ alternatingAlnum.pattern confusable ↔ Alternating s := by
  simp only [pattern, Language.mem_add, mem_atLeast_mul, mem_one_mul, mem_atLeast]
  constructor
  · rintro (⟨a, _, ha, ⟨b, _, hb, ⟨c, _, hc, ⟨d, w, hd, ⟨-, hw⟩, rfl⟩, rfl⟩, rfl⟩, rfl⟩ |
      ⟨u, w, hthree, hu, hlength, hw, rfl⟩)
    · exact .inl ⟨a, b, c, d, w, ha, hb, hc, hd, hw, rfl⟩
    · exact .inr ⟨u, w, hthree, hu, List.ne_nil_of_length_pos hlength, hw, rfl⟩
  · rintro (⟨a, b, c, d, w, ha, hb, hc, hd, hw, rfl⟩ | ⟨u, w, hthree, hu, hne, hw, rfl⟩)
    · exact .inl ⟨a, _, ha, ⟨b, _, hb, ⟨c, _, hc, ⟨d, w, hd, ⟨Nat.zero_le _, hw⟩, rfl⟩, rfl⟩, rfl⟩, rfl⟩
    · exact .inr ⟨u, w, hthree, hu, List.length_pos_of_ne_nil hne, hw, rfl⟩

/-- A second dollar sign may as well belong to what stands before. -/
theorem mem_numericSuffix_iff : s ∈ numericSuffix.pattern confusable ↔ NumericSuffix s := by
  rw [pattern, Language.mem_mul]
  simp only [mem_word_mul]
  simp only [Language.mem_mul, Language.mem_add, Language.mem_one, mem_word, mem_atLeast]
  constructor
  · rintro ⟨v, -, _, ⟨_, ⟨_, rfl | rfl, w, ⟨hlength, hw⟩, rfl⟩, rfl⟩, rfl⟩
    · exact ⟨v, w, List.ne_nil_of_length_pos hlength, hw, rfl⟩
    · exact ⟨v ++ ['$'], w, List.ne_nil_of_length_pos hlength, hw, by simp⟩
  · rintro ⟨v, w, hne, hw, rfl⟩
    exact ⟨v, trivial, _, ⟨_, ⟨[], .inl rfl, w, ⟨List.length_pos_of_ne_nil hne, hw⟩, rfl⟩, rfl⟩, rfl⟩

theorem mem_lambdaSuffix_iff : s ∈ lambdaSuffix.pattern confusable ↔ HasLambdaMark s := by
  simp only [pattern, mem_somewhere, Language.mem_add, mem_word, HasLambdaMark]
  constructor
  · rintro ⟨_, rfl | rfl, hpart⟩
    · exact .inl hpart
    · exact .inr hpart
  · rintro (hpart | hpart)
    · exact ⟨_, .inl rfl, hpart⟩
    · exact ⟨_, .inr rfl, hpart⟩

theorem mem_pattern_iff (hs : s ≠ []) (g : Signature) : s ∈ g.pattern confusable ↔ g.Fits confusable s := by
  cases g with
  | shortLetters => exact mem_shortLetters_iff
  | confusableOnly => exact mem_confusableOnly_iff hs
  | sequentialPrefix => exact mem_sequentialPrefix_iff
  | extendedChars => exact mem_extendedChars_iff
  | longHex => exact mem_longHex_iff
  | underscoreFenced => exact mem_underscoreFenced_iff
  | alternatingAlnum => exact mem_alternatingAlnum_iff
  | numericSuffix => exact mem_numericSuffix_iff
  | lambdaSuffix => exact mem_lambdaSuffix_iff

end Signature

namespace Classifier

open Shape

theorem bears_iff (k : Classifier) {name : String} (hname : name ≠ "") (g : Signature) :
    k.bears name g = true ↔ g.Fits k.confusable name.toList := by
  cases g with
  | shortLetters => exact isShortLetters_iff
  | confusableOnly =>
    have hne : name.toList ≠ [] := by simpa using hname
    simp [bears, isConfusable, hne, Signature.Fits, ← isSequentialPrefix_iff, and_comm]
  | sequentialPrefix => exact isSequentialPrefix_iff
  | extendedChars => exact any_isExtended_iff
  | longHex => exact isLongHex_iff
  | underscoreFenced => exact isUnderscoreFenced_iff
  | alternatingAlnum => exact isAlternating_iff
  | numericSuffix => exact hasNumericSuffix_iff
  | lambdaSuffix => exact hasLambdaMark_iff

theorem nodup_signatures (k : Classifier) (name : String) : (k.signatures name).Nodup := by
  have hall : Signature.all.Nodup := by decide
  exact hall.filter _

/-- The signatures of a name, in the order of the library and each of them once, are those whose language it is in:
as the language is said in words, and as it is said by a regular expression. -/
theorem signatures_exact (k : Classifier) (name : String) (hname : name ≠ "") :
    (k.signatures name).Sublist Signature.all ∧ (k.signatures name).Nodup ∧
      ∀ g, (g ∈ k.signatures name ↔ g.Fits k.confusable name.toList) ∧
        (g ∈ k.signatures name ↔ name.toList ∈ g.pattern k.confusable) := by
  have hfits : ∀ g, g ∈ k.signatures name ↔ g.Fits k.confusable name.toList := by
    intro g
    rw [signatures, List.mem_filter, bears_iff k hname]
    exact and_iff_right (Signature.mem_all g)
  refine ⟨List.filter_sublist, nodup_signatures k name, fun g => ⟨hfits g, ?_⟩⟩
  rw [hfits g, Signature.mem_pattern_iff]
  simpa using hname

/-- Confusable characters in the shape of a prefix. -/
theorem signatures_exact_prefix :
    "_o" ≠ "" ∧ ({} : Classifier).signatures "_o" = [.sequentialPrefix] ∧
      ({} : Classifier).isConfusable "_o" = true ∧ Shape.SequentialPrefix "_o".toList ∧
      "_o".toList ∈ Signature.sequentialPrefix.pattern ({} : Classifier).confusable ∧
      "_o".toList ∉ Signature.confusableOnly.pattern ({} : Classifier).confusable := by
  have hname : "_o" ≠ "" := by decide
  have hsignatures : ({} : Classifier).signatures "_o" = [.sequentialPrefix] := by decide +kernel
  obtain ⟨-, -, hexact⟩ := signatures_exact {} "_o" hname
  rw [hsignatures] at hexact
  have hmem : Signature.sequentialPrefix ∈ [Signature.sequentialPrefix] := List.mem_cons_self
  have hnot : Signature.confusableOnly ∉ [Signature.sequentialPrefix] := by decide
  exact ⟨hname, hsignatures, by decide +kernel, (hexact _).1.1 hmem, (hexact _).2.1 hmem,
    fun h => hnot ((hexact _).2.2 h)⟩

end Classifier

end Unmask
