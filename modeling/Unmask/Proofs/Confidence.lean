import Mathlib.Data.List.TakeWhile
import Unmask.Classifier
/-!
# What makes a name confident

A name that reaches fifty percent either gives itself away by its shape or bears the signature of a tool, and `"__"`
is the only exception (`confident_iff`). Signatures without a tool are worth little: the fence of underscores has
25 points and the alternation of letters and digits has 12, and no name bears both. Above the length of four, where
nothing is given for shortness, that leaves 25 points and at most 20 for entropy. Names up to that length have too
little entropy to count, and shortness is worth 15 points, or 30 in names of two characters. So it takes the fence and
two characters, which are underscores then.
-/

namespace Unmask

/-! ## Signatures without a tool -/

namespace Shape

theorem alphanum_of_isAlternating {s : List Char} (h : isAlternating s = true) :
    4 ≤ s.length ∧ ∀ c ∈ s, c.isAlphanum = true := by
  unfold isAlternating at h
  rcases Bool.or_eq_true_iff.1 h with h | h
  · split at h
    next a b c d r =>
      simp only [Bool.and_eq_true, List.all_eq_true] at h
      obtain ⟨⟨⟨⟨ha, hb⟩, hc⟩, hd⟩, hr⟩ := h
      exact ⟨by simp, by simpa [Char.isAlphanum, ha, hb, hc, hd] using hr⟩
    next => cases h
  · simp only [Bool.and_eq_true, decide_eq_true_eq, Bool.not_eq_true', List.all_eq_true] at h
    obtain ⟨⟨hcapitals, hne⟩, hdigits⟩ := h
    have hrest : 1 ≤ (s.dropWhile Char.isUpper).length := by
      rw [Nat.one_le_iff_ne_zero, List.length_eq_zero_iff.ne]
      simpa using hne
    constructor
    · rw [← List.takeWhile_append_dropWhile (p := Char.isUpper) (l := s), List.length_append]
      omega
    · intro c hc
      rw [← List.takeWhile_append_dropWhile (p := Char.isUpper) (l := s), List.mem_append] at hc
      rcases hc with hc | hc
      · have hupper : c.isUpper = true := List.mem_takeWhile_imp hc
        change (c.isUpper || c.isLower || c.isDigit) = true
        simp [hupper]
      · simp [Char.isAlphanum, hdigits c hc]

theorem two_le_count_of_isUnderscoreFenced {s : List Char} (h : isUnderscoreFenced s = true) :
    2 ≤ s.count '_' := by
  rw [isUnderscoreFenced, Bool.or_eq_true] at h
  simp only [Bool.and_eq_true, decide_eq_true_eq] at h
  rcases h with ⟨htwo, -⟩ | ⟨htwo, hall⟩
  · have hfront : (s.takeWhile (· == '_')).count '_' = (s.takeWhile (· == '_')).length :=
      List.count_eq_length.2 fun c hc => (eq_of_beq (List.mem_takeWhile_imp (p := (· == '_')) hc)).symm
    have := (List.takeWhile_sublist (· == '_') (l := s)).count_le '_'
    omega
  · have hback : (s.dropWhile Char.isAlphanum).count '_' = (s.dropWhile Char.isAlphanum).length :=
      List.count_eq_length.2 fun c hc => (eq_of_beq (List.all_eq_true.1 hall c hc)).symm
    have := (List.dropWhile_sublist Char.isAlphanum (l := s)).count_le '_'
    omega

theorem eq_underscores_of_isUnderscoreFenced {s : List Char} (h : isUnderscoreFenced s = true)
    (hlength : s.length = 2) : s = ['_', '_'] := by
  have hcount : s.count '_' = s.length :=
    Nat.le_antisymm List.count_le_length (hlength ▸ two_le_count_of_isUnderscoreFenced h)
  rw [List.eq_replicate_of_mem fun c hc => (List.count_eq_length.1 hcount c hc).symm, hlength]
  rfl

theorem not_isAlternating_of_isUnderscoreFenced {s : List Char} (h : isUnderscoreFenced s = true) :
    isAlternating s = false := by
  rw [Bool.eq_false_iff]
  intro hs
  have hmem : '_' ∈ s := List.count_pos_iff.1 (by have := two_le_count_of_isUnderscoreFenced h; omega)
  exact absurd ((alphanum_of_isAlternating hs).2 '_' hmem) (by decide)

end Shape

theorem Signature.mem_all (s : Signature) : s ∈ Signature.all := by
  cases s <;> decide

/-! ## Order of numbers -/

theorem le_iff_unpack {a b : Float} : a ≤ b ↔ a.toModel.unpack.le b.toModel.unpack = true :=
  decide_eq_true_iff (p := a.toModel ≤ b.toModel)

theorem lt_iff_unpack {a b : Float} : a < b ↔ a.toModel.unpack.lt b.toModel.unpack = true :=
  decide_eq_true_iff (p := a.toModel < b.toModel)

theorem not_lt_of_le_low {e : Float} (h : e ≤ 3.5) : ¬ 3.5 < e ∧ ¬ 4.0 < e := by
  have hlow : (3.5 : Float).toModel.unpack = .finite .positive 7881299347898368 (-51) (by decide) := rfl
  have hhigh : (4.0 : Float).toModel.unpack = .finite .positive 4503599627370496 (-50) (by decide) := rfl
  rw [le_iff_unpack, hlow] at h
  rw [lt_iff_unpack, lt_iff_unpack, hlow, hhigh]
  generalize e.toModel.unpack = u at h ⊢
  cases u with
  | notANumber | zero s => exact ⟨Bool.false_ne_true, Bool.false_ne_true⟩
  | infinity s =>
    cases s with
    | negative => exact ⟨Bool.false_ne_true, Bool.false_ne_true⟩
    | positive => exact absurd h Bool.false_ne_true
  | finite s m x hm =>
    cases s with
    | negative => exact ⟨Bool.false_ne_true, Bool.false_ne_true⟩
    | positive =>
      -- Between positive numbers the exponents decide, and the mantissas where these are equal.
      change ((compare x (-51)).then (compare m 7881299347898368)).isLE = true at h
      change ¬ (some ((compare (-51) x).then (compare 7881299347898368 m)) == some .lt) = true ∧
        ¬ (some ((compare (-50) x).then (compare 4503599627370496 m)) == some .lt) = true
      simp only [Ordering.isLE_then_iff_or, Ordering.then_eq_lt, beq_iff_eq, Option.some.injEq, Int.compare_eq_lt,
        Int.compare_eq_eq, Nat.compare_eq_lt, Nat.isLE_compare] at h ⊢
      omega

namespace Classifier

variable {k : Classifier} {name : String} {e : Float}

theorem tool?_eq_none_iff : k.tool? name = none ↔ ∀ s : Signature, s.tool? ≠ none → k.bears name s = false := by
  simp only [tool?, signatures, List.findSome?_eq_none_iff, List.mem_filter, Signature.mem_all, true_and]
  exact forall_congr' fun s => by cases k.bears name s <;> simp

theorem signaturePoints_filter_cons (p : Signature → Bool) (s : Signature) (l : List Signature) :
    signaturePoints ((s :: l).filter p) = (if p s then s.weight else 0) + signaturePoints (l.filter p) := by
  rw [List.filter_cons]
  split <;> simp [signaturePoints]

theorem signaturePoints_filter_all {p : Signature → Bool} (h : ∀ s : Signature, s.tool? ≠ none → p s = false) :
    signaturePoints (Signature.all.filter p) =
      (if p .underscoreFenced then 25 else 0) + (if p .alternatingAlnum then 12 else 0) := by
  simp only [Signature.all, signaturePoints_filter_cons, h .shortLetters nofun, h .confusableOnly nofun,
    h .sequentialPrefix nofun, h .extendedChars nofun, h .longHex nofun, Signature.weight]
  simp [signaturePoints]

/-- A name that points to no tool has points for its fence or for its alternation, never for both. -/
theorem signaturePoints_of_tool?_eq_none (h : k.tool? name = none) :
    signaturePoints (k.signatures name) =
      if Shape.isUnderscoreFenced name.toList then 25 else if Shape.isAlternating name.toList then 12 else 0 := by
  rw [signatures, signaturePoints_filter_all (tool?_eq_none_iff.1 h)]
  change (if Shape.isUnderscoreFenced name.toList then 25 else 0) +
    (if Shape.isAlternating name.toList then 12 else 0) = _
  cases hfenced : Shape.isUnderscoreFenced name.toList with
  | false => simp
  | true => simp [Shape.not_isAlternating_of_isUnderscoreFenced hfenced]

/-! ## Points for entropy -/

theorem entropyPoints_le (e : Float) : entropyPoints e ≤ 20 := by
  unfold entropyPoints
  split_ifs <;> omega

theorem entropyPoints_eq_zero (h : e ≤ 3.5) : entropyPoints e = 0 := by
  simp [entropyPoints, not_lt_of_le_low h]

theorem lengthPoints_add_entropyPoints_le {n : Nat} (hn : 3 ≤ n) (h : n ≤ 4 → e ≤ 3.5) :
    lengthPoints n + entropyPoints e ≤ 20 := by
  have hentropy := entropyPoints_le e
  unfold lengthPoints
  split
  · omega
  · omega
  · simp [entropyPoints_eq_zero (h (by omega))]
  · simp [entropyPoints_eq_zero (h (by omega))]
  · omega

/-! ## Two underscores -/

theorem tool?_underscores : k.tool? "__" = none ↔ '_' ∉ k.confusable := by
  have hbears : k.bears "__" .confusableOnly = k.confusable.contains '_' := by
    simp [bears, isConfusable, Shape.isSequentialPrefix]
  rw [tool?_eq_none_iff]
  constructor
  · intro h hmem
    have hnot := h .confusableOnly nofun
    simp [hbears, hmem] at hnot
  · intro h s hs
    cases s with
    | confusableOnly => simpa [hbears] using h
    | shortLetters | sequentialPrefix | longHex => rfl
    | extendedChars =>
      change "__".toList.any Shape.isExtended = false
      decide +kernel
    | underscoreFenced | alternatingAlnum | numericSuffix | lambdaSuffix => exact absurd rfl hs

theorem score_underscores (hconfusable : '_' ∉ k.confusable) (h : e ≤ 3.5) :
    score "__" (k.signatures "__") e = 55 := by
  have hpoints : signaturePoints (k.signatures "__") = 25 := by
    rw [signaturePoints_of_tool?_eq_none (tool?_underscores.2 hconfusable)]
    decide +kernel
  rw [score, hpoints, entropyPoints_eq_zero h]
  decide +kernel

theorem eq_underscores_of_confident (hshort : name.length ≤ 4 → e ≤ 3.5)
    (hconfident : 50 ≤ score name (k.signatures name) e) (hstructural : k.isStructural name = false)
    (htool : k.tool? name = none) : name = "__" := by
  have hpoints := signaturePoints_of_tool?_eq_none htool
  rw [score] at hconfident
  rw [← String.length_toList] at hconfident hshort
  rw [← String.toList_inj]
  rcases hs : name.toList with _ | ⟨a, _ | ⟨b, _ | ⟨c, r⟩⟩⟩
  · simp [hs] at hconfident
  · simp [isStructural, hs] at hstructural
  · -- Without the fence two characters have no more than the points for being two.
    have hlength : name.toList.length = 2 := by simp [hs]
    have hfenced : Shape.isUnderscoreFenced name.toList = true := by
      have halternating : Shape.isAlternating name.toList = false := by
        rw [Bool.eq_false_iff]
        intro h
        have := (Shape.alphanum_of_isAlternating h).1
        omega
      by_contra hnot
      rw [hpoints, entropyPoints_eq_zero (hshort (by omega)), hlength] at hconfident
      simp [halternating, hnot, lengthPoints] at hconfident
    rw [← hs, Shape.eq_underscores_of_isUnderscoreFenced hfenced hlength]
    decide
  · -- Length and entropy together are worth 20 points here, and signatures 25.
    have hrest := lengthPoints_add_entropyPoints_le (by simp [hs]) hshort
    have hle : signaturePoints (k.signatures name) ≤ 25 := by
      rw [hpoints]
      split_ifs <;> omega
    split_ifs at hconfident <;> omega

/-- Names that reach fifty percent give themselves away by their shape or point to a tool, all but `"__"` where the
underscore is not confusable. That name has 55 percent. It is so for the score by any number in the place of entropy,
the entropy of the name among them, that is low for names of up to four characters. -/
theorem confident_iff (k : Classifier) (name : String) (e : Float) (hshort : name.length ≤ 4 → e ≤ 3.5) :
    k.confidence name = score name (k.signatures name) (entropy name) ∧
    ((50 ≤ score name (k.signatures name) e ∧ k.isStructural name = false ∧ k.tool? name = none) ↔
      name = "__" ∧ '_' ∉ k.confusable) ∧
    (name = "__" → '_' ∉ k.confusable → score name (k.signatures name) e = 55) := by
  have hunderscores : name = "__" → '_' ∉ k.confusable → score name (k.signatures name) e = 55 := by
    rintro rfl hconfusable
    exact score_underscores hconfusable (hshort (by decide))
  refine ⟨rfl, ⟨?_, ?_⟩, hunderscores⟩
  · rintro ⟨hconfident, hstructural, htool⟩
    obtain rfl := eq_underscores_of_confident hshort hconfident hstructural htool
    exact ⟨rfl, tool?_underscores.1 htool⟩
  · rintro ⟨rfl, hconfusable⟩
    have hletters : (Text.isLetter '_' && Text.isLetter '_') = false := by decide +kernel
    exact ⟨by rw [hunderscores rfl hconfusable]; decide, hletters, tool?_underscores.2 hconfusable⟩

/-- A classifier that takes underscores for what they are. -/
def withoutUnderscore : Classifier where
  confusable := ['l', 'I', '1', '0', 'O', 'o']

theorem confident_iff_underscores :
    (-0.0 : Float) ≤ 3.5 ∧ '_' ∉ withoutUnderscore.confusable ∧
      score "__" (withoutUnderscore.signatures "__") (-0.0) = 55 ∧
      withoutUnderscore.isStructural "__" = false ∧ withoutUnderscore.tool? "__" = none := by
  have hlow : (-0.0 : Float) ≤ 3.5 := by decide +kernel
  have hconfusable : '_' ∉ withoutUnderscore.confusable := by decide
  obtain ⟨-, hexception, hscore⟩ := confident_iff withoutUnderscore "__" (-0.0) fun _ => hlow
  exact ⟨hlow, hconfusable, hscore rfl hconfusable, (hexception.2 ⟨rfl, hconfusable⟩).2⟩

end Classifier

end Unmask
