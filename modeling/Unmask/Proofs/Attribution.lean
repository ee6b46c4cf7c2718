import Unmask.Proofs.Confidence
import Unmask.Proofs.Surveys
/-!
# Names that vote

To point to a tool is one thing and to look obfuscated is another, and only names that do both have a vote. A name
that bears a signature has at least the points of that signature and of its length
(`isLikelyObfuscated_of_bears`). That makes fifty for confusable characters alone, for short letters, where `a$b` just
reaches it, and for any tool's signature in a name of one or two characters. Eight hexadecimal digits have no more than
forty points, but the look of encoded data. The others may well be out: `zzA` points to a tool and has 45 points.
-/

namespace Unmask

namespace Shape

theorem length_of_isShortLetters {s : List Char} (h : isShortLetters s = true) : 1 ≤ s.length ∧ s.length ≤ 3 := by
  unfold isShortLetters at h
  split at h
  · simp
  · simp
  · simp
  · cases h

end Shape

namespace Classifier

variable {k : Classifier} {name : String} {s : Signature} {t : Tool}

theorem bears_of_tool? (h : k.tool? name = some t) : ∃ s, k.bears name s = true ∧ s.tool? = some t := by
  obtain ⟨s, hs, ht⟩ := List.exists_of_findSome?_eq_some h
  exact ⟨s, (List.mem_filter.1 hs).2, ht⟩

theorem length_pos_of_bears (hb : k.bears name s = true) (ht : s.tool? ≠ none) : 0 < name.length := by
  rw [← String.length_toList]
  apply List.length_pos_of_ne_nil
  intro hnil
  cases s with
  | shortLetters | confusableOnly | sequentialPrefix | extendedChars | longHex =>
    simp [bears, isConfusable, hnil, Shape.isShortLetters, Shape.isSequentialPrefix, Shape.isLongHex] at hb
  | underscoreFenced | alternatingAlnum | numericSuffix | lambdaSuffix => exact ht rfl

/-! ## Points of a signature -/

theorem weight_le_signaturePoints {l : List Signature} (h : s ∈ l) : s.weight ≤ signaturePoints l := by
  induction l with
  | nil => simp at h
  | cons a l ih =>
    have hcons : signaturePoints (a :: l) = a.weight + signaturePoints l := rfl
    rw [hcons]
    rcases List.mem_cons.1 h with rfl | h
    · exact Nat.le_add_right _ _
    · exact Nat.le_add_left_of_le (ih h)

/-- Whatever its entropy is, a name has the points of its length and of each signature that it bears. -/
theorem isLikelyObfuscated_of_bears (hb : k.bears name s = true) (hpos : 0 < name.length)
    (h : 50 ≤ lengthPoints name.length + s.weight) : k.isLikelyObfuscated name = true := by
  have hweight : s.weight ≤ signaturePoints (k.signatures name) :=
    weight_le_signaturePoints (List.mem_filter.2 ⟨Signature.mem_all s, hb⟩)
  have hconfident : 50 ≤ k.confidence name := by
    unfold confidence score
    rw [if_neg (by omega)]
    omega
  have hne : name.toList ≠ [] := by
    rw [← String.length_toList] at hpos
    exact List.ne_nil_of_length_pos hpos
  simp [isLikelyObfuscated, hne, hconfident]

theorem isLikelyObfuscated_of_hex (hlength : 8 ≤ name.length) (hhex : name.toList.all Shape.isHex = true) :
    k.isLikelyObfuscated name = true := by
  rw [← String.length_toList] at hlength
  have hencoded : Shape.looksEncoded name.toList = true := by
    simp only [Shape.looksEncoded, hhex, Bool.and_true, Bool.or_eq_true, decide_eq_true_eq]
    omega
  have hstructural : k.isStructural name = true := by
    unfold isStructural
    split <;> simp_all
  have hne : name.toList ≠ [] := List.ne_nil_of_length_pos (by omega)
  simp [isLikelyObfuscated, hne, hstructural]

/-! ## Names that look obfuscated because of their tool -/

/-- The name points to the tool, and either to one of the two whose names always count, or in two characters at most,
or by eight hexadecimal digits or more. -/
def Telling (k : Classifier) (name : String) (t : Tool) : Prop :=
  k.tool? name = some t ∧
    (t = .proguard ∨ t = .allatori ∨ name.length ≤ 2 ∨
      t = .hashBased ∧ 8 ≤ name.length ∧ name.toList.all Shape.isHex = true)

theorem Telling.isLikelyObfuscated (h : Telling k name t) : k.isLikelyObfuscated name = true := by
  obtain ⟨htool, hcase⟩ := h
  obtain ⟨s, hb, hs⟩ := bears_of_tool? htool
  have hpos : 0 < name.length := length_pos_of_bears hb (by simp [hs])
  rcases hcase with rfl | rfl | hshort | ⟨-, hlength, hhex⟩
  · obtain rfl : s = .shortLetters := by cases s <;> simp_all [Signature.tool?]
    have hlength := Shape.length_of_isShortLetters hb
    rw [String.length_toList] at hlength
    refine isLikelyObfuscated_of_bears hb hpos ?_
    have : name.length = 1 ∨ name.length = 2 ∨ name.length = 3 := by omega
    rcases this with h | h | h <;> simp [h, lengthPoints, Signature.weight]
  · obtain rfl : s = .confusableOnly := by cases s <;> simp_all [Signature.tool?]
    exact isLikelyObfuscated_of_bears hb hpos (Nat.le_add_left _ _)
  · have hweight : 30 ≤ s.weight := by cases s <;> simp_all [Signature.tool?, Signature.weight]
    have hpoints : 30 ≤ lengthPoints name.length := by
      have : name.length = 1 ∨ name.length = 2 := by omega
      rcases this with h | h <;> simp [h, lengthPoints]
    exact isLikelyObfuscated_of_bears hb hpos (by omega)
  · exact isLikelyObfuscated_of_hex hlength hhex

end Classifier

/-! ## Votes of classes -/

namespace Survey

variable {k : Classifier} {t : Tool}

theorem votes_of_classes (k : Classifier) {set : SymbolSet} {before after : List ClassDecl} {c : ClassDecl}
    (h : set.classes = before ++ c :: after) :
    votes k set = votes k { set with classes := before } ++
      (if k.isLikelyObfuscated c.name then k.tool? c.name else none).toList ++
      votes k { set with classes := after } := by
  unfold votes
  rw [h, List.filterMap_append, List.filterMap_cons]
  cases (if k.isLikelyObfuscated c.name then k.tool? c.name else none) <;> simp

theorem count_votes (set : SymbolSet)
    (h : ∀ c ∈ set.classes, k.tool? c.name = some t → k.isLikelyObfuscated c.name = true) :
    (votes k set).count t = set.classes.countP fun c => k.tool? c.name = some t := by
  unfold votes
  rw [List.count_filterMap]
  apply List.countP_congr
  intro c hc
  by_cases htool : k.tool? c.name = some t
  · simp [htool, h c hc htool]
  · split_ifs <;> simp [htool]

/-- Names that point to ProGuard or Allatori, to any tool in two characters at most, or by eight hexadecimal digits to
the makers of hashes, look obfuscated by any classifier. So a class of such a name casts one vote for its tool when its
turn comes, and ProGuard and Allatori have the votes of all classes that point to them. -/
theorem telling_votes (k : Classifier) (t : Tool) :
    (∀ name, k.Telling name t → k.isLikelyObfuscated name = true) ∧
    (∀ (set : SymbolSet) (before : List ClassDecl) (c : ClassDecl) (after : List ClassDecl),
      set.classes = before ++ c :: after → k.Telling c.name t →
        votes k set = votes k { set with classes := before } ++ t :: votes k { set with classes := after } ∧
        tally (votes k set) = (votes k { set with classes := after }).foldl cast
          (cast (tally (votes k { set with classes := before })) t)) ∧
    (t = .proguard ∨ t = .allatori → ∀ set : SymbolSet,
      (votes k set).count t = set.classes.countP fun c => k.tool? c.name = some t) := by
  refine ⟨fun name h => h.isLikelyObfuscated, ?_, ?_⟩
  · intro set before c after hclasses htelling
    have hvotes : votes k set =
        votes k { set with classes := before } ++ t :: votes k { set with classes := after } := by
      rw [votes_of_classes k hclasses, htelling.isLikelyObfuscated, htelling.1]
      simp
    refine ⟨hvotes, ?_⟩
    rw [hvotes, tally_eq_foldl, tally_eq_foldl, List.foldl_append, List.foldl_cons]
  · intro ht set
    apply count_votes
    intro c _ htool
    have htelling : k.Telling c.name t := ⟨htool, ht.elim .inl fun h => .inr (.inl h)⟩
    exact htelling.isLikelyObfuscated

/-- Two classes that point to a tool, of which the second just looks obfuscated. -/
def shortNames : SymbolSet where
  classes := [ClassDecl.ofName "p.zzA", { ClassDecl.ofName "p.a" with name := "a$b" }]

theorem telling_votes_dollar :
    ({} : Classifier).Telling "a$b" .proguard ∧ ({} : Classifier).isLikelyObfuscated "a$b" = true ∧
      votes {} shortNames = votes {} { shortNames with classes := [ClassDecl.ofName "p.zzA"] } ++ [.proguard] ∧
      (votes {} shortNames).count .proguard = 1 := by
  have htelling : ({} : Classifier).Telling "a$b" .proguard := ⟨by decide +kernel, .inl rfl⟩
  obtain ⟨hlikely, hvote, hcount⟩ := telling_votes {} .proguard
  refine ⟨htelling, hlikely _ htelling, (hvote shortNames [_] _ [] rfl htelling).1, ?_⟩
  rw [hcount (.inl rfl)]
  decide +kernel

end Survey

end Unmask
