import Mathlib.Algebra.BigOperators.Group.List.Basic
import Mathlib.Data.List.Perm.Basic
import Unmask.Rule
/-!
# Counting characters

Adding up numbers of limited precision depends on their order, so it is not plain that a name and its characters in
another order have the same entropy. They have because nothing is added before the whole name is counted. A `Histogram`
has one counter for each Latin-1 code point and one for all of them. A walk through the name counts every character
once (`Holds.note`, `Holds.foldl`), the wide ones nowhere, and below 2 ^ 32 characters no counter runs over. The terms of
the sum come in the order of the counters then, whatever the order of the characters was.

`entropy_ofName` says that counters and `occurrences` give the same entropy, and `entropy_by_counts` what follows for two
names.
-/

namespace Unmask

/-- Counters of 32 bits: one for each Latin-1 code point, and one for all of them. -/
structure Histogram where
  counts : Vector UInt32 256 := Vector.replicate 256 0
  total : UInt32 := 0

namespace Histogram

/-- Counts a character, unless it is wide. -/
def note (t : Histogram) (c : Char) : Histogram :=
  if h : c.toNat < 256 then ⟨t.counts.set c.toNat (t.counts[c.toNat] + 1), t.total + 1⟩ else t

/-- The characters of a name, counted one after the other. -/
def ofName (name : String) : Histogram := name.toList.foldl note {}

/-- What a counter adds to the entropy. -/
def term (t : Histogram) (count : UInt32) : Float :=
  let p := Float.ofNat count.toNat / Float.ofNat t.total.toNat;
  -p * p.log2

/-- The entropy of what was counted. The terms are added in the order of the counters. -/
def entropy (t : Histogram) : Float :=
  if t.total = 0 then 0.0 else ((t.counts.toList.filter (0 < ·)).map t.term).foldl (· + ·) (-0.0)

/-! ## Every character is counted once -/

/-- The counters hold how often each code point is among some characters. -/
structure Holds (t : Histogram) (seen : List Char) : Prop where
  counts : ∀ i (_ : i < 256), t.counts[i].toNat = seen.countP (·.toNat == i)
  total : t.total.toNat = seen.countP (·.toNat < 256)

theorem holds_empty : Holds {} [] where
  counts i hi := by simp
  total := rfl

theorem toNat_succ_of_countP {n : UInt32} {seen : List Char} {p : Char → Bool} (h : n.toNat = seen.countP p)
    (hroom : seen.length + 1 < 2 ^ 32) : (n + 1).toNat = seen.countP p + 1 := by
  have hle : seen.countP p ≤ seen.length := List.countP_le_length
  rw [UInt32.toNat_add, h]
  exact Nat.mod_eq_of_lt (by simp; omega)

theorem Holds.note {t : Histogram} {seen : List Char} (h : Holds t seen) (hroom : seen.length + 1 < 2 ^ 32)
    (c : Char) : Holds (t.note c) (seen ++ [c]) := by
  unfold Histogram.note
  split
  next hc =>
    constructor
    · intro i hi
      rw [List.countP_append, Vector.getElem_set]
      split
      next he =>
        subst he
        rw [toNat_succ_of_countP (h.counts _ hc) hroom]
        simp
      next hne => simp [h.counts i hi, hne]
    · rw [List.countP_append, toNat_succ_of_countP h.total hroom]
      simp [hc]
  next hc =>
    constructor
    · intro i hi
      have hne : c.toNat ≠ i := by omega
      simp [h.counts i hi, hne]
    · simp [h.total, hc]

theorem Holds.foldl {t : Histogram} {seen : List Char} (h : Holds t seen) (rest : List Char)
    (hroom : (seen ++ rest).length < 2 ^ 32) : Holds (rest.foldl Histogram.note t) (seen ++ rest) := by
  induction rest generalizing t seen with
  | nil => simpa using h
  | cons c rest ih =>
    rw [List.append_cons] at hroom ⊢
    have hlength : seen.length + 1 < 2 ^ 32 := by
      simp only [List.length_append, List.length_singleton] at hroom
      omega
    exact ih (h.note hlength c) hroom

theorem holds_ofName {name : String} (hroom : name.length < 2 ^ 32) : Holds (ofName name) name.toList :=
  holds_empty.foldl name.toList (by rwa [List.nil_append, String.length_toList])

/-! ## Counters and occurrences -/

theorem Holds.map_toNat {t : Histogram} {name : List Char} (h : Holds t name) :
    t.counts.toList.map UInt32.toNat = occurrences name := by
  apply List.ext_getElem
  · simp [occurrences]
  · intro i hi _
    have hi' : i < 256 := by simpa using hi
    simp [occurrences, h.counts i hi']

theorem countP_lt_succ (name : List Char) (n : Nat) :
    name.countP (·.toNat < n + 1) = name.countP (·.toNat < n) + name.countP (·.toNat == n) := by
  induction name with
  | nil => rfl
  | cons c rest ih =>
    simp only [List.countP_cons, ih]
    grind

theorem sum_occurrences (name : List Char) :
    (occurrences name).foldr (· + ·) 0 = name.countP (·.toNat < 256) := by
  unfold occurrences
  rw [← List.sum_eq_foldr]
  -- On how many code points are looked at.
  induction 256 with
  | zero => simp
  | succ n ih => rw [List.sum_range_succ, ih, countP_lt_succ]

theorem entropy_ofName {name : String} (hroom : name.length < 2 ^ 32) :
    (ofName name).entropy = Unmask.entropy name := by
  have h := holds_ofName hroom
  have htotal : (ofName name).total.toNat = (occurrences name.toList).foldr (· + ·) 0 := by
    rw [sum_occurrences, h.total]
  have hzero : (ofName name).total = 0 ↔ (occurrences name.toList).foldr (· + ·) 0 = 0 := by
    rw [← htotal, ← UInt32.toNat_inj]
    rfl
  unfold entropy Unmask.entropy entropyOfCounts
  simp only [hzero]
  split
  · rfl
  · have hpositive : ((0 < ·) : Nat → Bool) ∘ UInt32.toNat = ((0 < ·) : UInt32 → Bool) := by
      funext count
      simp [UInt32.lt_iff_toNat_lt]
    rw [← htotal, ← h.map_toNat, List.filter_map, hpositive, List.foldl_map, List.foldl_map]
    rfl

end Histogram

/-! ## Names of the same counts -/

/-- Whether every Latin-1 character is in both names equally often. -/
def SameCounts (a b : String) : Prop := ∀ c : Char, c.toNat < 256 → a.toList.count c = b.toList.count c

/-- The characters of a name that are counted. -/
def counted (name : String) : List Char := name.toList.filter (·.toNat < 256)

variable {a b : String}

theorem sameCounts_iff_perm : SameCounts a b ↔ (counted a).Perm (counted b) := by
  rw [List.perm_iff_count]
  apply forall_congr'
  intro c
  unfold counted
  by_cases hc : c.toNat < 256
  · have hnarrow : ∀ l : List Char, (l.filter (·.toNat < 256)).count c = l.count c :=
      fun l => List.count_filter (by simpa using hc)
    simp [hc, hnarrow]
  · have hwide : ∀ l : List Char, (l.filter (·.toNat < 256)).count c = 0 := by
      intro l
      apply List.count_eq_zero_of_not_mem
      simp [hc]
    simp [hc, hwide]

theorem SameCounts.occurrences_eq (h : SameCounts a b) : occurrences a.toList = occurrences b.toList := by
  unfold occurrences
  apply List.map_congr_left
  intro code hcode
  have hlt : code < 256 := List.mem_range.1 hcode
  have hvalid : code.isValidChar := .inl (by omega)
  have htoNat : (Char.ofNat code).toNat = code := by
    rw [Char.ofNat, dif_pos hvalid]
    rfl
  have hcount : ∀ l : List Char, l.countP (·.toNat == code) = l.count (Char.ofNat code) := by
    intro l
    apply List.countP_congr
    intro c _
    simp only [beq_iff_eq]
    constructor
    · intro hc
      rw [← hc, Char.ofNat_toNat]
    · rintro rfl
      exact htoNat
  rw [hcount, hcount]
  apply h
  rwa [htoNat]

namespace Histogram

theorem Holds.unique {t t' : Histogram} {name name' : List Char} (h : Holds t name) (h' : Holds t' name')
    (hsame : occurrences name = occurrences name') : t = t' := by
  have hcounts : t.counts = t'.counts := by
    apply Vector.toList_inj.1
    apply List.map_injective_iff.2 fun _ _ => UInt32.toNat_inj.1
    rw [h.map_toNat, h'.map_toNat, hsame]
  have htotal : t.total = t'.total := by
    rw [← UInt32.toNat_inj, h.total, h'.total, ← sum_occurrences, ← sum_occurrences, hsame]
  cases t
  cases t'
  congr

end Histogram

/-- Entropy is the entropy of the counters, and two names in which every Latin-1 character is equally often leave them
the same. So entropy does not change with the order of characters, nor with wide characters that come or go, and names
of one length are judged alike by it. -/
theorem entropy_by_counts (a b : String) (ha : a.length < 2 ^ 32) (hb : b.length < 2 ^ 32) :
    (Histogram.ofName a).entropy = entropy a ∧
    (SameCounts a b → Histogram.ofName a = Histogram.ofName b ∧ entropy a = entropy b) ∧
    (a.toList.Perm b.toList → entropy a = entropy b) ∧
    (counted a = counted b → entropy a = entropy b) ∧
    (SameCounts a b → a.length = b.length → ∀ k : Classifier,
      k.isHighEntropy? a = k.isHighEntropy? b ∧
      ∀ s t : Symbol, s.name = a → t.name = b → (Rule.entropy k).verdict s = (Rule.entropy k).verdict t) := by
  have hsame : SameCounts a b → entropy a = entropy b := fun h => entropy_eq_of_occurrences h.occurrences_eq
  refine ⟨Histogram.entropy_ofName ha, fun h => ⟨?_, hsame h⟩, fun h => ?_, fun h => ?_, ?_⟩
  · exact (Histogram.holds_ofName ha).unique (Histogram.holds_ofName hb) h.occurrences_eq
  · exact hsame (sameCounts_iff_perm.2 (h.filter _))
  · exact hsame (sameCounts_iff_perm.2 (h ▸ List.Perm.refl _))
  · intro h hlength k
    have hhigh : k.isHighEntropy? a = k.isHighEntropy? b := by
      unfold Classifier.isHighEntropy?
      rw [hlength, hsame h]
    refine ⟨hhigh, ?_⟩
    intro s t hs ht
    simp only [Rule.verdict, hs, ht, hhigh]

theorem entropy_by_counts_wide :
    "aba\u4e2d".length < 2 ^ 32 ∧ "\u6587baa".length < 2 ^ 32 ∧ SameCounts "aba\u4e2d" "\u6587baa" ∧
      (Histogram.ofName "aba\u4e2d").total = 3 ∧ Histogram.ofName "aba\u4e2d" = Histogram.ofName "\u6587baa" ∧
      entropy "aba\u4e2d" = entropy "\u6587baa" ∧ entropy "aba\u4e2d" = entropy "aba" ∧
      ∀ k : Classifier, k.isHighEntropy? "aba\u4e2d" = k.isHighEntropy? "\u6587baa" := by
  have hroom : "aba\u4e2d".length < 2 ^ 32 ∧ "\u6587baa".length < 2 ^ 32 := by decide +kernel
  have hsame : SameCounts "aba\u4e2d" "\u6587baa" := sameCounts_iff_perm.2 (by decide +kernel)
  obtain ⟨-, hequal, -, -, hjudged⟩ := entropy_by_counts "aba\u4e2d" "\u6587baa" hroom.1 hroom.2
  obtain ⟨-, -, -, hinserted, -⟩ := entropy_by_counts "aba\u4e2d" "aba" hroom.1 (by decide +kernel)
  exact ⟨hroom.1, hroom.2, hsame, by decide +kernel, (hequal hsame).1, (hequal hsame).2,
    hinserted (by decide +kernel), fun k => (hjudged hsame (by decide +kernel) k).1⟩

end Unmask
