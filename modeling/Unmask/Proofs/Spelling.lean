import Mathlib.Data.List.TakeWhile
import Unmask.Proofs.Identifiers
import Unmask.Proofs.Parameters
/-!
# Parameters that can be declared

Most suggestions are words from tables with a number behind them, and can be declared. A class outside of the tables
spells its own word, which is taken from its name in small letters. Even where the name is made of identifiers that may
go wrong in three ways. The class may open with a numeral, as anonymous classes do. It may have the dotted capital I
among its opening capitals, whose small form ends in a dot that stands in no identifier; no other character has such a
form (`lower_of_ne`). And the word may be reserved, but that only matters at the first place: elsewhere, and in arrays,
something follows it. `suggestAll_identifiers_iff` says that these are all the ways.
-/

namespace Unmask

namespace Text

/-! ## Small letters in identifiers -/

/-- Whether the code points of a span are letters, by the table or because they are in `a`-`z`. -/
def spansLetters (lo hi : Nat) : Bool :=
  -- The kernel computes `Nat.ble` at once, and most spans of the table fail on the first comparison.
  (0x61 ≤ lo && hi ≤ 0x7A) ||
    (0x80 ≤ lo && (hi < 0xD800 || (0xE000 ≤ lo && hi < 0x110000)) &&
      letters.spans.any fun s => Nat.ble hi s.2 && Nat.ble s.1 lo)

theorem isLetter_ofNat {lo hi n : Nat} (h : spansLetters lo hi = true) (hlo : lo ≤ n) (hhi : n ≤ hi) :
    isLetter (Char.ofNat n) = true := by
  simp only [spansLetters, Bool.or_eq_true, Bool.and_eq_true, decide_eq_true_eq, List.any_eq_true, Nat.ble_eq] at h
  rcases h with ⟨ha, hz⟩ | ⟨⟨hlow, hvalid⟩, s, hs, hspan⟩
  · have hsmall : ∀ n < 0x7B, 0x61 ≤ n → isLetter (Char.ofNat n) = true := by decide +kernel
    exact hsmall n (by omega) (by omega)
  · have htoNat : (Char.ofNat n).toNat = n := by
      have hn : n.isValidChar := by
        unfold Nat.isValidChar
        omega
      rw [Char.ofNat, dif_pos hn]
      rfl
    have hcontains : letters.contains (Char.ofNat n) = true := by
      simp only [CodeSet.contains, htoNat, Bool.or_eq_true, List.any_eq_true]
      exact .inl ⟨s, hs, by simp; omega⟩
    rw [isLetter, htoNat, if_neg (by omega), hcontains]

theorem lowerShifts_letters : ∀ s ∈ lowerShifts, 0 ≤ (s.1 : Int) + s.2.2 ∧ spansLetters s.1 s.2.1 = true ∧
    spansLetters ((s.1 : Int) + s.2.2).toNat ((s.2.1 : Int) + s.2.2).toNat = true := by
  decide +kernel

theorem lowerPairs_letters : ∀ p ∈ lowerPairs, spansLetters p.1 (p.2 + 1) = true := by
  decide +kernel

theorem lowerCode_cases (n : Nat) :
    lowerCode n = n ∨ isLetter (Char.ofNat n) = true ∧ isLetter (Char.ofNat (lowerCode n)) = true := by
  unfold lowerCode
  split
  next lo hi shift hfind =>
    have hspan := List.find?_some hfind
    simp only [Bool.and_eq_true, decide_eq_true_eq] at hspan
    obtain ⟨hpos, hfrom, hto⟩ := lowerShifts_letters _ (List.mem_of_find?_eq_some hfind)
    refine .inr ⟨isLetter_ofNat hfrom hspan.1 hspan.2, isLetter_ofNat hto ?_ ?_⟩
    · simp only [Int.ofNat_eq_natCast]
      omega
    · simp only [Int.ofNat_eq_natCast]
      omega
  next =>
    split_ifs with hpair
    · obtain ⟨p, hp, hspan⟩ := List.any_eq_true.1 hpair
      simp only [Bool.and_eq_true, decide_eq_true_eq] at hspan
      have hletters := lowerPairs_letters p hp
      exact .inr ⟨isLetter_ofNat hletters hspan.1.1 (by omega), isLetter_ofNat hletters (by omega) (by omega)⟩
    · exact .inl rfl

/-- Every character but the dotted capital I has a small form of one character, which may stand in identifiers where
the character itself may. -/
theorem lower_of_ne {c : Char} (h : c ≠ '\u0130') :
    ∃ d, lower c = [d] ∧ isIdentifierStart d = isIdentifierStart c ∧ isIdentifierRest d = isIdentifierRest c := by
  by_cases hascii : c.toNat < 0x80
  · have hall : ∀ n < 0x80, isIdentifierStart (Char.ofNat n).toLower = isIdentifierStart (Char.ofNat n) ∧
        isIdentifierRest (Char.ofNat n).toLower = isIdentifierRest (Char.ofNat n) := by decide +kernel
    refine ⟨c.toLower, lower_of_ascii hascii, ?_⟩
    simpa using hall c.toNat hascii
  · have hne : c.toNat ≠ 0x130 := fun he => h (by rw [← Char.ofNat_toNat c, he])
    refine ⟨Char.ofNat (lowerCode c.toNat), by simp [lower, hascii, hne], ?_⟩
    rcases lowerCode_cases c.toNat with he | ⟨hc, hd⟩
    · rw [he, Char.ofNat_toNat]
      exact ⟨rfl, rfl⟩
    · rw [Char.ofNat_toNat] at hc
      simp [isIdentifierStart, isIdentifierRest, hc, hd]

theorem lower_dotted : (lower '\u0130').all isIdentifierRest = false := by
  decide +kernel

/-! ## Identifiers, reserved or not -/

/-- Whether a text is made like an identifier, reserved or not. -/
def isShaped (s : List Char) : Bool := s.head?.any isIdentifierStart && s.all isIdentifierRest

theorem isIdentifierRest_of_isIdentifierStart {c : Char} (h : isIdentifierStart c = true) :
    isIdentifierRest c = true := by
  simp only [isIdentifierStart, isIdentifierRest, Bool.or_eq_true] at h ⊢
  rcases h with (h | h) | h
  · exact .inl (.inl (.inl h))
  · exact .inl (.inr h)
  · exact .inr h

theorem isIdentifier_iff (name : String) :
    isIdentifier name = true ↔ isShaped name.toList = true ∧ name ∉ reservedWords := by
  unfold isIdentifier isShaped
  cases name.toList with
  | nil => simp
  | cons c r =>
    by_cases hc : isIdentifierStart c = true
    · simp [hc, isIdentifierRest_of_isIdentifierStart hc]
    · simp [hc]

theorem isShaped_append {a : List Char} (h : a ≠ []) (b : List Char) :
    isShaped (a ++ b) = (isShaped a && b.all isIdentifierRest) := by
  cases a with
  | nil => exact absurd rfl h
  | cons c r => simp [isShaped, Bool.and_assoc]

theorem all_isIdentifierRest_toString (n : Nat) : (toString n).toList.all isIdentifierRest = true := by
  rw [List.all_eq_true]
  intro c hc
  exact isIdentifierRest_of_isPlain (List.all_eq_true.1 (isPlainText_repr n) c hc)

theorem isShaped_append_toString {a : String} (h : a ≠ "") (n : Nat) :
    isShaped (a ++ toString n).toList = isShaped a.toList := by
  rw [String.toList_append, isShaped_append (by simpa using h), all_isIdentifierRest_toString, Bool.and_true]

/-- No reserved word has a number at its end. -/
theorem append_toString_not_mem (a : String) (n : Nat) : a ++ toString n ∉ reservedWords := by
  have hwords : ∀ word ∈ reservedWords, isDigitFree word = true := by decide
  intro hmem
  have hfree := hwords _ hmem
  rw [isDigitFree_append, Nat.toString_eq_repr, (spells_repr n).not_isDigitFree, Bool.and_false] at hfree
  cases hfree

/-! ## Names made of identifiers -/

/-- Identifiers, at least one, with a `.` or a `$` between any two. -/
inductive Qualified : List Char → Prop
  | single {s : List Char} : isIdentifier (String.ofList s) = true → Qualified s
  | cons {s r : List Char} {sep : Char} : isIdentifier (String.ofList s) = true → sep = '.' ∨ sep = '$' →
      Qualified r → Qualified (s ++ sep :: r)

theorem Qualified.isIdentifierRest {s : List Char} (h : Qualified s) {c : Char} (hc : c ∈ s) (hdot : c ≠ '.') :
    isIdentifierRest c = true := by
  have hpart : ∀ {s : List Char}, isIdentifier (String.ofList s) = true → c ∈ s → Text.isIdentifierRest c = true := by
    intro s hs hmem
    rw [isIdentifier_iff, String.toList_ofList, isShaped, Bool.and_eq_true] at hs
    exact List.all_eq_true.1 hs.1.2 c hmem
  induction h with
  | single hs => exact hpart hs hc
  | cons hs hsep _ ih =>
    rcases List.mem_append.1 hc with hc | hc
    · exact hpart hs hc
    · rcases List.mem_cons.1 hc with rfl | hc
      · rcases hsep with rfl | rfl
        · exact absurd rfl hdot
        · decide +kernel
      · exact ih hc

end Text

open Text

namespace Parameter

/-! ## Words from class names -/

theorem all_ownPart {name : List Char} (h : Qualified name) : (ownPart name).all isIdentifierRest = true := by
  rw [List.all_eq_true]
  intro c hc
  rw [ownPart, List.mem_reverse] at hc
  have hmem : c ∈ name := List.mem_reverse.1 ((List.takeWhile_sublist _).subset hc)
  have hdot : c ≠ '.' := by
    have := List.mem_takeWhile_imp hc
    simp only [Bool.and_eq_true, bne_iff_ne] at this
    exact this.1
  exact h.isIdentifierRest hmem hdot

theorem all_leadingWord_iff {word : List Char} {lastUpper : Bool} {r : List Char} (hr : r.all isIdentifierRest = true) :
    (leadingWord word lastUpper r).all isIdentifierRest = true ↔
      word.all isIdentifierRest = true ∧
        (lastUpper = true → '\u0130' ∉ (r.takeWhile isUpper).take (12 - word.length)) := by
  fun_induction leadingWord word lastUpper r with
  | case1 word lastUpper => simp
  | case2 word lastUpper c r hlong => simp [Nat.sub_eq_zero_of_le hlong]
  | case3 word c r hshort hupper ih =>
    rw [List.all_cons, Bool.and_eq_true] at hr
    rw [ih hr.2, List.all_append, Bool.and_eq_true, List.takeWhile_cons_of_pos hupper]
    have hroom : 12 - word.length = 12 - (word.length + 1) + 1 := by omega
    by_cases hc : c = '\u0130'
    · -- The dot of its small form is no part of an identifier, and there is room for it.
      simp [hc, lower_dotted, hroom]
    · obtain ⟨d, hd, -, hrest⟩ := lower_of_ne hc
      simp [hd, hrest, hr.1, hroom, Ne.symm hc]
  | case4 word lastUpper c r hshort hupper hlast => simp [hlast]
  | case5 word lastUpper c r hshort hupper ih =>
    rw [List.all_cons, Bool.and_eq_true] at hr
    rw [ih hr.2, List.takeWhile_cons_of_neg hupper]
    simp [hr.1]

/-- Whether a class name spells a word in the shape of an identifier: it opens as one, and the dotted capital I is
neither its first character nor among the capitals that follow, as far as twelve characters go. -/
def Spellable : List Char → Prop
  | [] => True
  | c :: r => isIdentifierStart c = true ∧ '\u0130' ∉ (c :: r.takeWhile isUpper).take 12

instance : DecidablePred Spellable
  | [] => .isTrue trivial
  | c :: r =>
    inferInstanceAs (Decidable (isIdentifierStart c = true ∧ '\u0130' ∉ (c :: r.takeWhile isUpper).take 12))

theorem isShaped_leadingWord_iff {c : Char} {r : List Char} (h : (c :: r).all isIdentifierRest = true) :
    isShaped (leadingWord (lower c) true r) = true ↔ Spellable (c :: r) := by
  rw [List.all_cons, Bool.and_eq_true] at h
  obtain ⟨rest, hrest⟩ := prefix_leadingWord (lower c) true r
  have hhead : (leadingWord (lower c) true r).head? = (lower c).head? := by
    rw [← hrest, List.head?_append_of_ne_nil _ (lower_ne_nil c)]
  rw [isShaped, hhead, Bool.and_eq_true, all_leadingWord_iff h.2]
  by_cases hc : c = '\u0130'
  · simp [Spellable, hc, lower_dotted]
  · obtain ⟨d, hd, hstart, hrest⟩ := lower_of_ne hc
    simp [Spellable, hd, hstart, hrest, h.1, Ne.symm hc]

theorem isShaped_numbered {word : String} (h : word ≠ "") (index : Nat) :
    isShaped (numbered word index).toList = isShaped word.toList := by
  unfold numbered
  split_ifs
  · rfl
  · exact isShaped_append_toString h index

theorem isShaped_fromClassName_iff {part : List Char} (h : part.all isIdentifierRest = true) (index : Nat) :
    isShaped (fromClassName part index).toList = true ↔ Spellable part := by
  cases part with
  | nil =>
    have hobj : isShaped "obj".toList = true := by decide +kernel
    rw [fromClassName, isShaped_append_toString (by decide), hobj]
    exact ⟨fun _ => trivial, fun _ => rfl⟩
  | cons c r =>
    have hne : String.ofList (leadingWord (lower c) true r) ≠ "" := by
      have := fromClassName_ne_empty (c :: r) 0
      simpa [fromClassName, numbered] using this
    rw [fromClassName, isShaped_numbered hne, String.toList_ofList, isShaped_leadingWord_iff h]

/-! ## Suggestions -/

/-- Whether the classes in a type, also inside arrays, have names that are made of identifiers. -/
def WellNamed : TypeRef → Prop
  | .array element => WellNamed element
  | .object name => Qualified name.toList
  | _ => True

/-- The class name that spells the suggestion for a type, also inside arrays. Texts and the classes of the tables have
their words from there. -/
def spelled? : TypeRef → Option (List Char)
  | .array element => spelled? element
  | .object name =>
    if name = "java.lang.String" ∨ (tableWord? name).isSome then none else some (ownPart name.toList)
  | _ => none

/-- The words that suggestions are made of, those apart that class names spell. -/
def stockWords : List String :=
  ["param", "flag", "b", "ch", "value", "number", "n", "str"] ++ intWords ++ textWords ++ tableWords

theorem usable_stockWords :
    ∀ word ∈ stockWords, word ≠ "" ∧ isShaped word.toList = true ∧ word ∉ reservedWords := by
  decide +kernel

/-- A suggestion from stock is a word, maybe with the place behind it. -/
def IsStock (suggestion : String) (index : Nat) : Prop :=
  ∃ word ∈ stockWords, suggestion = word ∨ suggestion = word ++ toString index

theorem isStock_numbered {word : String} (h : word ∈ stockWords) (index : Nat) :
    IsStock (numbered word index) index := by
  refine ⟨word, h, ?_⟩
  unfold numbered
  split_ifs
  · exact .inl rfl
  · exact .inr rfl

theorem isStock_listed {words : List String} {stem : String} (hwords : words ⊆ stockWords) (hstem : stem ∈ stockWords)
    (index : Nat) : IsStock (listed words stem index) index := by
  rcases listed_cases words stem index with h | h
  · exact ⟨_, hwords h, .inl rfl⟩
  · exact ⟨stem, hstem, .inr h⟩

theorem IsStock.isShaped {suggestion : String} {index : Nat} (h : IsStock suggestion index) :
    isShaped suggestion.toList = true := by
  obtain ⟨word, hword, hsuggestion⟩ := h
  obtain ⟨hne, hshaped, -⟩ := usable_stockWords word hword
  rcases hsuggestion with rfl | rfl
  · exact hshaped
  · rw [isShaped_append_toString hne, hshaped]

theorem IsStock.not_mem_reservedWords {suggestion : String} {index : Nat} (h : IsStock suggestion index) :
    suggestion ∉ reservedWords := by
  obtain ⟨word, hword, rfl | rfl⟩ := h
  · exact (usable_stockWords _ hword).2.2
  · exact append_toString_not_mem _ _

theorem suggestObject_cases (name : String) (index : Nat) :
    (spelled? (.object name) = none ∧ IsStock (suggestObject name index) index) ∨
      (spelled? (.object name) = some (ownPart name.toList) ∧
        suggestObject name index = fromClassName (ownPart name.toList) index) := by
  rw [suggestObject_eq]
  by_cases hname : name = "java.lang.String"
  · refine .inl ⟨by simp [spelled?, hname], ?_⟩
    rw [if_pos hname]
    exact isStock_listed (by decide) (by decide) index
  · rw [if_neg hname]
    cases hword : tableWord? name with
    | none => exact .inr ⟨by simp [spelled?, hname, hword], rfl⟩
    | some word =>
      exact .inl ⟨by simp [spelled?, hword], word, List.mem_append_right _ (tableWord?_mem hword), .inl rfl⟩

/-- What is suggested for a type that is neither an array nor a class comes from stock. -/
theorem isStock_suggestFor {t : TypeRef} (harray : ∀ element, t ≠ .array element) (hobject : ∀ name, t ≠ .object name)
    (index : Nat) : spelled? t = none ∧ IsStock (suggestFor t index) index := by
  cases t with
  | void => exact ⟨rfl, "param", by decide, .inr rfl⟩
  | boolean | byte | char | short | long | float | double => exact ⟨rfl, isStock_numbered (by decide) index⟩
  | int => exact ⟨rfl, isStock_listed (by decide) (by decide) index⟩
  | array element => exact absurd rfl (harray element)
  | object name => exact absurd rfl (hobject name)

theorem shaped_iff_of_stock {t : TypeRef} {suggestion : String} {index : Nat}
    (h : spelled? t = none ∧ IsStock suggestion index) :
    isShaped suggestion.toList = true ↔ ∀ part ∈ spelled? t, Spellable part := by
  simp [h.1, h.2.isShaped]

theorem isShaped_suggestFor_iff {t : TypeRef} (h : WellNamed t) (index : Nat) :
    isShaped (suggestFor t index).toList = true ↔ ∀ part ∈ spelled? t, Spellable part := by
  induction t generalizing index with
  | array element ih =>
    have harray : "Array".toList.all isIdentifierRest = true := by decide +kernel
    have hne : (suggestFor element 0).toList ≠ [] := by simpa using suggestFor_ne_empty element 0
    rw [suggestFor, String.toList_append, isShaped_append hne, harray, Bool.and_true, ih h]
    rfl
  | object name =>
    rw [suggestFor]
    rcases suggestObject_cases name index with hstock | ⟨hsome, hsuggestion⟩
    · exact shaped_iff_of_stock hstock
    · rw [hsuggestion, isShaped_fromClassName_iff (all_ownPart h), hsome]
      simp
  | _ =>
    exact shaped_iff_of_stock (isStock_suggestFor (by simp) (by simp) index)

/-- Whether the word for a type at the first place is reserved. -/
def SpellsReserved : TypeRef → Prop
  | .object name => ∃ part ∈ spelled? (.object name), fromClassName part 0 ∈ reservedWords
  | _ => False

instance : DecidablePred SpellsReserved
  | .object name =>
    inferInstanceAs (Decidable (∃ part ∈ spelled? (.object name), fromClassName part 0 ∈ reservedWords))
  | .void | .boolean | .byte | .char | .short | .int | .long | .float | .double | .array _ => .isFalse id

theorem append_array_not_mem (a : String) : a ++ "Array" ∉ reservedWords := by
  have hwords : ∀ word ∈ reservedWords, ¬ "Array".toList <:+ word.toList := by decide
  intro hmem
  exact hwords _ hmem (by rw [String.toList_append]; exact List.suffix_append _ _)

theorem fromClassName_mem_iff (part : List Char) (index : Nat) :
    fromClassName part index ∈ reservedWords ↔ index = 0 ∧ fromClassName part 0 ∈ reservedWords := by
  cases index with
  | zero => simp
  | succ index =>
    refine iff_of_false ?_ (by simp)
    cases part with
    | nil => exact append_toString_not_mem _ _
    | cons c r => exact append_toString_not_mem _ _

theorem suggestFor_mem_iff (t : TypeRef) (index : Nat) :
    suggestFor t index ∈ reservedWords ↔ index = 0 ∧ SpellsReserved t := by
  cases t with
  | array element => exact iff_of_false (append_array_not_mem _) (by simp [SpellsReserved])
  | object name =>
    rw [suggestFor, SpellsReserved]
    rcases suggestObject_cases name index with ⟨hnone, hstock⟩ | ⟨hsome, hsuggestion⟩
    · simp [hnone, hstock.not_mem_reservedWords]
    · rw [hsuggestion, fromClassName_mem_iff, hsome]
      simp
  | _ =>
    refine iff_of_false ?_ (by simp [SpellsReserved])
    exact (isStock_suggestFor (by simp) (by simp) index).2.not_mem_reservedWords

/-! ## All parameters -/

theorem isShaped_freeName {wish : String} (h : wish ≠ "") (taken : List String) :
    isShaped (freeName "" wish taken).toList = isShaped wish.toList := by
  unfold freeName numberedName
  split_ifs
  · rw [String.append_empty, isShaped_append_toString h]
  · rfl

theorem freeName_not_mem_reservedWords {wish : String} (h : wish ∉ reservedWords) (taken : List String) :
    freeName "" wish taken ∉ reservedWords := by
  unfold freeName numberedName
  split_ifs
  · exact append_toString_not_mem _ _
  · exact h

theorem isShaped_suggestAll_iff {types : List TypeRef} (h : ∀ t ∈ types, WellNamed t) :
    (∀ name ∈ suggestAll types, isShaped name.toList = true) ↔
      ∀ t ∈ types, ∀ part ∈ spelled? t, Spellable part := by
  induction types using List.reverseRecOn with
  | nil => simp [suggestAll, suggestFrom]
  | append_singleton types t ih =>
    rw [List.forall_mem_append] at h ⊢
    have ht : WellNamed t := h.2 t (by simp)
    rw [suggestAll_concat, List.forall_mem_append, ih h.1, List.forall_mem_singleton, List.forall_mem_singleton,
      isShaped_freeName (suggestFor_ne_empty _ _), isShaped_suggestFor_iff ht]

theorem not_mem_reservedWords_iff (types : List TypeRef) :
    (∀ name ∈ suggestAll types, name ∉ reservedWords) ↔ ∀ t ∈ types.head?, ¬ SpellsReserved t := by
  induction types using List.reverseRecOn with
  | nil => simp [suggestAll, suggestFrom]
  | append_singleton types t ih =>
    rw [suggestAll_concat, List.forall_mem_append, ih, List.forall_mem_singleton]
    cases types with
    | nil =>
      have hfirst : freeName "" (suggestFor t 0) (suggestAll []).reverse = suggestFor t 0 :=
        freeName_eq_self (by simp [suggestAll, suggestFrom])
      simp [hfirst, suggestFor_mem_iff]
    | cons first types =>
      -- From the second place on there is a number behind every word that a class spells.
      have hword : suggestFor t (first :: types).length ∉ reservedWords := by simp [suggestFor_mem_iff]
      rw [and_iff_left (freeName_not_mem_reservedWords hword _)]
      rfl

/-- Where the classes of a method's parameters have names that are made of identifiers, all suggestions can be
declared, unless a class that spells its own word opens with a numeral or has the dotted capital I among its opening
capitals, or the class at the first place spells a reserved word. -/
theorem suggestAll_identifiers_iff (types : List TypeRef) (h : ∀ t ∈ types, WellNamed t) :
    (∀ name ∈ suggestAll types, isIdentifier name = true) ↔
      (∀ t ∈ types, ∀ part ∈ spelled? t, Spellable part) ∧ ∀ t ∈ types.head?, ¬ SpellsReserved t := by
  rw [← isShaped_suggestAll_iff h, ← not_mem_reservedWords_iff]
  simp only [isIdentifier_iff]
  exact forall₂_and

theorem wellNamed_long : WellNamed (.object "java.lang.Long") := by
  have hname : "java.lang.Long".toList = "java".toList ++ '.' :: ("lang".toList ++ '.' :: "Long".toList) := by
    decide +kernel
  unfold WellNamed
  rw [hname]
  exact .cons (by decide +kernel) (.inl rfl) (.cons (by decide +kernel) (.inl rfl) (.single (by decide +kernel)))

/-- A class whose word is reserved, at places where that is of no matter. -/
def boxedLater : List TypeRef := [.boolean, .array (.object "java.lang.Long"), .object "java.lang.Long"]

theorem suggestAll_identifiers_iff_boxed :
    (∀ t ∈ boxedLater, WellNamed t) ∧ suggestAll boxedLater = ["flag", "longArray", "long2"] ∧
      ∀ name ∈ suggestAll boxedLater, isIdentifier name = true := by
  have hnamed : ∀ t ∈ boxedLater, WellNamed t := by
    intro t ht
    simp only [boxedLater, List.mem_cons, List.not_mem_nil, or_false] at ht
    rcases ht with rfl | rfl | rfl
    · trivial
    · exact wellNamed_long
    · exact wellNamed_long
  refine ⟨hnamed, by decide +kernel, (suggestAll_identifiers_iff boxedLater hnamed).2 ?_⟩
  decide +kernel

/-- At the first place the class of boxed long numbers gives a reserved word for a name. -/
theorem boxed_long_reserved :
    (∀ t ∈ [TypeRef.object "java.lang.Long"], t ≠ .void ∧ WellNamed t) ∧
      ∃ name ∈ suggestAll [.object "java.lang.Long"], isIdentifier name = false := by
  refine ⟨?_, "long", by decide +kernel, by decide +kernel⟩
  intro t ht
  rw [List.mem_singleton.1 ht]
  exact ⟨by decide, wellNamed_long⟩

example : suggestAll [.object "shop.Order$1", .object "shop.\u0130zmir"] = ["1", "i\u0307zmir1"] := by decide +kernel

end Parameter

end Unmask
