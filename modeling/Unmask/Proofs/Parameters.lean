import Mathlib.Algebra.GroupWithZero.Nat
import Mathlib.Data.List.Induction
import Unmask.Parameter
/-!
# One name for each parameter

The names of a list of parameters do not depend on the parameters that follow. With one parameter more there is one
name more, the first free one for what its type and its place suggest (`suggestAll_concat`). So whatever holds of the
first free name beside names that are taken holds of every name beside the earlier ones: it is new, and it is the
suggestion itself, or the suggestion with the smallest number that makes it new (`suggestAll_names`).
-/

namespace Unmask.Parameter

/-! ## Suggestions are words -/

/-- The word that the tables have for a class. -/
def tableWord? (name : String) : Option String :=
  (wholeWord? exactWords name).or <| (partWord? frameworkWords name).or <|
    (wholeWord? libraryWords name).or (partWord? streamWords name)

/-- Every word of the tables. -/
def tableWords : List String := (exactWords ++ frameworkWords ++ libraryWords ++ streamWords).map (·.2)

theorem mem_of_map_find? {table : List (String × String)} {p : String × String → Bool} {word : String}
    (h : (table.find? p).map (·.2) = some word) : word ∈ table.map (·.2) := by
  obtain ⟨row, hrow, rfl⟩ := Option.map_eq_some_iff.1 h
  exact List.mem_map_of_mem (List.mem_of_find?_eq_some hrow)

theorem tableWord?_mem {name word : String} (h : tableWord? name = some word) : word ∈ tableWords := by
  unfold tableWord? at h
  simp only [Option.or_eq_some_iff] at h
  unfold tableWords
  simp only [List.map_append, List.mem_append]
  rcases h with h | ⟨-, h | ⟨-, h | ⟨-, h⟩⟩⟩
  · exact .inl (.inl (.inl (mem_of_map_find? h)))
  · exact .inl (.inl (.inr (mem_of_map_find? h)))
  · exact .inl (.inr (mem_of_map_find? h))
  · exact .inr (mem_of_map_find? h)

theorem suggestObject_eq (name : String) (index : Nat) :
    suggestObject name index =
      if name = "java.lang.String" then listed textWords "str" index
      else (tableWord? name).getD (fromClassName (ownPart name.toList) index) := by
  unfold suggestObject tableWord?
  split_ifs
  · rfl
  · split
    next hword => rw [hword, Option.getD_some]
    next hword => rw [hword, Option.getD_none]

theorem listed_cases (words : List String) (stem : String) (index : Nat) :
    listed words stem index ∈ words ∨ listed words stem index = stem ++ toString index := by
  unfold listed
  rw [List.getD_eq_getElem?_getD]
  cases h : words[index]? with
  | none => exact .inr rfl
  | some word => exact .inl (List.mem_of_getElem? h)

theorem prefix_leadingWord (word : List Char) (lastUpper : Bool) (r : List Char) :
    word <+: leadingWord word lastUpper r := by
  fun_induction leadingWord word lastUpper r with
  | case1 | case2 | case4 => exact List.prefix_rfl
  | case3 word c r _ _ ih => exact (List.prefix_append _ _).trans ih
  | case5 word lastUpper c r _ _ ih => exact (List.prefix_append _ _).trans ih

theorem lower_ne_nil (c : Char) : Text.lower c ≠ [] := by
  unfold Text.lower
  split_ifs <;> simp

theorem numbered_ne_empty {word : String} (h : word ≠ "") (index : Nat) : numbered word index ≠ "" := by
  unfold numbered
  split_ifs
  · exact h
  · simp [h]

theorem listed_ne_empty {words : List String} {stem : String} (hwords : ∀ word ∈ words, word ≠ "") (hstem : stem ≠ "")
    (index : Nat) : listed words stem index ≠ "" := by
  rcases listed_cases words stem index with h | h
  · exact hwords _ h
  · simp [h, hstem]

theorem fromClassName_ne_empty (name : List Char) (index : Nat) : fromClassName name index ≠ "" := by
  cases name with
  | nil => simp [fromClassName]
  | cons c r =>
    apply numbered_ne_empty
    intro hempty
    have hnil : leadingWord (Text.lower c) true r = [] := by simpa using congrArg String.toList hempty
    have hprefix := prefix_leadingWord (Text.lower c) true r
    rw [hnil, List.prefix_nil] at hprefix
    exact lower_ne_nil c hprefix

theorem suggestFor_ne_empty (t : TypeRef) (index : Nat) : suggestFor t index ≠ "" := by
  cases t with
  | void => simp [suggestFor]
  | boolean | byte | char | short | long | float | double => exact numbered_ne_empty (by decide) _
  | int => exact listed_ne_empty (by decide) (by decide) _
  | array element => simp [suggestFor]
  | object name =>
    rw [suggestFor, suggestObject_eq]
    split_ifs
    · exact listed_ne_empty (by decide) (by decide) _
    · cases hword : tableWord? name with
      | none => exact fromClassName_ne_empty _ _
      | some word =>
        have hwords : ∀ word ∈ tableWords, word ≠ "" := by decide
        exact hwords word (tableWord?_mem hword)

/-! ## One more parameter -/

theorem suggestFrom_append (used : List String) (index : Nat) (types more : List TypeRef) :
    suggestFrom used index (types ++ more) =
      suggestFrom used index types ++
        suggestFrom ((suggestFrom used index types).reverse ++ used) (index + types.length) more := by
  induction types generalizing used index with
  | nil => simp [suggestFrom]
  | cons t types ih =>
    simp only [List.cons_append, suggestFrom, List.cons_append, ih, List.reverse_cons, List.append_assoc,
      List.nil_append, List.length_cons]
    rw [show index + 1 + types.length = index + (types.length + 1) by omega]

/-- With one parameter more there is one name more, the first free one for the suggestion. -/
theorem suggestAll_concat (types : List TypeRef) (t : TypeRef) :
    suggestAll (types ++ [t]) =
      suggestAll types ++ [freeName "" (suggestFor t types.length) (suggestAll types).reverse] := by
  rw [suggestAll, suggestFrom_append]
  simp [suggestFrom, suggestAll]

theorem suggestAll_prefix (types more : List TypeRef) : suggestAll types <+: suggestAll (types ++ more) := by
  rw [suggestAll, suggestAll, suggestFrom_append]
  exact List.prefix_append _ _

theorem length_suggestAll (types : List TypeRef) : (suggestAll types).length = types.length := by
  induction types using List.reverseRecOn with
  | nil => rfl
  | append_singleton types t ih => simp [suggestAll_concat, ih]

theorem nodup_suggestAll (types : List TypeRef) : (suggestAll types).Nodup := by
  induction types using List.reverseRecOn with
  | nil => exact List.nodup_nil
  | append_singleton types t ih =>
    rw [suggestAll_concat, List.nodup_append]
    refine ⟨ih, List.pairwise_singleton _ _, ?_⟩
    rintro name hname _ hlast rfl
    rw [List.mem_singleton.1 hlast, ← List.mem_reverse] at hname
    exact freeName_not_mem _ _ _ hname

/-- The names before a parameter, and the name of that parameter beside them. -/
theorem suggestAll_split (before : List TypeRef) (t : TypeRef) (after : List TypeRef) :
    (suggestAll (before ++ t :: after)).take before.length = suggestAll before ∧
      (suggestAll (before ++ t :: after))[before.length]? =
        some (freeName "" (suggestFor t before.length) (suggestAll before).reverse) := by
  obtain ⟨rest, hrest⟩ := suggestAll_prefix (before ++ [t]) after
  rw [List.append_assoc, List.singleton_append, suggestAll_concat, List.append_assoc] at hrest
  rw [← hrest, ← length_suggestAll before]
  simp

/-! ## The names of all parameters -/

/-- The name for a wish beside earlier names: the wish itself if none of them equals it, or else the wish with the
smallest number from two on by which it differs from all of them. The number fits into a signed word of 32 bits. -/
def FirstFree (earlier : List String) (wish name : String) : Prop :=
  (wish ∉ earlier ∧ name = wish) ∨
    (wish ∈ earlier ∧ ∃ n, 2 ≤ n ∧ n < 2 ^ 31 ∧ name = wish ++ toString n ∧ name ∉ earlier ∧
      ∀ m, 2 ≤ m → m < n → wish ++ toString m ∈ earlier)

theorem firstFree_freeName {earlier : List String} (hcount : earlier.length < 2 ^ 31 - 2) (wish : String) :
    FirstFree earlier wish (freeName "" wish earlier.reverse) := by
  by_cases h : wish ∈ earlier
  · refine .inr ⟨h, freeNumber (numberedName "" wish) earlier.reverse 2, le_freeNumber _ _ _, ?_, ?_, ?_, ?_⟩
    · have := freeNumber_le (numberedName "" wish) earlier.reverse 2
      rw [List.length_reverse] at this
      omega
    · rw [freeName, if_pos (List.mem_reverse.2 h), numberedName, String.append_empty]
    · rw [← List.mem_reverse]
      exact freeName_not_mem _ _ _
    · intro m hle hlt
      have := mem_of_lt_freeNumber (numberedName "" wish) earlier.reverse 2 m hle hlt
      rw [numberedName, String.append_empty] at this
      exact List.mem_reverse.1 this
  · exact .inl ⟨h, freeName_eq_self fun hmem => h (List.mem_reverse.1 hmem)⟩

theorem FirstFree.ne_empty {earlier : List String} {wish name : String} (h : FirstFree earlier wish name)
    (hwish : wish ≠ "") : name ≠ "" := by
  rcases h with ⟨-, rfl⟩ | ⟨-, n, -, -, rfl, -⟩
  · exact hwish
  · simp [hwish]

theorem firstFree_suggestAll {types : List TypeRef} (hcount : types.length < 2 ^ 31 - 2) {i : Nat} {t : TypeRef}
    (h : types[i]? = some t) :
    ∃ name, (suggestAll types)[i]? = some name ∧
      FirstFree ((suggestAll types).take i) (suggest (some t) i) name := by
  obtain ⟨hi, rfl⟩ := List.getElem?_eq_some_iff.1 h
  have hlength : (types.take i).length = i := List.length_take_of_le (Nat.le_of_lt hi)
  have hsplit := suggestAll_split (types.take i) types[i] (types.drop (i + 1))
  rw [← List.drop_eq_getElem_cons hi, List.take_append_drop, hlength] at hsplit
  obtain ⟨hbefore, hname⟩ := hsplit
  refine ⟨_, hname, ?_⟩
  rw [hbefore]
  apply firstFree_freeName
  rw [length_suggestAll, hlength]
  omega

/-- There is one name for each parameter, none is empty and no two are equal. Each is the first free name beside the
earlier ones for what the parameter's type and place suggest, and no name depends on the parameters that follow. -/
theorem suggestAll_names (types : List TypeRef) (hcount : types.length < 2 ^ 31 - 2) :
    (suggestAll types).length = types.length ∧ (∀ name ∈ suggestAll types, name ≠ "") ∧ (suggestAll types).Nodup ∧
      (∀ i t, types[i]? = some t → ∃ name, (suggestAll types)[i]? = some name ∧
        FirstFree ((suggestAll types).take i) (suggest (some t) i) name) ∧
      ∀ more, suggestAll types <+: suggestAll (types ++ more) := by
  refine ⟨length_suggestAll types, ?_, nodup_suggestAll types, fun i t h => firstFree_suggestAll hcount h,
    suggestAll_prefix types⟩
  intro name hname
  obtain ⟨i, hi, rfl⟩ := List.mem_iff_getElem.1 hname
  rw [length_suggestAll] at hi
  obtain ⟨name, hget, hfree⟩ := firstFree_suggestAll hcount (List.getElem?_eq_getElem hi)
  rw [← (List.getElem?_eq_some_iff.1 hget).2] at hfree
  exact hfree.ne_empty (suggestFor_ne_empty _ _)

/-- Two views beside a class whose word already ends in a number. -/
def views : List TypeRef := [.object "shop.View2", .object "android.view.View", .object "android.view.View"]

theorem suggestAll_names_views :
    views.length < 2 ^ 31 - 2 ∧ suggestAll views = ["view2", "view", "view3"] ∧
      FirstFree ["view2", "view"] "view" "view3" ∧ (suggestAll views).Nodup ∧
      suggestAll views <+: suggestAll (views ++ [.boolean]) := by
  have hcount : views.length < 2 ^ 31 - 2 := by decide
  have hviews : suggestAll views = ["view2", "view", "view3"] := by decide +kernel
  obtain ⟨-, -, hnodup, hfree, hprefix⟩ := suggestAll_names views hcount
  obtain ⟨name, hname, hfirst⟩ := hfree 2 (.object "android.view.View") rfl
  rw [hviews] at hname hfirst
  obtain rfl : "view3" = name := Option.some.inj hname
  exact ⟨hcount, hviews, hfirst, hnodup, hprefix _⟩

end Unmask.Parameter
