import Unmask.Proofs.Packages
/-!
# Qualified names of nested classes

A qualified name is what opens it, the package and its dot, and a local name without a dot (`exists_qualified`). Package,
local name, own name and the name of the class around are all read off that one decomposition, also where dots and dollar
signs lead, trail or stand side by side. The class around a class has the same opening and a shorter local name
(`outerName?_ofName`), so to go from a class to the one around it, and on, ends in the same package after as many steps as
there are dollar signs behind the first character of the local name (`enclosing?_eq_none_iff`).

The same can be read off the places of the last dot and the last dollar sign, in bytes, each searched in the whole name.
A class lies in another only if the place of the dollar sign comes after that of the first local character
(`cutOuter?_eq`). `names_decompose` puts it together.
-/

namespace Unmask

namespace Text

/-! ## Cutting at the last separator -/

variable {sep : Char} {s p t : List Char}

theorem beforeLast?_of_not_mem (h : sep ∉ s) : beforeLast? sep s = none := by
  cases hp : beforeLast? sep s with
  | none => rfl
  | some p =>
    rw [beforeLast?_append_afterLast hp] at h
    simp at h

theorem afterLast_of_not_mem (h : sep ∉ s) : afterLast sep s = s :=
  afterLast_of_beforeLast?_eq_none (beforeLast?_of_not_mem h)

theorem last_append_cons (h : sep ∉ t) :
    beforeLast? sep (p ++ sep :: t) = some p ∧ afterLast sep (p ++ sep :: t) = t := by
  have hall : ∀ c ∈ t.reverse, (c != sep) = true := by
    intro c hc
    rw [bne_iff_ne]
    rintro rfl
    exact h (List.mem_reverse.1 hc)
  have hreverse : (p ++ sep :: t).reverse = t.reverse ++ sep :: p.reverse := by simp
  constructor
  · rw [beforeLast?, hreverse, List.dropWhile_append_of_pos hall]
    simp
  · rw [afterLast, hreverse, List.takeWhile_append_of_pos hall]
    simp

/-- A text has no separator, or is cut at the last one. -/
theorem cut_cases (sep : Char) (s : List Char) :
    sep ∉ s ∨ ∃ p t, s = p ++ sep :: t ∧ sep ∉ t := by
  cases hp : beforeLast? sep s with
  | none =>
    rw [← afterLast_of_beforeLast?_eq_none hp]
    exact .inl (not_mem_afterLast sep s)
  | some p => exact .inr ⟨p, _, beforeLast?_append_afterLast hp, not_mem_afterLast sep s⟩

/-! ## Places of separators -/

/-- The place of the last `sep`, in bytes, if the text begins at `start`. -/
def lastPlace? (sep : Char) (start : Nat) : List Char → Option Nat
  | [] => none
  | c :: r => (lastPlace? sep (start + c.utf8Size) r).or (if c = sep then some start else none)

theorem lastPlace?_of_not_mem (h : sep ∉ s) (start : Nat) : lastPlace? sep start s = none := by
  induction s generalizing start with
  | nil => rfl
  | cons c r ih =>
    rw [List.mem_cons, not_or] at h
    rw [lastPlace?, ih h.2, if_neg (Ne.symm h.1)]
    rfl

theorem lastPlace?_append_cons (h : sep ∉ t) (start : Nat) :
    lastPlace? sep start (p ++ sep :: t) = some (start + byteSize p) := by
  induction p generalizing start with
  | nil =>
    rw [List.nil_append, lastPlace?, lastPlace?_of_not_mem h, if_pos rfl]
    rfl
  | cons c p ih =>
    rw [List.cons_append, lastPlace?, ih, byteSize_cons, Nat.add_assoc]
    rfl

theorem byteSize_append (a b : List Char) : byteSize (a ++ b) = byteSize a + byteSize b := by
  simp [byteSize, String.ofList_append, String.utf8ByteSize_append]

theorem byteSize_pos (h : s ≠ []) : 0 < byteSize s := by
  cases s with
  | nil => exact absurd rfl h
  | cons c r =>
    rw [byteSize_cons]
    exact Nat.add_pos_left c.utf8Size_pos _

/-- What stands from a place on that is counted in bytes. -/
def sliceFrom? (s : String) (start : Nat) : Option String :=
  if h : String.Pos.Raw.IsValid s ⟨start⟩ then some (s.sliceFrom (s.pos ⟨start⟩ h)).copy else none

theorem sliceFrom?_byteSize (p rest : List Char) :
    sliceFrom? (String.ofList (p ++ rest)) (byteSize p) = some (String.ofList rest) := by
  rw [sliceFrom?, dif_pos (isValid_byteSize p rest), Option.some_inj, String.copy_sliceFrom_eq_iff_exists_splits]
  exact ⟨String.ofList p, String.ofList_append, rfl⟩

/-! ## Openings -/

/-- What stands before the local name: the package and its dot, if there is a dot. -/
def opening : Option (List Char) → List Char
  | none => []
  | some package => package ++ ['.']

theorem exists_qualified (s : String) :
    ∃ package name, s = String.ofList (opening package ++ name) ∧ '.' ∉ name := by
  rcases cut_cases '.' s.toList with h | ⟨p, t, hs, h⟩
  · exact ⟨none, s.toList, String.ofList_toList.symm, h⟩
  · refine ⟨some p, t, ?_, h⟩
    rw [opening, List.append_assoc, List.singleton_append, ← hs, String.ofList_toList]

theorem last_qualified {package : Option (List Char)} {name : List Char} (h : '.' ∉ name) :
    beforeLast? '.' (opening package ++ name) = package ∧ afterLast '.' (opening package ++ name) = name := by
  cases package with
  | none => exact ⟨beforeLast?_of_not_mem h, afterLast_of_not_mem h⟩
  | some p =>
    rw [opening, List.append_assoc]
    exact last_append_cons h

end Text

namespace ClassDecl

open Text

/-! ## Reading a qualified name -/

variable {package : Option (List Char)} {name : List Char}

theorem packageName_ofName (h : '.' ∉ name) :
    (ofName (String.ofList (opening package ++ name))).packageName = String.ofList (package.getD []) := by
  simp only [ofName, String.toList_ofList, (last_qualified h).1]

theorem localName_ofName (h : '.' ∉ name) :
    (ofName (String.ofList (opening package ++ name))).localName = String.ofList name := by
  simp only [localName, ofName, String.toList_ofList, (last_qualified h).2]

theorem name_ofName (h : '.' ∉ name) :
    (ofName (String.ofList (opening package ++ name))).name = String.ofList (afterLast '$' name) := by
  simp only [ofName, String.toList_ofList, (last_qualified h).2]

theorem package_and_local (s : String) :
    ('.' ∈ s.toList → s = (ofName s).packageName ++ "." ++ (ofName s).localName) ∧
      ('.' ∉ s.toList → (ofName s).packageName = "" ∧ (ofName s).localName = s) := by
  obtain ⟨package, l, rfl, hl⟩ := exists_qualified s
  rw [packageName_ofName hl, localName_ofName hl, String.toList_ofList]
  cases package with
  | none => exact ⟨fun hdot => absurd hdot hl, fun _ => ⟨rfl, rfl⟩⟩
  | some p =>
    constructor
    · intro _
      apply String.toList_injective
      simp [opening]
    · intro hdot
      simp [opening] at hdot

theorem local_and_own (s : String) :
    '.' ∉ (ofName s).localName.toList ∧ '.' ∉ (ofName s).name.toList ∧ '$' ∉ (ofName s).name.toList ∧
      ((ofName s).localName = (ofName s).name ∨ ∃ q, (ofName s).localName = q ++ "$" ++ (ofName s).name) := by
  obtain ⟨package, l, rfl, hl⟩ := exists_qualified s
  rw [localName_ofName hl, name_ofName hl, String.toList_ofList, String.toList_ofList]
  rcases cut_cases '$' l with hnone | ⟨q, own, rfl, hown⟩
  · rw [afterLast_of_not_mem hnone]
    exact ⟨hl, hl, hnone, .inl rfl⟩
  · rw [(last_append_cons hown).2]
    refine ⟨hl, fun hmem => hl (by simp [hmem]), hown, .inr ⟨String.ofList q, ?_⟩⟩
    apply String.toList_injective
    simp

/-- The class around a class has the same opening. -/
theorem outerName?_ofName (h : '.' ∉ name) :
    (ofName (String.ofList (opening package ++ name))).outerName? =
      ((beforeLast? '$' name).filter (· ≠ [])).map fun outer => String.ofList (opening package ++ outer) := by
  have hfull : (ofName (String.ofList (opening package ++ name))).fullName.toList = opening package ++ name :=
    String.toList_ofList
  unfold outerName?
  rw [localName_ofName h, String.toList_ofList, hfull, (last_qualified h).1]
  cases beforeLast? '$' name with
  | none => rfl
  | some outer =>
    cases outer with
    | nil => rfl
    | cons c r => cases package <;> simp [opening, Option.filter]

/-- A class lies in another if its local name has a dollar sign behind the first character. Its name is that of the
other then, the last dollar sign and its own name. -/
theorem outer_cases (package : Option (List Char)) (h : '.' ∉ name) :
    ((ofName (String.ofList (opening package ++ name))).outerName? = none ∧ '$' ∉ name.tail) ∨
    ∃ outer own, name = outer ++ '$' :: own ∧ outer ≠ [] ∧ '$' ∉ own ∧
      (ofName (String.ofList (opening package ++ name))).outerName? =
        some (String.ofList (opening package ++ outer)) := by
  rw [outerName?_ofName h]
  rcases cut_cases '$' name with hnone | ⟨outer, own, rfl, hown⟩
  · rw [beforeLast?_of_not_mem hnone]
    exact .inl ⟨rfl, fun hmem => hnone (List.mem_of_mem_tail hmem)⟩
  · rw [(last_append_cons hown).1]
    by_cases houter : outer = []
    · subst houter
      exact .inl ⟨rfl, hown⟩
    · refine .inr ⟨outer, own, rfl, houter, hown, ?_⟩
      simp [Option.filter, houter]

/-- What the name of the class around a class has to do with the name of the class. -/
theorem outerName?_eq_some {s outer : String} (h : (ofName s).outerName? = some outer) :
    ∃ q, q ≠ "" ∧ (ofName s).localName = q ++ "$" ++ (ofName s).name ∧ s = outer ++ "$" ++ (ofName s).name ∧
      (ofName outer).packageName = (ofName s).packageName ∧ (ofName outer).localName = q := by
  obtain ⟨package, l, rfl, hl⟩ := exists_qualified s
  rcases outer_cases package hl with ⟨hnone, -⟩ | ⟨q, own, rfl, hq, hown, hsome⟩
  · rw [hnone] at h
    cases h
  · rw [hsome] at h
    cases h
    have hdot : '.' ∉ q := fun hmem => hl (List.mem_append_left _ hmem)
    rw [localName_ofName hl, name_ofName hl, (last_append_cons hown).2, packageName_ofName hl,
      packageName_ofName hdot, localName_ofName hdot]
    refine ⟨String.ofList q, ?_, ?_, ?_, rfl, rfl⟩
    · rwa [Ne, String.ofList_eq_empty_iff]
    · apply String.toList_injective
      simp
    · apply String.toList_injective
      simp

theorem isSome_outerName?_iff (s : String) :
    (ofName s).outerName?.isSome ↔ ∃ q, q ≠ "" ∧ (ofName s).localName = q ++ "$" ++ (ofName s).name := by
  constructor
  · intro h
    obtain ⟨outer, houter⟩ := Option.isSome_iff_exists.1 h
    obtain ⟨q, hq, hlocal, -⟩ := outerName?_eq_some houter
    exact ⟨q, hq, hlocal⟩
  · rintro ⟨q, hq, hlocal⟩
    obtain ⟨package, l, rfl, hl⟩ := exists_qualified s
    rcases outer_cases package hl with ⟨-, hcount⟩ | ⟨outer, own, -, -, -, hsome⟩
    · rw [localName_ofName hl] at hlocal
      have hsplit : l = q.toList ++ '$' :: (ofName (String.ofList (opening package ++ l))).name.toList := by
        simpa using congrArg String.toList hlocal
      have hqlist : q.toList ≠ [] := by simpa using hq
      rw [hsplit, List.tail_append_of_ne_nil hqlist] at hcount
      simp at hcount
    · rw [hsome]
      rfl

/-! ## From class to class -/

/-- The names of the classes around a class, from the class itself outwards. -/
def enclosing? (name : String) : Nat → Option String
  | 0 => some name
  | n + 1 => (enclosing? name n).bind fun inner => (ofName inner).outerName?

theorem enclosing?_succ (name : String) (n : Nat) :
    enclosing? name (n + 1) = ((ofName name).outerName?).bind (enclosing? · n) := by
  induction n with
  | zero => simp [enclosing?]
  | succ n ih =>
    rw [enclosing?, ih, Option.bind_assoc]
    rfl

/-- There are as many classes around a class as dollar signs behind the first character of its local name. -/
theorem enclosing?_eq_none_iff (name : String) (n : Nat) :
    enclosing? name n = none ↔ (ofName name).localName.toList.tail.count '$' < n := by
  induction n generalizing name with
  | zero => simp [enclosing?]
  | succ n ih =>
    obtain ⟨package, l, rfl, hl⟩ := exists_qualified name
    rw [enclosing?_succ, localName_ofName hl, String.toList_ofList]
    rcases outer_cases package hl with ⟨hnone, hcount⟩ | ⟨outer, own, rfl, houter, hown, hsome⟩
    · rw [hnone, List.count_eq_zero_of_not_mem hcount]
      simp
    · have hdot : '.' ∉ outer := fun hmem => hl (List.mem_append_left _ hmem)
      have hcount : (outer ++ '$' :: own).tail.count '$' = outer.tail.count '$' + 1 := by
        rw [List.tail_append_of_ne_nil houter, List.count_append, List.count_cons_self,
          List.count_eq_zero_of_not_mem hown]
      rw [hsome, Option.bind_some, ih, localName_ofName hdot, String.toList_ofList, hcount]
      omega

theorem packageName_enclosing? {name outer : String} {n : Nat} (h : enclosing? name n = some outer) :
    (ofName outer).packageName = (ofName name).packageName := by
  induction n generalizing outer with
  | zero =>
    cases h
    rfl
  | succ n ih =>
    obtain ⟨inner, hinner, houter⟩ := Option.bind_eq_some_iff.1 h
    obtain ⟨-, -, -, -, hpackage, -⟩ := outerName?_eq_some houter
    rw [hpackage, ih hinner]

/-! ## Cutting at places -/

/-- Package and local name, cut at the place of the last dot. -/
def cutAtDot? (s : String) : Option (String × String) :=
  match lastPlace? '.' 0 s.toList with
  | none => some ("", s)
  | some dot => (sliceTo? s dot).bind fun package => (sliceFrom? s (dot + 1)).map (package, ·)

/-- The name of the class around, cut at the place of the last dollar sign, if that place comes after the one where the
local name begins. -/
def cutOuter? (s : String) : Option (Option String) :=
  match lastPlace? '$' 0 s.toList with
  | none => some none
  | some place =>
    if (lastPlace? '.' 0 s.toList).elim 0 (· + 1) < place then (sliceTo? s place).map some else some none

theorem byteSize_opening (p : List Char) : byteSize (opening (some p)) = byteSize p + 1 := by
  have hdot : '.'.utf8Size = 1 := by decide
  simp [opening, byteSize_append, hdot]

theorem lastPlace?_opening (h : '.' ∉ name) (p : List Char) :
    lastPlace? '.' 0 (opening (some p) ++ name) = some (byteSize p) := by
  rw [opening, List.append_assoc, List.singleton_append, lastPlace?_append_cons h, Nat.zero_add]

theorem cutAtDot?_eq (s : String) : cutAtDot? s = some ((ofName s).packageName, (ofName s).localName) := by
  obtain ⟨package, l, rfl, hl⟩ := exists_qualified s
  rw [packageName_ofName hl, localName_ofName hl]
  unfold cutAtDot?
  rw [String.toList_ofList]
  cases package with
  | none =>
    rw [opening, List.nil_append, lastPlace?_of_not_mem hl]
    rfl
  | some p =>
    have hpackage : sliceTo? (String.ofList (opening (some p) ++ l)) (byteSize p) = some (String.ofList p) := by
      rw [opening, List.append_assoc]
      exact sliceTo?_byteSize p _
    have hlocal : sliceFrom? (String.ofList (opening (some p) ++ l)) (byteSize p + 1) = some (String.ofList l) := by
      rw [← byteSize_opening]
      exact sliceFrom?_byteSize _ l
    simp only [lastPlace?_opening hl, hpackage, hlocal]
    rfl

theorem localPlace_eq (h : '.' ∉ name) :
    (lastPlace? '.' 0 (opening package ++ name)).elim 0 (· + 1) = byteSize (opening package) := by
  cases package with
  | none => simp [opening, lastPlace?_of_not_mem h]
  | some p =>
    rw [lastPlace?_opening h, byteSize_opening]
    rfl

/-- The place of a dollar sign in the package comes before the local name, and that of one that opens the local name
is where it begins. -/
theorem cutOuter?_eq (s : String) : cutOuter? s = some (ofName s).outerName? := by
  obtain ⟨package, l, rfl, hl⟩ := exists_qualified s
  unfold cutOuter?
  rw [outerName?_ofName hl, String.toList_ofList, localPlace_eq hl]
  rcases cut_cases '$' l with hnone | ⟨q, own, rfl, hown⟩
  · rw [beforeLast?_of_not_mem hnone]
    rcases cut_cases '$' (opening package) with hopening | ⟨a, b, hopening, hb⟩
    · have hmem : '$' ∉ opening package ++ l := by simp [hopening, hnone]
      rw [lastPlace?_of_not_mem hmem]
      rfl
    · have hmem : '$' ∉ b ++ l := by simp [hb, hnone]
      have hlt : ¬ byteSize (a ++ '$' :: b) < 0 + byteSize a := by
        rw [byteSize_append]
        omega
      rw [hopening, List.append_assoc, List.cons_append, lastPlace?_append_cons hmem]
      simp only [if_neg hlt]
      rfl
  · have hplace : lastPlace? '$' 0 (opening package ++ (q ++ '$' :: own)) =
        some (byteSize (opening package) + byteSize q) := by
      rw [← List.append_assoc, lastPlace?_append_cons hown, Nat.zero_add, byteSize_append]
    rw [(last_append_cons hown).1, hplace]
    by_cases hq : q = []
    · subst hq
      simp [Option.filter]
    · have hlt : byteSize (opening package) < byteSize (opening package) + byteSize q :=
        Nat.lt_add_of_pos_right (byteSize_pos hq)
      have hslice := sliceTo?_byteSize (opening package ++ q) ('$' :: own)
      rw [List.append_assoc, byteSize_append] at hslice
      simp only [if_pos hlt, hslice]
      simp [Option.filter, hq]

/-! ## The whole decomposition -/

/-- How a class hangs together with the qualified name that it is read off. -/
structure ReadOff (s : String) (c : ClassDecl) : Prop where
  qualified : '.' ∈ s.toList → s = c.packageName ++ "." ++ c.localName
  unqualified : '.' ∉ s.toList → c.packageName = "" ∧ c.localName = s
  dotless : '.' ∉ c.localName.toList
  plain : '.' ∉ c.name.toList ∧ '$' ∉ c.name.toList
  own : c.localName = c.name ∨ ∃ q, c.localName = q ++ "$" ++ c.name
  /-- There is a class around if something stands before the last dollar sign of the local name. -/
  nested : c.outerName?.isSome ↔ ∃ q, q ≠ "" ∧ c.localName = q ++ "$" ++ c.name
  /-- What stands there is the local name of the class around, in the same package. -/
  outer : ∀ outer q, c.outerName? = some outer → c.localName = q ++ "$" ++ c.name →
    s = outer ++ "$" ++ c.name ∧ (ofName outer).packageName = c.packageName ∧ (ofName outer).localName = q
  /-- The way outwards ends. -/
  ends : ∀ n, enclosing? s n = none ↔ c.localName.toList.tail.count '$' < n
  inside : ∀ n outer, enclosing? s n = some outer → (ofName outer).packageName = c.packageName
  /-- All places lie inside of the name and between two characters. -/
  cutAtDot : cutAtDot? s = some (c.packageName, c.localName)
  cutOuter : cutOuter? s = some c.outerName?

/-- Every text is taken apart in one way by all who read a class off it, whatever separators it has and wherever they
stand. -/
theorem names_decompose (s : String) : ReadOff s (ClassDecl.ofName s) where
  qualified := (package_and_local s).1
  unqualified := (package_and_local s).2
  dotless := (local_and_own s).1
  plain := ⟨(local_and_own s).2.1, (local_and_own s).2.2.1⟩
  own := (local_and_own s).2.2.2
  nested := isSome_outerName?_iff s
  outer outer q houter hlocal := by
    obtain ⟨q', -, hlocal', hs, hpackage, hq'⟩ := outerName?_eq_some houter
    have hq : q' = q := by
      rw [hlocal', String.append_left_inj, String.append_left_inj] at hlocal
      exact hlocal
    exact ⟨hs, hpackage, hq'.trans hq⟩
  ends := enclosing?_eq_none_iff s
  inside _ _ h := packageName_enclosing? h
  cutAtDot := cutAtDot?_eq s
  cutOuter := cutOuter?_eq s

-- A dollar sign in the package, one that opens the local name, two side by side and one at the end.
example :
    (List.range 4).map (ClassDecl.enclosing? "caf\u00e9$x.$A$$") =
      [some "caf\u00e9$x.$A$$", some "caf\u00e9$x.$A$", some "caf\u00e9$x.$A", none] := by
  decide +kernel

end ClassDecl

end Unmask
