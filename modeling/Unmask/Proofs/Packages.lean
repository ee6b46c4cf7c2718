import Unmask.Proofs.ClassTable
import Unmask.Proofs.Reordering
/-!
# The packages of a program

A set has the packages that were handed over and behind them those that its classes lie in. The latter are cut out of
the package names of the classes, at every dot and at the end.

`mem_dotPrefixes` says which texts these are. They come shortest first, so a package comes behind the one around it
(`ParentsFirst`), and what is added on the way stays in that order (`parent_before`). To cut by places in a text, one
adds up the sizes of its segments in bytes, and of the dots between them. Characters take one byte to four, so such a
place might lie inside of one. It never does (`isValid_segmentEnds`), and cutting there gives the same packages
(`foldlM_addAround?`). `built_packages` puts it together.
-/

namespace Unmask

namespace Text

/-! ## Places in bytes -/

/-- What stands before a place that is counted in bytes. There is no place behind the end or inside of a character. -/
def sliceTo? (s : String) (stop : Nat) : Option String :=
  if h : String.Pos.Raw.IsValid s ⟨stop⟩ then some (s.sliceTo (s.pos ⟨stop⟩ h)).copy else none

def byteSize (s : List Char) : Nat := (String.ofList s).utf8ByteSize

@[simp] theorem byteSize_nil : byteSize [] = 0 := by
  simp [byteSize]

@[simp] theorem byteSize_cons (c : Char) (s : List Char) : byteSize (c :: s) = c.utf8Size + byteSize s := by
  simp [byteSize, String.ofList_cons]

theorem isValid_byteSize (p rest : List Char) :
    String.Pos.Raw.IsValid (String.ofList (p ++ rest)) ⟨byteSize p⟩ := by
  rw [String.ofList_append, String.Pos.Raw.isValid_iff_exists_append]
  exact ⟨_, _, rfl, rfl⟩

theorem sliceTo?_byteSize (p rest : List Char) :
    sliceTo? (String.ofList (p ++ rest)) (byteSize p) = some (String.ofList p) := by
  rw [sliceTo?, dif_pos (isValid_byteSize p rest), Option.some_inj, String.copy_sliceTo_eq_iff_exists_splits]
  exact ⟨String.ofList rest, String.ofList_append, rfl⟩

theorem pieces_ne_nil (sep : Char) (s : List Char) : pieces sep s ≠ [] := by
  cases s with
  | nil => simp [pieces]
  | cons c r =>
    unfold pieces
    split
    · simp
    · split <;> simp

end Text

namespace SymbolSet

/-- The places where segments end, in bytes, if the first begins at `start` and a dot follows on each. -/
def endsFrom (start : Nat) : List (List Char) → List Nat
  | [] => []
  | segment :: rest =>
    let stop := start + Text.byteSize segment
    stop :: endsFrom (stop + 1) rest

theorem endsFrom_pieces (start : Nat) (s : List Char) :
    endsFrom start (Text.pieces '.' s) = (dotPrefixes s).map (start + Text.byteSize ·) := by
  induction s generalizing start with
  | nil => rfl
  | cons c r ih =>
    unfold Text.pieces dotPrefixes
    by_cases hc : c = '.'
    · have hdot : '.'.utf8Size = 1 := by decide
      simp [hc, endsFrom, ih, hdot, Nat.add_assoc, Function.comp_def]
    · -- A character at the front moves all of the ends by its size.
      have hmoved := ih (start + c.utf8Size)
      rw [if_neg hc, if_neg hc, List.map_map]
      cases hp : Text.pieces '.' r with
      | nil => exact absurd hp (Text.pieces_ne_nil _ _)
      | cons p ps =>
        rw [hp] at hmoved
        simpa [endsFrom, Nat.add_assoc, Function.comp_def] using hmoved

/-! ## Prefixes that end before a dot -/

theorem nil_mem_dotPrefixes_cons {c : Char} {r : List Char} : [] ∈ dotPrefixes (c :: r) ↔ c = '.' := by
  rw [dotPrefixes]
  split <;> simp [*]

theorem cons_mem_dotPrefixes_cons {c d : Char} {r p : List Char} :
    d :: p ∈ dotPrefixes (c :: r) ↔ c = d ∧ p ∈ dotPrefixes r := by
  rw [dotPrefixes]
  split <;> simp [and_comm]

theorem mem_dotPrefixes {s p : List Char} : p ∈ dotPrefixes s ↔ s = p ∨ ∃ rest, s = p ++ '.' :: rest := by
  induction s generalizing p with
  | nil => simp [dotPrefixes, eq_comm]
  | cons c r ih =>
    cases p with
    | nil => simp [nil_mem_dotPrefixes_cons]
    | cons d p =>
      rw [cons_mem_dotPrefixes_cons, ih]
      constructor
      · rintro ⟨rfl, rfl | ⟨rest, rfl⟩⟩
        · exact .inl rfl
        · exact .inr ⟨rest, rfl⟩
      · rintro (h | ⟨rest, h⟩)
        · exact ⟨(List.cons.inj h).1, .inl (List.cons.inj h).2⟩
        · exact ⟨(List.cons.inj h).1, .inr ⟨rest, (List.cons.inj h).2⟩⟩

theorem pairwise_dotPrefixes (s : List Char) : (dotPrefixes s).Pairwise (·.length < ·.length) := by
  induction s with
  | nil => exact List.pairwise_singleton _ _
  | cons c r ih =>
    have htail : ((dotPrefixes r).map (c :: ·)).Pairwise (·.length < ·.length) := by
      simpa [List.pairwise_map] using ih
    unfold dotPrefixes
    split
    · rw [List.pairwise_cons]
      refine ⟨fun p hp => ?_, htail⟩
      obtain ⟨q, -, rfl⟩ := List.mem_map.1 hp
      simp
    · exact htail

/-- Whether a package of that name lies around a package of the other, or is the same. -/
def IsAround (outer inner : String) : Prop := inner = outer ∨ ∃ rest, inner = outer ++ "." ++ rest

theorem mem_packagesAround {c : ClassDecl} {name : String} :
    name ∈ packagesAround c ↔ c.packageName ≠ "" ∧ IsAround name c.packageName := by
  unfold packagesAround IsAround
  split
  · rename_i h
    simp [String.isEmpty_iff.1 h]
  · rename_i h
    have hne : c.packageName ≠ "" := fun he => h (by simp [he])
    rw [List.mem_map]
    constructor
    · rintro ⟨p, hp, rfl⟩
      refine ⟨hne, ?_⟩
      rcases mem_dotPrefixes.1 hp with hs | ⟨rest, hs⟩
      · exact .inl (by rw [← hs, String.ofList_toList])
      · refine .inr ⟨String.ofList rest, String.toList_injective ?_⟩
        simp [hs]
    · rintro ⟨-, hs⟩
      refine ⟨name.toList, mem_dotPrefixes.2 ?_, String.ofList_toList⟩
      rcases hs with hs | ⟨rest, hs⟩
      · exact .inl (by rw [hs])
      · exact .inr ⟨rest.toList, by simp [hs]⟩

/-! ## The order of packages -/

theorem pairwise_packagesAround (c : ClassDecl) : (packagesAround c).Pairwise (·.length < ·.length) := by
  unfold packagesAround
  split
  · exact List.Pairwise.nil
  · simpa [List.pairwise_map] using pairwise_dotPrefixes c.packageName.toList

/-- Whether every name comes behind the one around it, that is the part before its last dot. -/
def ParentsFirst (names : List String) : Prop :=
  ∀ before name after, names = before ++ name :: after →
    ∀ parent last : String, name = parent ++ "." ++ last → '.' ∉ last.toList → parent ∈ before

theorem parentsFirst_append {names names' : List String} (h : ParentsFirst names) (h' : ParentsFirst names') :
    ParentsFirst (names ++ names') := by
  intro before name after he parent last hname hlast
  rcases List.append_eq_append_iff.1 he with ⟨more, rfl, hmore⟩ | ⟨more, rfl, hmore⟩
  · exact List.mem_append_right _ (h' more name after hmore parent last hname hlast)
  · cases more with
    | nil => exact absurd (h' [] name after hmore.symm parent last hname hlast) List.not_mem_nil
    | cons n more =>
      cases hmore
      exact h before name more rfl parent last hname hlast

theorem parentsFirst_packagesAround (c : ClassDecl) : ParentsFirst (packagesAround c) := by
  intro before name after he parent last hname hlast
  have hmem : name ∈ packagesAround c := by
    rw [he]
    exact List.mem_append_right _ List.mem_cons_self
  obtain ⟨hne, haround⟩ := mem_packagesAround.1 hmem
  -- The name around a name around a class is around the class, and it is shorter.
  have hparent : parent ∈ packagesAround c := by
    refine mem_packagesAround.2 ⟨hne, .inr ?_⟩
    rcases haround with hs | ⟨rest, hs⟩
    · exact ⟨last, by rw [hs, hname]⟩
    · exact ⟨last ++ "." ++ rest, by simp [hs, hname, String.append_assoc]⟩
  have hsorted := pairwise_packagesAround c
  have hshort : parent.length < name.length := by
    have hdot : ".".length = 1 := by decide
    simp only [hname, String.length_append, hdot]
    omega
  rw [he, List.mem_append, List.mem_cons] at hparent
  rw [he, List.pairwise_append, List.pairwise_cons] at hsorted
  rcases hparent with hb | rfl | ha
  · exact hb
  · omega
  · have := hsorted.2.1.1 parent ha
    omega

theorem parentsFirst_flatMap (classes : List ClassDecl) : ParentsFirst (classes.flatMap packagesAround) := by
  induction classes with
  | nil =>
    intro before name after he
    simp at he
  | cons c rest ih =>
    rw [List.flatMap_cons]
    exact parentsFirst_append (parentsFirst_packagesAround c) ih

theorem ofName_injective : Function.Injective PackageDecl.ofName := fun _ _ h => congrArg PackageDecl.fullName h

/-- Packages are added in the order of their names, so the one around a package is there before it. -/
theorem parent_before {names added : List String} {packages : List PackageDecl} (hfirst : ParentsFirst names)
    (hadded : names.foldl addPackage packages = packages ++ added.map PackageDecl.ofName)
    {before after : List String} {name parent last : String} (he : added = before ++ name :: after)
    (hmem : name ∈ names) (hname : name = parent ++ "." ++ last) (hlast : '.' ∉ last.toList) :
    parent ∈ packages.map (·.fullName) ∨ parent ∈ before := by
  -- Look at the packages that were there when the name came for the first time: those of `head`.
  obtain ⟨earlier, later, hsplit, hnew⟩ := List.eq_append_cons_of_mem hmem
  have hparent : parent ∈ earlier := hfirst earlier name later hsplit parent last hname hlast
  obtain ⟨head, hhead, -, hmemhead⟩ := foldl_addPackage earlier packages
  obtain ⟨tail, htail, -, -⟩ := foldl_addPackage (name :: later) (packages ++ head.map PackageDecl.ofName)
  have hcat : before ++ name :: after = head ++ tail := by
    rw [hsplit, List.foldl_append, hhead, htail, List.append_assoc, List.append_right_inj, ← List.map_append] at hadded
    rw [← he]
    exact (ofName_injective.list_map hadded).symm
  have hname' : name ∉ head := fun h => hnew ((hmemhead name).1 h).1
  have hsub : head ⊆ before := by
    rcases List.append_eq_append_iff.1 hcat with ⟨more, rfl, hmore⟩ | ⟨more, rfl, -⟩
    · cases more with
      | nil => simp
      | cons n more =>
        cases hmore
        exact absurd (by simp) hname'
    · exact List.subset_append_left _ _
  by_cases hthere : parent ∈ packages.map (·.fullName)
  · exact .inl hthere
  · exact .inr (hsub ((hmemhead parent).2 ⟨hparent, hthere⟩))

/-! ## Cutting at places -/

/-- The places where the segments of a qualified name end, in bytes. -/
def segmentEnds (name : String) : List Nat := endsFrom 0 (Text.pieces '.' name.toList)

/-- The packages with those added that a class lies in, cut out of its package name at the ends of its segments. -/
def addAround? (packages : List PackageDecl) (c : ClassDecl) : Option (List PackageDecl) :=
  if c.packageName.isEmpty then some packages
  else
    (segmentEnds c.packageName).foldlM
      (fun packages stop => (Text.sliceTo? c.packageName stop).map (addPackage packages)) packages

theorem segmentEnds_eq (name : String) : segmentEnds name = (dotPrefixes name.toList).map Text.byteSize := by
  simp [segmentEnds, endsFrom_pieces]

theorem append_of_mem_dotPrefixes {name : String} {p : List Char} (h : p ∈ dotPrefixes name.toList) :
    ∃ rest, name = String.ofList (p ++ rest) := by
  rcases mem_dotPrefixes.1 h with hs | ⟨rest, hs⟩
  · exact ⟨[], by rw [List.append_nil, ← hs, String.ofList_toList]⟩
  · exact ⟨'.' :: rest, by rw [← hs, String.ofList_toList]⟩

theorem isValid_segmentEnds (name : String) :
    ∀ stop ∈ segmentEnds name, String.Pos.Raw.IsValid name ⟨stop⟩ := by
  intro stop hstop
  rw [segmentEnds_eq] at hstop
  obtain ⟨p, hp, rfl⟩ := List.mem_map.1 hstop
  obtain ⟨rest, rfl⟩ := append_of_mem_dotPrefixes hp
  exact Text.isValid_byteSize p rest

theorem foldlM_sliceTo? {name : String} {prefixes : List (List Char)} (h : prefixes ⊆ dotPrefixes name.toList)
    (packages : List PackageDecl) :
    (prefixes.map Text.byteSize).foldlM
        (fun packages stop => (Text.sliceTo? name stop).map (addPackage packages)) packages =
      some ((prefixes.map String.ofList).foldl addPackage packages) := by
  induction prefixes generalizing packages with
  | nil => rfl
  | cons p rest ih =>
    obtain ⟨hp, hrest⟩ := List.cons_subset.1 h
    have hslice : Text.sliceTo? name (Text.byteSize p) = some (String.ofList p) := by
      obtain ⟨more, hs⟩ := append_of_mem_dotPrefixes hp
      rw [hs]
      exact Text.sliceTo?_byteSize p more
    rw [List.map_cons, List.foldlM_cons, hslice]
    exact ih hrest _

theorem addAround?_eq (packages : List PackageDecl) (c : ClassDecl) :
    addAround? packages c = some ((packagesAround c).foldl addPackage packages) := by
  unfold addAround? packagesAround
  split
  · rfl
  · rw [segmentEnds_eq]
    exact foldlM_sliceTo? (List.Subset.refl _) packages

theorem foldlM_addAround? (packages : List PackageDecl) (classes : List ClassDecl) :
    classes.foldlM addAround? packages = some ((classes.flatMap packagesAround).foldl addPackage packages) := by
  induction classes generalizing packages with
  | nil => rfl
  | cons c rest ih =>
    rw [List.foldlM_cons, addAround?_eq, List.flatMap_cons, List.foldl_append]
    exact ih _

end SymbolSet

/-! ## Sets that are built -/

open SymbolSet in
/-- Whatever is handed over, and in whatever order: the packages of the set are those that were handed over, and
behind them others, each of them once, made of the names around the classes that were not handed over. A package
comes behind the one around it. To cut the names out at the ends of segments gives these packages: all ends lie inside
of the name and between two characters. -/
theorem built_packages (additions : List Addition) :
    let explicit := additions.filterMap Addition.package?
    let set := (Builder.addAll {} additions).build
    ∃ derived : List String,
      set.packages = explicit ++ derived.map PackageDecl.ofName ∧ derived.Nodup ∧
      (∀ name, name ∈ derived ↔ name ∉ explicit.map (·.fullName) ∧
        ∃ c ∈ set.classes, c.packageName ≠ "" ∧ IsAround name c.packageName) ∧
      (∀ before name after, derived = before ++ name :: after →
        ∀ parent last : String, name = parent ++ "." ++ last → '.' ∉ last.toList →
          parent ∈ explicit.map (·.fullName) ∨ parent ∈ before) ∧
      (∀ c ∈ set.classes, ∀ stop ∈ segmentEnds c.packageName, String.Pos.Raw.IsValid c.packageName ⟨stop⟩) ∧
      set.classes.foldlM addAround? explicit = some set.packages := by
  intro explicit set
  have hset : set.packages = (set.classes.flatMap packagesAround).foldl addPackage explicit := by
    simp only [set, explicit, Builder.addAll_eq, List.nil_append]
    rfl
  obtain ⟨derived, hderived, hnodup, hmem⟩ := foldl_addPackage (set.classes.flatMap packagesAround) explicit
  have haround : ∀ name, name ∈ set.classes.flatMap packagesAround ↔
      ∃ c ∈ set.classes, c.packageName ≠ "" ∧ IsAround name c.packageName := by
    intro name
    simp only [List.mem_flatMap, mem_packagesAround]
  refine ⟨derived, by rw [hset, hderived], hnodup, ?_, ?_, ?_, ?_⟩
  · intro name
    rw [hmem, haround, and_comm]
  · intro before name after he parent last hname hlast
    have hin : name ∈ derived := by simp [he]
    exact parent_before (parentsFirst_flatMap _) hderived he ((hmem name).1 hin).1 hname hlast
  · exact fun c _ => isValid_segmentEnds c.packageName
  · rw [foldlM_addAround?, ← hset]

-- Empty segments and characters of several bytes.
example :
    let set := (Builder.addAll {} [.cls (ClassDecl.ofName ".\u00e9..a.C"), .pkg (PackageDecl.ofName ".\u00e9")]).build
    set.packages.map (·.fullName) = [".\u00e9", "", ".\u00e9.", ".\u00e9..a"] ∧
      SymbolSet.segmentEnds ".\u00e9..a" = [0, 3, 4, 6] := by
  decide +kernel

end Unmask
