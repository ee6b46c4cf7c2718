import Mathlib.Data.List.Induction
import Mathlib.Data.List.Nodup
import Std.Data.HashMap
import Unmask.SymbolSet
/-!
# The class table

A builder takes packages and classes in any order and makes a set of them. The set has one class for each
qualified name: names stand in the order in which they came first, and under each name stands the class that
came last (`Keeps`). One more class keeps that so (`Keeps.addClass`), and all sets are made in such steps.

Looking a class up by a search through the list is slow, so one notes the place of every name. A `ClassTable`
is the list of classes with such an index, which is updated while classes are replaced in place. It carries the
proof that index and list are in step, so a place that is noted is never out of range. Its classes and its
look-ups are those of the set (`classes_ofClasses`, `resolve_eq_find?`).
-/

namespace Unmask

/-! ## Builders -/

/-- What is handed over to a builder. -/
inductive Addition where
  | pkg (p : PackageDecl)
  | cls (c : ClassDecl)

namespace Addition

def package? : Addition → Option PackageDecl
  | pkg p => some p
  | cls _ => none

def class? : Addition → Option ClassDecl
  | pkg _ => none
  | cls c => some c

end Addition

/-- The packages and the classes that were handed over so far. -/
structure Builder where
  packages : List PackageDecl := []
  classes : List ClassDecl := []

namespace Builder

def add (b : Builder) : Addition → Builder
  | .pkg p => { b with packages := b.packages ++ [p] }
  | .cls c => { b with classes := b.classes ++ [c] }

def addAll (b : Builder) (additions : List Addition) : Builder := additions.foldl add b

def build (b : Builder) : SymbolSet := SymbolSet.build b.packages b.classes

theorem addAll_eq (b : Builder) (additions : List Addition) :
    b.addAll additions =
      ⟨b.packages ++ additions.filterMap Addition.package?, b.classes ++ additions.filterMap Addition.class?⟩ := by
  induction additions generalizing b with
  | nil => simp [addAll]
  | cons a rest ih =>
    have hstep : b.addAll (a :: rest) = (b.add a).addAll rest := rfl
    rw [hstep, ih]
    cases a <;> simp [add, List.filterMap_cons, Addition.package?, Addition.class?]

end Builder

/-! ## Which classes a set keeps -/

theorem find?_key_eq_some_iff {α : Type} {key : α → String} {l : List α} (h : (l.map key).Nodup) {name : String}
    {x : α} : l.find? (key · == name) = some x ↔ x ∈ l ∧ key x = name := by
  constructor
  · intro hf
    exact ⟨List.mem_of_find?_eq_some hf, by simpa using List.find?_some hf⟩
  · rintro ⟨hx, rfl⟩
    obtain ⟨y, hy⟩ : ∃ y, l.find? (key · == key x) = some y :=
      Option.isSome_iff_exists.1 (List.find?_isSome.2 ⟨x, hx, by simp⟩)
    have hkey : key y = key x := by simpa using List.find?_some hy
    rw [hy, List.inj_on_of_nodup_map h (List.mem_of_find?_eq_some hy) hx hkey]

namespace SymbolSet

theorem find?_addClass (classes : List ClassDecl) (c : ClassDecl) (name : String) :
    (addClass classes c).find? (·.fullName == name) =
      if c.fullName = name then some c else classes.find? (·.fullName == name) := by
  by_cases h : c.fullName ∈ classes.map (·.fullName)
  · -- A class is replaced by one of its name, so a search stops at the same place before and after.
    have hsame : ((·.fullName == name) ∘ fun d : ClassDecl => if d.fullName == c.fullName then c else d) =
        (·.fullName == name) := by
      funext d
      by_cases hd : d.fullName = c.fullName <;> simp [hd]
    rw [addClass_of_mem h, List.find?_map, hsame]
    cases hf : classes.find? (·.fullName == name) with
    | none =>
      have hne : c.fullName ≠ name := by
        rintro rfl
        obtain ⟨d, hd, he⟩ := List.mem_map.1 h
        simpa [he] using List.find?_eq_none.1 hf d hd
      simp [hne]
    | some d =>
      have hd : d.fullName = name := by simpa using List.find?_some hf
      by_cases hn : c.fullName = name
      · simp [hd, hn]
      · simp [hd, hn, Ne.symm hn]
  · rw [addClass_of_not_mem h, List.find?_append]
    by_cases hn : c.fullName = name
    · have hf : classes.find? (·.fullName == name) = none := by
        rw [List.find?_eq_none]
        intro d hd he
        exact h (List.mem_map.2 ⟨d, hd, by simpa [hn] using he⟩)
      simp [hf, hn]
    · simp [hn]

/-- What a set keeps of the classes that were handed over: every name once, in the order in which the names came
first, and under each name the class that came last. -/
structure Keeps (handed kept : List ClassDecl) : Prop where
  order : (kept.map (·.fullName)).Pairwise fun m n =>
    (handed.map (·.fullName)).idxOf m < (handed.map (·.fullName)).idxOf n
  last : ∀ name, kept.find? (·.fullName == name) = handed.findRev? (·.fullName == name)

namespace Keeps

variable {handed kept : List ClassDecl}

theorem nodup (h : Keeps handed kept) : (kept.map (·.fullName)).Nodup :=
  h.order.imp fun hlt he => by simp [he] at hlt

theorem mem_fullName_iff (h : Keeps handed kept) (name : String) :
    name ∈ kept.map (·.fullName) ↔ name ∈ handed.map (·.fullName) := by
  have hsome := congrArg Option.isSome (h.last name)
  rw [Bool.eq_iff_iff, List.findRev?_eq_find?_reverse, List.find?_isSome, List.find?_isSome] at hsome
  simpa using hsome

theorem mem_iff (h : Keeps handed kept) (c : ClassDecl) :
    c ∈ kept ↔ ∃ before after, handed = before ++ c :: after ∧ c.fullName ∉ after.map (·.fullName) := by
  have hfound : c ∈ kept ↔ handed.reverse.find? (·.fullName == c.fullName) = some c := by
    rw [← List.findRev?_eq_find?_reverse, ← h.last, find?_key_eq_some_iff h.nodup]
    simp
  rw [hfound, List.find?_eq_some_iff_append]
  constructor
  · rintro ⟨-, after, before, he, hnone⟩
    refine ⟨before.reverse, after.reverse, by simpa using congrArg List.reverse he, ?_⟩
    simpa using hnone
  · rintro ⟨before, after, rfl, hnone⟩
    refine ⟨by simp, after.reverse, before.reverse, by simp, ?_⟩
    simpa using hnone

theorem addClass (h : Keeps handed kept) (c : ClassDecl) :
    Keeps (handed ++ [c]) (SymbolSet.addClass kept c) where
  order := by
    -- The names before the last one are first found where they were.
    have hold : (kept.map (·.fullName)).Pairwise fun m n =>
        ((handed ++ [c]).map (·.fullName)).idxOf m < ((handed ++ [c]).map (·.fullName)).idxOf n := by
      refine h.order.imp_of_mem fun {m n} hm hn hlt => ?_
      rw [h.mem_fullName_iff] at hm hn
      rwa [List.map_append, List.idxOf_append_of_mem hm, List.idxOf_append_of_mem hn]
    rw [map_fullName_addClass]
    split
    · exact hold
    · rename_i hnew
      rw [List.pairwise_append]
      refine ⟨hold, List.pairwise_singleton _ _, fun m hm n hn => ?_⟩
      rw [List.mem_singleton.1 hn]
      rw [h.mem_fullName_iff] at hm hnew
      rw [List.map_append, List.idxOf_append_of_mem hm, List.idxOf_append_of_notMem hnew]
      have hlt := List.idxOf_lt_length_iff.2 hm
      omega
  last name := by
    rw [find?_addClass, h.last]
    by_cases hn : c.fullName = name <;> simp [List.findRev?_eq_find?_reverse, hn]

end Keeps

theorem keeps_foldl (classes : List ClassDecl) : Keeps classes (classes.foldl addClass []) := by
  induction classes using List.reverseRecOn with
  | nil => exact ⟨List.Pairwise.nil, fun _ => rfl⟩
  | append_singleton classes c ih =>
    rw [List.foldl_append]
    exact ih.addClass c

theorem nodup_fullName_build (packages : List PackageDecl) (classes : List ClassDecl) :
    ((build packages classes).classes.map (·.fullName)).Nodup := (keeps_foldl classes).nodup

end SymbolSet

/-! ## The index -/

/-- Classes together with the place of every name among them. -/
structure ClassTable where
  classes : List ClassDecl
  places : Std.HashMap String Nat
  /-- A place is noted for a name exactly when the class of that name stands there. -/
  inStep : ∀ (name : String) (place : Nat),
    places[name]? = some place ↔ (classes.map (·.fullName))[place]? = some name

theorem getElem?_concat_eq_some_iff {α : Type} {l : List α} {a b : α} {i : Nat} :
    (l ++ [a])[i]? = some b ↔ l[i]? = some b ∨ (i = l.length ∧ a = b) := by
  rcases Nat.lt_trichotomy i l.length with hi | rfl | hi
  · rw [List.getElem?_append_left hi]
    simp [Nat.ne_of_lt hi]
  · simp
  · have hend : (l ++ [a])[i]? = none := List.getElem?_eq_none (by simp; omega)
    simp [hend, List.getElem?_eq_none (Nat.le_of_lt hi), Nat.ne_of_gt hi]

namespace ClassTable

def empty : ClassTable where
  classes := []
  places := ∅
  inStep := by simp

variable (t : ClassTable)

theorem place_lt {name : String} {place : Nat} (h : t.places[name]? = some place) : place < t.classes.length := by
  rw [t.inStep, List.getElem?_eq_some_iff] at h
  simpa using h.1

theorem place_of_getElem? {i : Nat} {d : ClassDecl} (h : t.classes[i]? = some d) :
    t.places[d.fullName]? = some i := by
  rw [t.inStep, List.getElem?_map, h]
  rfl

theorem map_fullName_set {c : ClassDecl} {place : Nat} (h : t.places[c.fullName]? = some place) :
    (t.classes.set place c).map (·.fullName) = t.classes.map (·.fullName) := by
  rw [t.inStep, List.getElem?_eq_some_iff] at h
  obtain ⟨hlt, hname⟩ := h
  rw [List.map_set, ← hname, List.set_getElem_self]

theorem inStep_insert {c : ClassDecl} (h : t.places[c.fullName]? = none) (name : String) (place : Nat) :
    (t.places.insert c.fullName t.classes.length)[name]? = some place ↔
      ((t.classes ++ [c]).map (·.fullName))[place]? = some name := by
  rw [Std.HashMap.getElem?_insert, List.map_append, List.map_singleton, getElem?_concat_eq_some_iff, ← t.inStep,
    List.length_map]
  by_cases hn : c.fullName = name
  · subst hn
    simp [h, eq_comm]
  · simp [hn]

/-- Puts a class in the place that is noted for its name, or at the end and notes the place. -/
def add (c : ClassDecl) : ClassTable :=
  match h : t.places[c.fullName]? with
  | some place => {
      classes := t.classes.set place c
      places := t.places
      inStep := fun name i => by rw [t.map_fullName_set h, t.inStep] }
  | none => {
      classes := t.classes ++ [c]
      places := t.places.insert c.fullName t.classes.length
      inStep := t.inStep_insert h }

/-- The class in the place that is noted for a name. -/
def resolve (name : String) : Option ClassDecl :=
  match h : t.places[name]? with
  | some place =>
    have := t.place_lt h
    some t.classes[place]
  | none => none

theorem classes_add (c : ClassDecl) : (t.add c).classes = SymbolSet.addClass t.classes c := by
  unfold add
  split
  · rename_i place h
    have hmem : c.fullName ∈ t.classes.map (·.fullName) := List.mem_of_getElem? ((t.inStep _ _).1 h)
    rw [SymbolSet.addClass_of_mem hmem]
    refine List.ext_getElem? fun i => ?_
    rw [List.getElem?_map]
    by_cases hi : place = i
    · subst hi
      have hlt := t.place_lt h
      have hname : t.classes[place].fullName = c.fullName := by
        simpa [List.getElem?_eq_getElem hlt] using (t.inStep _ _).1 h
      simp [hlt, hname]
    · rw [List.getElem?_set_ne hi]
      cases hd : t.classes[i]? with
      | none => rfl
      | some d =>
        -- The index has only one place for a name.
        have hname : d.fullName ≠ c.fullName := by
          intro he
          have hplace := t.place_of_getElem? hd
          rw [he, h] at hplace
          exact hi (Option.some.inj hplace)
        simp [hname]
  · rename_i h
    have hmem : c.fullName ∉ t.classes.map (·.fullName) := by
      intro hmem
      obtain ⟨i, hi⟩ := List.getElem?_of_mem hmem
      rw [← t.inStep, h] at hi
      cases hi
    rw [SymbolSet.addClass_of_not_mem hmem]

theorem resolve_eq_find? (name : String) : t.resolve name = t.classes.find? (·.fullName == name) := by
  unfold resolve
  split
  · rename_i place h
    have hlt := t.place_lt h
    have hname : t.classes[place].fullName = name := by
      simpa [List.getElem?_eq_getElem hlt] using (t.inStep _ _).1 h
    cases hf : t.classes.find? (·.fullName == name) with
    | none => simpa [hname] using List.find?_eq_none.1 hf _ (List.getElem_mem hlt)
    | some d =>
      have hd : d.fullName = name := by simpa using List.find?_some hf
      obtain ⟨i, hi⟩ := List.getElem?_of_mem (List.mem_of_find?_eq_some hf)
      have hplace := t.place_of_getElem? hi
      rw [hd, h] at hplace
      cases hplace
      rw [← hi, List.getElem?_eq_getElem hlt]
  · rename_i h
    symm
    rw [List.find?_eq_none]
    intro d hd hname
    obtain ⟨i, hi⟩ := List.getElem?_of_mem hd
    have hplace := t.place_of_getElem? hi
    rw [beq_iff_eq.1 hname, h] at hplace
    cases hplace

/-- The table of classes that are handed over one after the other. -/
def ofClasses (classes : List ClassDecl) : ClassTable := classes.foldl add empty

theorem classes_ofClasses (classes : List ClassDecl) :
    (ofClasses classes).classes = classes.foldl SymbolSet.addClass [] := by
  have hfold : ∀ t : ClassTable, (classes.foldl add t).classes = classes.foldl SymbolSet.addClass t.classes := by
    induction classes with
    | nil => exact fun t => rfl
    | cons c rest ih =>
      intro t
      rw [List.foldl_cons, List.foldl_cons, ih, classes_add]
  exact hfold empty

end ClassTable

/-! ## Sets that are built -/

/-- Whatever is handed over, and in whatever order: the names of the classes in the set are distinct and stand in
the order in which they came first, and each class is the last one that came under its name. To look a name up
gives the class of that name, if there is one. An index that is kept on the way leads to the same classes; it
notes a place for exactly the names in the set, and the place is the right one. -/
theorem built_class_table (additions : List Addition) :
    let handed := additions.filterMap Addition.class?
    let names := handed.map (·.fullName)
    let set := (Builder.addAll {} additions).build
    let table := ClassTable.ofClasses handed
    (set.classes.map (·.fullName)).Nodup ∧
    (set.classes.Pairwise fun c d => names.idxOf c.fullName < names.idxOf d.fullName) ∧
    (∀ c, c ∈ set.classes ↔ ∃ before after, handed = before ++ c :: after ∧ c.fullName ∉ after.map (·.fullName)) ∧
    (∀ name c, set.resolve name = some c ↔ c ∈ set.classes ∧ c.fullName = name) ∧
    table.classes = set.classes ∧ (∀ name, table.resolve name = set.resolve name) ∧
    ∀ (name : String) (place : Nat),
      table.places[name]? = some place ↔ ∃ c, set.classes[place]? = some c ∧ c.fullName = name := by
  intro handed names set table
  have hset : set.classes = handed.foldl SymbolSet.addClass [] := by
    simp only [set, Builder.addAll_eq, List.nil_append]
    rfl
  have hkeeps : SymbolSet.Keeps handed set.classes := hset ▸ SymbolSet.keeps_foldl handed
  have htable : table.classes = set.classes := by rw [ClassTable.classes_ofClasses, hset]
  have horder := hkeeps.order
  rw [List.pairwise_map] at horder
  refine ⟨hkeeps.nodup, horder, hkeeps.mem_iff, ?_, htable, ?_, ?_⟩
  · intro name c
    exact find?_key_eq_some_iff hkeeps.nodup
  · intro name
    rw [ClassTable.resolve_eq_find?, htable]
    rfl
  · intro name place
    rw [ClassTable.inStep, htable, List.getElem?_map, Option.map_eq_some_iff]

-- A class that comes again takes the place of the first, and a look-up gives the new one.
example :
    let cart := ClassDecl.ofName "shop.Cart"
    let set := (Builder.addAll {} [.cls cart, .pkg (PackageDecl.ofName "shop"), .cls (ClassDecl.ofName "shop.Item"),
      .cls { cart with keep := true }]).build
    set.classes.map (·.fullName) = ["shop.Cart", "shop.Item"] ∧
      (set.resolve "shop.Cart").map (·.keep) = some true := by
  decide +kernel

end Unmask
