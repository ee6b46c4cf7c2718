import Unmask.Alias.Lineage
import Unmask.Proofs.ClassTable
/-!
# Walks through superclasses

What a class is by its ancestry is what the first class is by its own declaration among the class itself, its
superclass, the superclass of that, and so on (`FirstBase`). Such a chain may run in a circle, which need not lead back
to the class where it began, so as a sequence it may have no end.

A `Climb` is a walk along the chain that notes the names of the classes it has seen and stops at a name that it knows.
Every step that does not end the walk notes a name that was not noted before, and a resolver knows finitely many, so the
walk ends (`ends_frameworkBase`). A look-up that finds any number of classes is a resolver to all walks that do end,
since they come to finitely many classes (`exists_resolver`).

Where a class is found under its own name only, a walk has missed nothing when it stops at a known name: all that would
follow are classes that it has seen (`Explored.mem_of_ancestor`). `frameworkBase_first` puts both together for sets that
were built.
-/

namespace Unmask

namespace ClassDecl

/-- The class that a class extends, if it is found. -/
def parent? (resolve : String → Option ClassDecl) (c : ClassDecl) : Option ClassDecl := c.super.bind resolve

/-- The classes of a chain, each of which is extended by the one before. -/
def ancestor? (resolve : String → Option ClassDecl) (start : Option ClassDecl) : Nat → Option ClassDecl
  | 0 => start
  | n + 1 => (ancestor? resolve start n).bind (parent? resolve)

theorem ancestor?_succ (resolve : String → Option ClassDecl) (c : ClassDecl) (n : Nat) :
    ancestor? resolve (some c) (n + 1) = ancestor? resolve (parent? resolve c) n := by
  induction n with
  | zero => rfl
  | succ n ih => rw [ancestor?, ih]; rfl

end ClassDecl

namespace Alias

open ClassDecl

variable {resolve : String → Option ClassDecl}

/-! ## The first class that is something -/

/-- What a class is by its own declaration: a match of the superclass, or else of the first interface that has one. -/
inductive DeclaresBase (c : ClassDecl) (base : String) : Prop
  | ofSuper {name : String} (hsuper : c.super = some name) (hbase : superBase? name = some base)
  | ofInterface (hsuper : ∀ name, c.super = some name → superBase? name = none) {before after : List String}
      {name : String} (hinterfaces : c.interfaces = before ++ name :: after)
      (hbefore : ∀ other ∈ before, interfaceBase? other = none) (hbase : interfaceBase? name = some base)

theorem ownBase?_eq_some_iff {c : ClassDecl} {base : String} : ownBase? c = some base ↔ DeclaresBase c base := by
  unfold ownBase?
  rw [Option.or_eq_some_iff, Option.bind_eq_some_iff, Option.bind_eq_none_iff, List.findSome?_eq_some_iff]
  constructor
  · rintro (⟨name, hsuper, hbase⟩ | ⟨hnone, before, name, after, hinterfaces, hbase, hbefore⟩)
    · exact .ofSuper hsuper hbase
    · exact .ofInterface hnone hinterfaces hbefore hbase
  · rintro (⟨hsuper, hbase⟩ | ⟨hnone, hinterfaces, hbefore, hbase⟩)
    · exact .inl ⟨_, hsuper, hbase⟩
    · exact .inr ⟨hnone, _, _, _, hinterfaces, hbase, hbefore⟩

/-- Whether a class is nothing by its own declaration. -/
def IsBare (c : ClassDecl) : Prop := ∀ base, ¬ DeclaresBase c base

theorem ownBase?_eq_none_iff {c : ClassDecl} : ownBase? c = none ↔ IsBare c := by
  rw [Option.eq_none_iff_forall_ne_some]
  exact forall_congr' fun base => not_congr ownBase?_eq_some_iff

/-- What the first class of a chain is that is something, or nothing if none is. -/
inductive FirstBase (resolve : String → Option ClassDecl) (start : Option ClassDecl) : String → Prop
  | found {n : Nat} {c : ClassDecl} {base : String} (hc : ancestor? resolve start n = some c)
      (hbase : DeclaresBase c base) (hbefore : ∀ m < n, ∀ d, ancestor? resolve start m = some d → IsBare d) :
      FirstBase resolve start base
  | nothing (h : ∀ n c, ancestor? resolve start n = some c → IsBare c) : FirstBase resolve start ""

theorem bare_of_parent {c d : ClassDecl} {n : Nat} (hbare : IsBare c)
    (h : ∀ m, m + 1 = n → ∀ e, ancestor? resolve (parent? resolve c) m = some e → IsBare e)
    (hd : ancestor? resolve (some c) n = some d) : IsBare d := by
  cases n with
  | zero =>
    cases hd
    exact hbare
  | succ m =>
    rw [ancestor?_succ] at hd
    exact h m rfl d hd

theorem FirstBase.of_parent {c : ClassDecl} {base : String} (hbare : IsBare c)
    (h : FirstBase resolve (parent? resolve c) base) : FirstBase resolve (some c) base := by
  cases h with
  | @found n d _ hd hbase hbefore =>
    refine .found (n := n + 1) (by rw [ancestor?_succ, hd]) hbase fun m hm e he => ?_
    exact bare_of_parent hbare (fun k hk => hbefore k (by omega)) he
  | nothing hnone => exact .nothing fun n d hd => bare_of_parent hbare (fun m _ => hnone m) hd

/-! ## Walking with a memory -/

/-- A walk upwards: the names of the classes it has seen, and the class that comes next. -/
structure Climb where
  seen : List String
  next : Option ClassDecl

namespace Climb

/-- Goes one class further, or ends with what was found. -/
def step (resolve : String → Option ClassDecl) (w : Climb) : String ⊕ Climb :=
  match w.next with
  | none => .inl ""
  | some c =>
    if c.fullName ∈ w.seen then .inl ""
    else
      match ownBase? c with
      | some base => .inl base
      | none => .inr ⟨c.fullName :: w.seen, parent? resolve c⟩

/-- The walk ends after a number of steps. -/
inductive Ends (resolve : String → Option ClassDecl) : Climb → Nat → String → Prop
  | last {w : Climb} {base : String} (h : w.step resolve = .inl base) : Ends resolve w 1 base
  | more {w w' : Climb} {n : Nat} {base : String} (h : w.step resolve = .inr w') (hrest : Ends resolve w' n base) :
      Ends resolve w (n + 1) base

/-- A walk ends where no new class comes next, or at a class that is something; else it goes on. -/
theorem step_cases (resolve : String → Option ClassDecl) (w : Climb) :
    (w.step resolve = .inl "" ∧ ∀ c, w.next = some c → c.fullName ∈ w.seen) ∨
    (∃ c base, w.next = some c ∧ ownBase? c = some base ∧ w.step resolve = .inl base) ∨
    (∃ c, w.next = some c ∧ c.fullName ∉ w.seen ∧ ownBase? c = none ∧
      w.step resolve = .inr ⟨c.fullName :: w.seen, parent? resolve c⟩) := by
  unfold step
  cases hnext : w.next with
  | none => exact .inl ⟨rfl, nofun⟩
  | some c =>
    by_cases hknown : c.fullName ∈ w.seen
    · refine .inl ⟨by simp [hknown], ?_⟩
      rintro d ⟨⟩
      exact hknown
    · cases hown : ownBase? c with
      | some base => exact .inr (.inl ⟨c, base, rfl, hown, by simp [hknown, hown]⟩)
      | none => exact .inr (.inr ⟨c, rfl, hknown, hown, by simp [hknown, hown]⟩)

variable {w : Climb} {behind : List ClassDecl}

theorem step_of_known (h : ∀ c, w.next = some c → c.fullName ∈ w.seen) : w.step resolve = .inl "" := by
  unfold step
  cases hnext : w.next with
  | none => rfl
  | some c => simp [h c hnext]

theorem step_of_bare {c : ClassDecl} {seen : List String} (hnew : c.fullName ∉ seen) (hown : ownBase? c = none) :
    step resolve ⟨seen, some c⟩ = .inr ⟨c.fullName :: seen, parent? resolve c⟩ := by
  simp [step, hnew, hown]

/-! ## Every walk ends -/

/-- A walk on which the classes of `unseen` are the only ones left ends as `baseAmong` does, after at most one step for
each of them and two more. -/
theorem ends_baseAmong (r : Resolver) {unseen : List String} {c : ClassDecl} {seen : List String}
    (hnew : c.fullName ∉ seen) (hunseen : ∀ name, name ∈ unseen ↔ name ∈ r.names ∧ name ∉ c.fullName :: seen) :
    ∃ n ≤ unseen.length + 2, Ends r.resolve ⟨seen, some c⟩ n (baseAmong r unseen c) := by
  fun_induction baseAmong r unseen c generalizing seen with
  | case1 unseen c base hown => exact ⟨1, by omega, .last (by simp [step, hnew, hown])⟩
  | case2 unseen c hown hparent =>
    refine ⟨2, by omega, .more (step_of_bare hnew hown) (.last (step_of_known ?_))⟩
    simp [parent?, hparent]
  | case3 unseen c hown d hparent hd hlt ih =>
    have hothers : ∀ name, name ∈ othersThan d.fullName unseen ↔
        name ∈ r.names ∧ name ∉ d.fullName :: c.fullName :: seen := by
      intro name
      simp only [mem_othersThan, hunseen, List.mem_cons]
      tauto
    obtain ⟨n, hn, hends⟩ := ih ((hunseen _).1 hd).2 hothers
    refine ⟨n + 1, by omega, .more (step_of_bare hnew hown) ?_⟩
    rwa [parent?, hparent]
  | case4 unseen c hown d hparent hd =>
    -- The resolver knows the class, so it is left out only because the walk has seen it.
    refine ⟨2, by omega, .more (step_of_bare hnew hown) (.last (step_of_known ?_))⟩
    rintro e he
    rw [parent?, hparent] at he
    cases he
    obtain ⟨name, -, hname⟩ := Option.bind_eq_some_iff.1 hparent
    by_contra hseen
    exact hd ((hunseen _).2 ⟨r.known hname, hseen⟩)

theorem ends_frameworkBase (r : Resolver) (c : ClassDecl) :
    ∃ n ≤ (othersThan c.fullName r.names).length + 2, Ends r.resolve ⟨[], some c⟩ n (frameworkBase r c) := by
  apply ends_baseAmong r List.not_mem_nil
  simp [mem_othersThan]

/-! ## Nothing is missed -/

/-- Whether every class that is found has the name that was asked for. -/
def Keyed (resolve : String → Option ClassDecl) : Prop :=
  ∀ name c, resolve name = some c → c.fullName = name

/-- The classes that a walk has seen are nothing by their own declaration, and no superclass leads to any other but
the one that comes next. All of them are found under their own names. -/
structure Explored (resolve : String → Option ClassDecl) (w : Climb) (behind : List ClassDecl) : Prop where
  seen : w.seen = behind.map (·.fullName)
  found : ∀ c ∈ behind, resolve c.fullName = some c
  bare : ∀ c ∈ behind, IsBare c
  closed : ∀ c ∈ behind, ∀ d, parent? resolve c = some d → d ∈ behind ∨ w.next = some d
  next : ∀ c, w.next = some c → resolve c.fullName = some c

/-- All ancestors of a class that was seen before were seen before. -/
theorem Explored.mem_of_ancestor (h : Explored resolve w behind) (hnext : ∀ c, w.next = some c → c ∈ behind)
    (n : Nat) : ∀ c, ancestor? resolve w.next n = some c → c ∈ behind := by
  induction n with
  | zero => exact hnext
  | succ n ih =>
    intro c hc
    obtain ⟨d, hd, hparent⟩ := Option.bind_eq_some_iff.1 hc
    rcases h.closed d (ih d hd) c hparent with hbehind | hnext'
    · exact hbehind
    · exact hnext c hnext'

theorem Explored.goOn {c : ClassDecl} (hkeyed : Keyed resolve) (h : Explored resolve w behind)
    (hc : w.next = some c) (hbare : IsBare c) :
    Explored resolve ⟨c.fullName :: w.seen, parent? resolve c⟩ (c :: behind) where
  seen := by simp [h.seen]
  found := List.forall_mem_cons.2 ⟨h.next c hc, h.found⟩
  bare := List.forall_mem_cons.2 ⟨hbare, h.bare⟩
  closed := by
    rintro d hd e he
    rcases List.mem_cons.1 hd with rfl | hd
    · exact .inr he
    · rcases h.closed d hd e he with hbehind | hnext
      · exact .inl (List.mem_cons_of_mem _ hbehind)
      · rw [hc] at hnext
        cases hnext
        exact .inl List.mem_cons_self
  next := by
    intro d hd
    obtain ⟨name, -, hname⟩ := Option.bind_eq_some_iff.1 hd
    rwa [hkeyed name d hname]

/-- What a walk ends with is what the first class is that is something. -/
theorem Ends.firstBase (hkeyed : Keyed resolve) {n : Nat} {base : String} (h : Ends resolve w n base)
    (hexp : Explored resolve w behind) : FirstBase resolve w.next base := by
  induction h generalizing behind with
  | @last w base hstep =>
    rcases step_cases resolve w with ⟨he, hknown⟩ | ⟨c, found, hc, hfound, he⟩ | ⟨c, -, -, -, he⟩
    · rw [he] at hstep
      cases hstep
      have hbehind : ∀ c, w.next = some c → c ∈ behind := by
        intro c hc
        have hname := hknown c hc
        rw [hexp.seen, List.mem_map] at hname
        obtain ⟨d, hd, hname⟩ := hname
        -- Both are found under that name, so the class that comes next is the one that was seen.
        have hsame := hexp.found d hd
        rw [hname, hexp.next c hc] at hsame
        rwa [Option.some.inj hsame]
      exact .nothing fun n c hc => hexp.bare c (hexp.mem_of_ancestor hbehind n c hc)
    · rw [he] at hstep
      cases hstep
      exact .found (n := 0) hc (ownBase?_eq_some_iff.1 hfound) fun m hm => absurd hm (Nat.not_lt_zero m)
    · rw [he] at hstep
      cases hstep
  | @more w w' n base hstep hrest ih =>
    rcases step_cases resolve w with ⟨he, -⟩ | ⟨c, found, -, -, he⟩ | ⟨c, hc, -, hown, he⟩
    · rw [he] at hstep
      cases hstep
    · rw [he] at hstep
      cases hstep
    · rw [he] at hstep
      cases hstep
      have hbare := ownBase?_eq_none_iff.1 hown
      rw [hc]
      exact (ih (hexp.goOn hkeyed hc hbare)).of_parent hbare

/-! ## Any look-up -/

theorem Ends.unique {m n : Nat} {base base' : String} (h : Ends resolve w m base) (h' : Ends resolve w n base') :
    base = base' := by
  induction h generalizing n with
  | @last w base hstep =>
    cases h' with
    | last hstep' =>
      rw [hstep] at hstep'
      exact Sum.inl.inj hstep'
    | more hstep' => simp [hstep] at hstep'
  | @more w w' m base hstep hrest ih =>
    cases h' with
    | last hstep' => simp [hstep] at hstep'
    | more hstep' hrest' =>
      rw [hstep] at hstep'
      cases hstep'
      exact ih hrest'

/-- A look-up that finds only classes of some names. -/
def restrict (resolve : String → Option ClassDecl) (names : List String) : Resolver where
  resolve name := (resolve name).filter (·.fullName ∈ names)
  names := names
  known h := by simpa using (Option.filter_eq_some_iff.1 h).2

theorem parent?_restrict {c : ClassDecl} {names : List String}
    (h : ∀ d, parent? resolve c = some d → d.fullName ∈ names) :
    parent? (restrict resolve names).resolve c = parent? resolve c := by
  unfold parent? at *
  cases hsuper : c.super with
  | none => rfl
  | some name =>
    rw [hsuper, Option.bind_some] at h
    rw [Option.bind_some, Option.bind_some]
    cases hname : resolve name with
    | none => simp [restrict, hname]
    | some d => simp [restrict, hname, h d hname]

/-- A step looks up one class at most. -/
theorem exists_step_restrict (resolve : String → Option ClassDecl) (w : Climb) :
    ∃ names, ∀ more, names ⊆ more → w.step (restrict resolve more).resolve = w.step resolve := by
  cases hnext : w.next with
  | none => exact ⟨[], fun more _ => by simp [step, hnext]⟩
  | some c =>
    refine ⟨((parent? resolve c).map (·.fullName)).toList, fun more hsub => ?_⟩
    have hparent : parent? (restrict resolve more).resolve c = parent? resolve c :=
      parent?_restrict fun d hd => hsub (by simp [hd])
    simp only [step, hnext, hparent]

/-- A walk comes to finitely many classes, and a look-up that finds these leads it to the same end. -/
theorem Ends.exists_restrict {n : Nat} {base : String} (h : Ends resolve w n base) :
    ∃ names, ∀ more, names ⊆ more → Ends (restrict resolve more).resolve w n base := by
  induction h with
  | @last w base hstep =>
    obtain ⟨names, hnames⟩ := exists_step_restrict resolve w
    exact ⟨names, fun more hsub => .last ((hnames more hsub).trans hstep)⟩
  | @more w w' n base hstep hrest ih =>
    obtain ⟨names, hnames⟩ := exists_step_restrict resolve w
    obtain ⟨others, hothers⟩ := ih
    refine ⟨names ++ others, fun more hsub => ?_⟩
    rw [List.append_subset] at hsub
    exact .more ((hnames more hsub.1).trans hstep) (hothers more hsub.2)

/-- Whatever a look-up finds, and however many classes: for any classes from which the walks end, some resolver gives
the same answers. -/
theorem exists_resolver (resolve : String → Option ClassDecl) (classes : List ClassDecl)
    (h : ∀ c ∈ classes, ∃ n base, Ends resolve ⟨[], some c⟩ n base) :
    ∃ r : Resolver, ∀ c ∈ classes, ∃ n, Ends resolve ⟨[], some c⟩ n (frameworkBase r c) := by
  have hnames : ∀ c ∈ classes, ∃ n base names, Ends resolve ⟨[], some c⟩ n base ∧
      ∀ more, names ⊆ more → Ends (restrict resolve more).resolve ⟨[], some c⟩ n base := by
    intro c hc
    obtain ⟨n, base, hends⟩ := h c hc
    obtain ⟨names, hmore⟩ := hends.exists_restrict
    exact ⟨n, base, names, hends, hmore⟩
  choose! n base names hends hmore using hnames
  refine ⟨restrict resolve (classes.flatMap names), fun c hc => ⟨n c, ?_⟩⟩
  have hsame := hmore c hc (classes.flatMap names) fun name hname => List.mem_flatMap.2 ⟨c, hc, hname⟩
  obtain ⟨m, -, hbase⟩ := ends_frameworkBase (restrict resolve (classes.flatMap names)) c
  rw [hbase.unique hsame]
  exact hends c hc

end Climb

/-- In a set that was built, a walk from a class upwards ends after at most one step for each class and one more. It
ends with what the first class of the chain is that is something by its own declaration, and with nothing if no class
of the chain is anything, even if the chain has no end. -/
theorem frameworkBase_first (packages : List PackageDecl) (classes : List ClassDecl) (c : ClassDecl)
    (hc : c ∈ (SymbolSet.build packages classes).classes) :
    let set := SymbolSet.build packages classes
    (∃ n ≤ set.classes.length + 1, Climb.Ends set.resolve ⟨[], some c⟩ n (frameworkBase set c)) ∧
      FirstBase set.resolve (some c) (frameworkBase set c) := by
  intro set
  have hfound : ∀ name d, set.resolve name = some d ↔ d ∈ set.classes ∧ d.fullName = name :=
    fun name d => find?_key_eq_some_iff (SymbolSet.nodup_fullName_build packages classes)
  have hlength : set.resolver.names.length = set.classes.length := List.length_map _
  have hlt : (othersThan c.fullName set.resolver.names).length < set.resolver.names.length :=
    length_othersThan_lt (List.mem_map_of_mem hc)
  obtain ⟨n, hn, hends⟩ := Climb.ends_frameworkBase set c
  have hexp : Climb.Explored set.resolve ⟨[], some c⟩ [] := by
    refine ⟨rfl, nofun, nofun, nofun, ?_⟩
    rintro d ⟨⟩
    exact (hfound _ _).2 ⟨hc, rfl⟩
  exact ⟨⟨n, by omega, hends⟩, hends.firstBase (fun name d h => ((hfound name d).1 h).2) hexp⟩

/-- A class that leads into a circle of two others, of which the second lists some interfaces. -/
def circle (interfaces : List String) : List ClassDecl := [
  { ClassDecl.ofName "shop.Cart" with super := some "shop.Box" },
  { ClassDecl.ofName "shop.Box" with super := some "shop.Item" },
  { ClassDecl.ofName "shop.Item" with super := some "shop.Box", interfaces }]

theorem frameworkBase_first_circle :
    let c := { ClassDecl.ofName "shop.Cart" with super := some "shop.Box" }
    let bare := SymbolSet.build [] (circle [])
    let runnable := SymbolSet.build [] (circle ["java.io.Serializable", "java.lang.Runnable"])
    (c ∈ bare.classes ∧ frameworkBase bare c = "" ∧
      (∃ n ≤ bare.classes.length + 1, Climb.Ends bare.resolve ⟨[], some c⟩ n (frameworkBase bare c)) ∧
      FirstBase bare.resolve (some c) (frameworkBase bare c)) ∧
    c ∈ runnable.classes ∧ frameworkBase runnable c = "Runnable" ∧
      (∃ n ≤ runnable.classes.length + 1, Climb.Ends runnable.resolve ⟨[], some c⟩ n (frameworkBase runnable c)) ∧
      FirstBase runnable.resolve (some c) (frameworkBase runnable c) := by
  intro c bare runnable
  have hbare : c ∈ bare.classes := by decide +kernel
  have hrunnable : c ∈ runnable.classes := by decide +kernel
  refine ⟨⟨hbare, by decide +kernel, ?_⟩, hrunnable, by decide +kernel, ?_⟩
  · exact frameworkBase_first [] (circle []) c hbare
  · exact frameworkBase_first [] (circle ["java.io.Serializable", "java.lang.Runnable"]) c hrunnable

end Alias

end Unmask
