/-!
# Parts of a text

Names are cut at separators (`.` between packages, `$` between nested classes) and searched for
markers. Everything here works on the list of characters.

- `afterLast` and `beforeLast?` cut at the last separator, and put together they give the text back
  (`beforeLast?_append_afterLast`).
- `pieces` cuts at every separator.
- `hasPart` looks for a run of consecutive characters (`hasPart_iff`).
-/

namespace Unmask.Text

/-- What stands after the last `sep`, or the whole text where there is none. -/
def afterLast (sep : Char) (s : List Char) : List Char :=
  (s.reverse.takeWhile (· != sep)).reverse

/-- What stands before the last `sep`. -/
def beforeLast? (sep : Char) (s : List Char) : Option (List Char) :=
  match s.reverse.dropWhile (· != sep) with
  | [] => none
  | _ :: r => some r.reverse

theorem beforeLast?_append_afterLast {sep : Char} {s p : List Char} (h : beforeLast? sep s = some p) :
    s = p ++ sep :: afterLast sep s := by
  have hs := List.takeWhile_append_dropWhile (p := (· != sep)) (l := s.reverse)
  revert h
  rw [beforeLast?]
  split
  · simp
  · rename_i d r hd
    intro h
    have hsep : d = sep := by
      have := List.head?_dropWhile_not (p := (· != sep)) (l := s.reverse)
      simpa [hd] using this
    rw [hd, hsep] at hs
    have := congrArg List.reverse hs
    rw [List.reverse_reverse] at this
    rw [← Option.some.inj h]
    exact this.symm.trans (by simp [afterLast])

theorem afterLast_of_beforeLast?_eq_none {sep : Char} {s : List Char} (h : beforeLast? sep s = none) :
    afterLast sep s = s := by
  have hs := List.takeWhile_append_dropWhile (p := (· != sep)) (l := s.reverse)
  revert h
  rw [beforeLast?]
  split
  · rename_i hd
    rw [hd, List.append_nil] at hs
    intro _
    rw [afterLast, hs, List.reverse_reverse]
  · simp

theorem not_mem_afterLast (sep : Char) (s : List Char) : sep ∉ afterLast sep s := by
  intro h
  have := List.all_takeWhile (p := (· != sep)) (l := s.reverse)
  rw [List.all_eq_true] at this
  have := this sep (by simpa [afterLast] using h)
  simp at this

/-- The pieces of a text between separators. A text without one is its own only piece. -/
def pieces (sep : Char) : List Char → List (List Char)
  | [] => [[]]
  | c :: r =>
    if c = sep then [] :: pieces sep r
    else
      match pieces sep r with
      | [] => [[c]]
      | p :: ps => (c :: p) :: ps

/-- Whether `part` stands somewhere in the text, as consecutive characters. -/
def hasPart (part : List Char) : List Char → Bool
  | [] => part.isEmpty
  | c :: r => part.isPrefixOf (c :: r) || hasPart part r

theorem hasPart_iff (part s : List Char) : hasPart part s = true ↔ part <:+: s := by
  induction s with
  | nil => simp [hasPart]
  | cons c r ih => rw [hasPart, Bool.or_eq_true, List.isPrefixOf_iff_prefix, ih, List.infix_cons_iff]

/-- A text without the characters of a class at its end. -/
def dropRight (p : Char → Bool) (s : List Char) : List Char :=
  (s.reverse.dropWhile p).reverse

end Unmask.Text
