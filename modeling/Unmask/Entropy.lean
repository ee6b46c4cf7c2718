/-!
# Entropy of names

The Shannon entropy of a name, in bits per character, over its Latin-1 characters; the others are not
counted. The value depends on the name only through how often each code point below 256 occurs
(`entropy_eq_of_occurrences`).

The terms are added in the order of the code points, starting from negative zero, so a name that
repeats one character has entropy `-0.0`, and a name without a counted character has `0.0`.
-/

namespace Unmask

/-- How often each Latin-1 code point occurs in a name, in the order of the code points. -/
def occurrences (name : List Char) : List Nat :=
  (List.range 256).map fun code => name.countP fun c => c.toNat == code

/-- The entropy of a distribution given by counts. Zero counts contribute nothing. -/
def entropyOfCounts (counts : List Nat) : Float :=
  let total := counts.foldr (· + ·) 0
  if total = 0 then 0.0
  else
    (counts.filter (0 < ·)).foldl
      (fun sum count =>
        let p := Float.ofNat count / Float.ofNat total
        sum + -p * p.log2)
      (-0.0)

/-- The Shannon entropy of a name. -/
def entropy (name : String) : Float := entropyOfCounts (occurrences name.toList)

theorem entropy_eq_of_occurrences {a b : String} (h : occurrences a.toList = occurrences b.toList) :
    entropy a = entropy b := by
  rw [entropy, entropy, h]

end Unmask
