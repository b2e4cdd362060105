import SearchClient.Text.Composite
import SearchClient.Text.Mark

set_option autoImplicit false

/-! # Composed texts

A text is composed if it has composite characters wherever it could have them, and its marks are in
the order of their classes. `compose` makes a text composed: it takes all characters apart, sorts
the marks, and puts together what can be. Syllables of Korean are made of two or three letters by a
rule of their own. Characters are given by their numbers. -/

namespace SearchClient.Text

namespace Composed

/-! ## Syllables -/

/-- The first syllable. -/
def firstSyllable : Nat := 0xAC00

/-- The letter in front of the leading ones. -/
def firstLead : Nat := 0x1100

/-- The first vowel. -/
def firstVowel : Nat := 0x1161

/-- The letter in front of the closing ones. -/
def firstClosing : Nat := 0x11A7

/-- How many leading letters, vowels and closing letters there are; no closing letter is one too. -/
def leads : Nat := 19
def vowels : Nat := 21
def closings : Nat := 28

/-- The letters of a syllable. -/
def lettersOf? (n : Nat) : Option (List Nat) :=
  let i := n - firstSyllable
  if n < firstSyllable || leads * vowels * closings ≤ i then none
  else
    let start := [firstLead + i / (vowels * closings), firstVowel + i / closings % vowels]
    some (if i % closings = 0 then start else start ++ [firstClosing + i % closings])

/-- The syllable of a leading letter and a vowel, or of a syllable and a closing letter. -/
def syllable? (a b : Nat) : Option Nat :=
  if firstLead ≤ a && a < firstLead + leads && firstVowel ≤ b && b < firstVowel + vowels then
    some (firstSyllable + ((a - firstLead) * vowels + (b - firstVowel)) * closings)
  else
    let i := a - firstSyllable
    if firstSyllable ≤ a && i < leads * vowels * closings && i % closings = 0 &&
        firstClosing < b && b < firstClosing + closings then some (a + (b - firstClosing))
    else none

/-! ## Taking apart -/

/-- The characters that a character is made of; a part may be made of others in turn, but not more
    often than `depth` times. -/
def partsFrom (n : Nat) : Nat → List Nat
  | 0 => [n]
  | depth + 1 =>
    match composites.lookup n with
    | some (a, b) => partsFrom a depth ++ [b]
    | none => (lettersOf? n).getD [n]

/-- The characters that a character is made of. -/
def parts (n : Nat) : List Nat :=
  partsFrom n 4

/-- Puts a character in front of a text whose marks are sorted, behind all marks of lower
    classes. -/
def insert (n : Nat) : List Nat → List Nat
  | [] => [n]
  | m :: ms =>
    if markClass m ≠ 0 && markClass m < markClass n then m :: insert n ms else n :: m :: ms

/-- Sorts the marks between any two characters of class zero. -/
def sortMarks (ns : List Nat) : List Nat :=
  ns.foldr insert []

/-! ## Putting together -/

/-- The character that two characters make up. -/
def composite? (a b : Nat) : Option Nat :=
  match composites.find? fun (_, parts) => parts = (a, b) with
  | some (n, _) => some n
  | none => syllable? a b

/-- Puts a character of class zero together with those behind it. What stands between them, in
    reverse, blocks every mark whose class is not higher. -/
def composeFrom (start : Nat) (between : List Nat) : List Nat → List Nat
  | [] => start :: between.reverse
  | n :: ns =>
    let blocked := between.head?.any fun m => markClass n ≤ markClass m
    match if blocked then none else composite? start n with
    | some c => composeFrom c between ns
    | none =>
      if markClass n = 0 then start :: between.reverse ++ composeFrom n [] ns
      else composeFrom start (n :: between) ns

/-- Puts characters together wherever that is possible. -/
def join : List Nat → List Nat
  | [] => []
  | n :: ns => if markClass n = 0 then composeFrom n [] ns else n :: join ns

/-- A text without characters that stand for others, composed. -/
def compose (ns : List Nat) : List Nat :=
  join (sortMarks (ns.flatMap parts))

end Composed

/-- Whether a text is composed. -/
def isComposed (ns : List Nat) : Bool :=
  !ns.any standIns.holds && Composed.compose ns = ns

end SearchClient.Text
