import SearchClient.Http.Host.Direction
import SearchClient.Http.Host.Fault
import SearchClient.Http.Host.Joining
import SearchClient.Http.Host.Permitted
import SearchClient.Text.Composed
import SearchClient.Text.Punycode
import SearchClient.Text.Script
import SearchClient.Text.Split

set_option autoImplicit false

/-! # Labels

A label is a part of a host name between two dots. It is composed, does not start or end with a
hyphen, does not start with a mark, and holds permitted characters: some only beside certain others.
A label with letters that are written from right to left is of one direction. What is not ASCII is
sent in basic characters behind a mark. Characters are given by their numbers. -/

namespace SearchClient.Http.Host

/-! ## Characters and those beside them -/

/-- Whether the letters on both sides of a place join; `before` is in reverse. -/
def joinsAcross (before after : List Nat) : Bool :=
  let next (ns : List Nat) := (ns.map joiningOf?).find? (· ≠ some .transparent)
  [some (some Joining.left), some (some .both)].contains (next before) &&
    [some (some Joining.right), some (some .both)].contains (next after)

/-- The class of marks that take the vowel from the letter in front. -/
def vowelKiller : Nat :=
  9

/-- Checks a joiner. A joiner may follow a mark that takes a vowel away; the one that keeps letters
    apart may also stand between letters that join. -/
def checkJoiner (s : Spot) (before after : List Nat) : Except Fault Unit :=
  if before.head?.any fun m => Text.markClass m = vowelKiller then .ok ()
  else if s.char = 0x200C && joinsAcross before after then .ok ()
  else .error (.joiner s)

/-- Whether a character is an Arabic digit of the first or the second kind. -/
def isFirstArabicDigit (n : Nat) : Bool := 0x660 ≤ n && n ≤ 0x669
def isSecondArabicDigit (n : Nat) : Bool := 0x6F0 ≤ n && n ≤ 0x6F9

/-- Whether a character that needs certain others has them; `none` for all other characters. -/
def suits? (s : Spot) (before after : List Nat) : Option Bool :=
  let n := s.char
  if n = 0xB7 then some (before.head? = some 0x6C && after.head? = some 0x6C)
  else if n = 0x375 then some (after.head?.any Text.Script.greek.holds)
  else if n = 0x5F3 || n = 0x5F4 then some (before.head?.any Text.Script.hebrew.holds)
  else if n = 0x30FB then some (s.label.any fun m => m ≠ n && Text.Script.japanese.holds m)
  else if isFirstArabicDigit n then some (!s.label.any isSecondArabicDigit)
  else if isSecondArabicDigit n then some (!s.label.any isFirstArabicDigit)
  else none

/-- Checks the characters of a label from a position on; `before` is what is in front, in
    reverse. -/
def checkCharsFrom (label before : List Nat) : List Nat → Except Fault Unit
  | [] => .ok ()
  | n :: after => do
    let s : Spot := ⟨n, before.length + 1, label⟩
    if isPermitted n then pure ()
    else if n = 0x200C || n = 0x200D then checkJoiner s before after
    else
      match suits? s before after with
      | some true => pure ()
      | some false => throw (.context s)
      | none => throw (.char s)
    checkCharsFrom label (n :: before) after

/-! ## Directions -/

/-- Whether a direction leads to the left. -/
def Direction.isLeftward (d : Direction) : Bool :=
  d = .right || d = .arabic

/-- The first place, counted from one, whose direction is in a class. -/
def placeOf? (p : Direction → Bool) (ds : List Direction) : Option Nat :=
  (ds.findIdx? p).map (· + 1)

/-- The first fault of a label that is written to the left; `seen` is the kind of its digits. -/
def leftwardFault? (seen : Option Direction) (position : Nat) : List Direction → Option Fault
  | [] => none
  | d :: ds =>
    if d = .left then some (.inLeftward position)
    else if d = .digit || d = .arabicDigit then
      if seen.any (· ≠ d) then some .mixedDigits else leftwardFault? (some d) (position + 1) ds
    else leftwardFault? seen (position + 1) ds

/-- Whether a label may end with a direction. Marks at the end do not count. -/
def endsWell (leftward : Bool) (ds : List Direction) : Bool :=
  match ds.reverse.find? (· ≠ .mark) with
  | some d =>
    d = .digit || (if leftward then d.isLeftward || d = .arabicDigit else d = .left)
  | none => false

/-- Checks the directions in a label, if some of them lead to the left. -/
def checkDirections (label : List Nat) : Except Fault Unit :=
  let ds := label.map directionOf
  let isForeign (d : Direction) : Bool := d.isLeftward || d = .arabicDigit
  match placeOf? (· = .unknown) ds, ds with
  | some position, _ => .error (.direction position label)
  | none, [] => .ok ()
  | none, d :: rest =>
    if !(d :: rest).any isForeign then .ok ()
    else
      let fault :=
        if d.isLeftward then leftwardFault? none 1 (d :: rest)
        else if d = .left then (placeOf? isForeign (d :: rest)).map .inRightward
        else some (.firstDirection label)
      match fault with
      | some fault => .error fault
      | none => if endsWell d.isLeftward (d :: rest) then .ok () else .error .lastDirection

/-! ## Labels -/

/-- The longest label that is looked at. -/
def longestLabel : Nat :=
  254

/-- The longest label that is sent. -/
def longestSentLabel : Nat :=
  63

/-- Checks a label. -/
def checkLabel (label : List Nat) : Except Fault Unit := do
  let hyphen := '-'.toNat
  if label.isEmpty then throw .emptyLabel
  else if longestLabel < label.length then throw .longLabel
  else if !Text.isComposed label then throw .notComposed
  else if (label.drop 2).take 2 = [hyphen, hyphen] then throw .hyphenPair
  else if label.head? = some hyphen || label.getLast? = some hyphen then throw .hyphenEnd
  else if label.head?.any Text.isMark then throw .leadingMark
  else
    checkCharsFrom label [] label
    checkDirections label

/-- What stands in front of a label in basic characters. -/
def codeMark : List Char :=
  "xn--".toList

/-- Checks a label in ASCII: itself, or the label that it stands for. -/
def checkSent (label : List Char) : Except Fault Unit :=
  match Text.dropText? codeMark label with
  | none => checkLabel (label.map Char.toNat)
  | some code =>
    if code.isEmpty then .error .emptyCode
    else if code.getLast? = some '-' then .error .hyphenCode
    else
      match Text.Punycode.decode? code with
      | some label => checkLabel label
      | none => .error .badCode

/-- A label as it is sent. -/
def sendLabel (label : List Char) : Except Fault (List Char) := do
  let sent ←
    if label.all (·.toNat < 0x80) then
      checkSent label
      pure label
    else
      let ns := label.map Char.toNat
      checkLabel ns
      pure (codeMark ++ Text.Punycode.encode ns)
  if longestSentLabel < sent.length then throw .longLabel
  return sent

end SearchClient.Http.Host
