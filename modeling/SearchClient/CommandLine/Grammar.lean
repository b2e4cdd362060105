import SearchClient.Decimal.Literal
import SearchClient.Text.Quoted
import SearchClient.Text.Split

set_option autoImplicit false

/-! # Grammars of command lines

A grammar has flags, operands, and perhaps commands with grammars of their own. A flag may be
abbreviated, take its argument behind an equals sign, and a short one also without it. Operands fill
their slots as early as they can; a command takes all that follows it. Behind a double dash there
are only operands. What fits nowhere is left over, and is told at the end. -/

namespace SearchClient.CommandLine

/-- The arguments that a flag accepts. -/
inductive Accepts where
  | anything
  | integer
  | oneOf (options : List String)
deriving DecidableEq

/-- What a flag does. -/
inductive Effect where
  | takes (argument : Accepts)
  /-- Takes an argument if there is one, and else has the given one. -/
  | mayTake (otherwise : String)
  | help
  | version
deriving DecidableEq

/-- A flag with its spellings, all of which begin with a dash. -/
structure Flag where
  name : String
  spellings : List String
  effect : Effect
  /-- Whether the flag may be abbreviated. -/
  shortens : Bool := true
deriving DecidableEq

/-- An operand. Only the last operand of a grammar may be optional. -/
structure Operand where
  name : String
  optional : Bool := false
deriving DecidableEq

/-- A grammar: flags, operands, and perhaps a choice of commands under a name. -/
inductive Grammar where
  | node (flags : List Flag) (operands : List Operand)
      (choice : Option (String × List (String × Grammar)))

/-- What an operand or a command goes into. -/
inductive Slot where
  | operand (o : Operand)
  | command (name : String) (commands : List (String × Grammar))

/-- Why the reading of a command line ends early. -/
inductive Halt where
  /-- The command line is not in the grammar; by the program, or the command, that says so. -/
  | rejected (program message : String)
  | help
  | version
deriving DecidableEq

/-- What has been read: the commands from the outermost one on, flags and operands with their texts
    in the order in which they are filled, and what is left over. An operand that was given a double
    dash alone has no text. -/
structure Reading where
  commands : List String := []
  given : List (String × Option String) := []
  extras : List String := []
deriving DecidableEq

namespace Grammar

/-- The flags of a grammar. -/
def flags : Grammar → List Flag
  | node flags _ _ => flags

/-- The slots of a grammar. -/
def slots : Grammar → List Slot
  | node _ operands choice =>
    operands.map .operand ++
      match choice with
      | some (name, commands) => [.command name commands]
      | none => []

/-- All spellings with their flags. -/
def spellings (g : Grammar) : List (String × Flag) :=
  g.flags.flatMap fun f => f.spellings.map fun s => (s, f)

end Grammar

/-! ## Recognising flags -/

/-- A flag as it is used: its full spelling, and its argument if that is in the same text. -/
structure Use where
  flag : Flag
  spelling : String
  argument : Option String := none
deriving DecidableEq

/-- What a text of a command line is. -/
inductive Mark where
  | operand
  | separator
  | flag (u : Use)
  | unknownFlag
deriving DecidableEq

/-- Whether all characters are decimal digits, and there is one. -/
def isDigits (cs : List Char) : Bool :=
  !cs.isEmpty && cs.all fun c => (Text.digitValue? c).isSome

/-- Whether a text is a dash and a number, perhaps with a line feed behind it. -/
def isNegativeNumber : List Char → Bool
  | '-' :: cs =>
    let cs := if cs.getLast? = some '\n' then cs.dropLast else cs
    isDigits cs ||
      match Text.cutLast? '.' cs with
      | some (whole, fraction) => (whole.isEmpty || isDigits whole) && isDigits fraction
      | none => false
  | _ => false

/-- The flags that an abbreviated text may stand for, with what it says about their argument. -/
def candidates (g : Grammar) (cs : List Char) : List Use :=
  match cs with
  | '-' :: '-' :: _ =>
    let (stem, argument) :=
      match Text.cut? '=' cs with
      | some (stem, argument) => (stem, some (String.ofList argument))
      | none => (cs, none)
    (g.spellings.filter fun (s, f) => f.shortens && stem.isPrefixOf s.toList).map fun (s, f) =>
      ⟨f, s, argument⟩
  | cs =>
    g.spellings.filterMap fun (s, f) =>
      if s.toList = cs.take 2 then some ⟨f, s, some (String.ofList (cs.drop 2))⟩
      else if cs.isPrefixOf s.toList then some ⟨f, s, none⟩
      else none

/-- The spelling in front of an equals sign, with the argument behind it. -/
def joinedUse? (g : Grammar) (cs : List Char) : Option Use := do
  let (s, argument) ← Text.cut? '=' cs
  let f ← g.spellings.lookup (String.ofList s)
  return ⟨f, String.ofList s, some (String.ofList argument)⟩

/-- What a text in front of any double dash is. -/
def recognise (g : Grammar) (program arg : String) : Except Halt Mark :=
  let cs := arg.toList
  match cs with
  | '-' :: _ :: _ =>
    match g.spellings.lookup arg, joinedUse? g cs with
    | some f, _ => .ok (.flag ⟨f, arg, none⟩)
    | none, some u => .ok (.flag u)
    | none, none =>
      match candidates g cs with
      | [u] => .ok (.flag u)
      | u :: us =>
        .error (.rejected program ("ambiguous option: " ++ arg ++ " could match " ++
          ", ".intercalate ((u :: us).map (·.spelling))))
      | [] => .ok (if isNegativeNumber cs || cs.contains ' ' then .operand else .unknownFlag)
  | _ => .ok .operand

/-- What the texts of a command line are. -/
def marks (g : Grammar) (program : String) : List String → Except Halt (List (String × Mark))
  | [] => .ok []
  | arg :: args =>
    if arg = "--" then .ok ((arg, .separator) :: args.map fun a => (a, .operand))
    else do
      let m ← recognise g program arg
      let ms ← marks g program args
      return (arg, m) :: ms

/-! ## Filling slots -/

/-- How many double dashes are in front. -/
def separators (ms : List Mark) : Nat :=
  (ms.takeWhile (· = .separator)).length

/-- How many texts go into a slot, if they fit. A double dash goes with the operand beside it. -/
def Slot.width? (s : Slot) (ms : List Mark) : Option Nat :=
  let before := separators ms
  let rest := ms.drop before
  if rest.head? = some .operand then
    match s with
    | .operand _ => some (before + 1 + separators (rest.drop 1))
    | .command .. => some ms.length
  else
    match s with
    | .operand o => if o.optional then some before else none
    | .command .. => none

/-- How many texts go into each of some slots, if they fit in all of them. -/
def widths? : List Slot → List Mark → Option (List Nat)
  | [], _ => some []
  | s :: ss, ms => do
    let n ← s.width? ms
    let ns ← widths? ss (ms.drop n)
    return n :: ns

/-- How many texts go into each of the first slots, for as many slots as can be filled, up to `n`
    of them. -/
def fillable (ss : List Slot) (ms : List Mark) : Nat → List Nat
  | 0 => []
  | n + 1 => (widths? (ss.take (n + 1)) ms).getD (fillable ss ms n)

/-- Removes the first double dash. -/
def dropSeparator : List String → List String
  | [] => []
  | s :: ss => if s = "--" then ss else s :: dropSeparator ss

/-! ## Complaints -/

/-- Texts between quotes with commas between them. -/
def quotedList (ss : List String) : String :=
  ", ".intercalate (ss.map fun s => String.ofList (Text.quoted s.toList))

/-- The complaint that something is none of the choices. -/
def invalidChoice (s : String) (options : List String) : String :=
  "invalid choice: " ++ quotedList [s] ++ " (choose from " ++ quotedList options ++ ")"

/-- The complaint about an argument that is not accepted. -/
def Accepts.complaint? (a : Accepts) (s : String) : Option String :=
  match a with
  | .anything => none
  | .integer =>
    if (Literal.int? s).isSome then none else some ("invalid int value: " ++ quotedList [s])
  | .oneOf options => if s ∈ options then none else some (invalidChoice s options)

/-- The rejection of an argument. -/
def rejectArgument (program name complaint : String) : Halt :=
  .rejected program ("argument " ++ name ++ ": " ++ complaint)

/-- The name of a flag in complaints. -/
def Flag.label (f : Flag) : String :=
  "/".intercalate f.spellings

/-- The complaint about an argument for a flag that takes none. -/
def ignoredArgument (s : String) : String :=
  "ignored explicit argument " ++ quotedList [s]

/-! ## Reading flags -/

/-- The flag that a flag without argument and the text behind it in one word lead to: short flags
    may stand together behind one dash. `none` if the text leads to no flag. -/
def chained (g : Grammar) (argument : List Char) : Option Use :=
  match argument with
  | [] => none
  | c :: rest =>
    let s := String.ofList ['-', c]
    (g.spellings.lookup s).map fun f =>
      ⟨f, s, if rest.isEmpty then none else some (String.ofList rest)⟩

/-- The first flag of a use and its argument, and how many of the texts behind it that takes. All
    flags that stand together in one word have to be well formed. -/
def settle (g : Grammar) (program : String) (next : Option (String × Mark)) :
    Nat → Use → Except Halt (Flag × Option String × Nat)
  | 0, u => .ok (u.flag, none, 0)
  | fuel + 1, u =>
    match u.flag.effect, u.argument with
    | .takes _, some a => .ok (u.flag, some a, 0)
    | .takes _, none =>
      match next with
      | some (a, .operand) => .ok (u.flag, some a, 1)
      | _ => .error (rejectArgument program u.flag.label "expected one argument")
    | .mayTake _, some a => .ok (u.flag, some a, 0)
    | .mayTake otherwise, none =>
      match next with
      | some (a, .operand) => .ok (u.flag, some a, 1)
      | _ => .ok (u.flag, some otherwise, 0)
    | _, none => .ok (u.flag, none, 0)
    | _, some a =>
      let chain := if "--".toList.isPrefixOf u.spelling.toList then none else chained g a.toList
      match chain with
      | none => .error (rejectArgument program u.flag.label (ignoredArgument a))
      | some v => (settle g program next fuel v).map fun _ => (u.flag, none, 0)

/-- What a flag does: it gives its argument a name, or ends the reading. -/
def perform (program : String) (f : Flag) (argument : Option String) :
    Except Halt (List (String × Option String)) :=
  match f.effect with
  | .help => .error .help
  | .version => .error .version
  | .mayTake _ => .ok [(f.name, argument)]
  | .takes accepts =>
    let a := argument.getD ""
    match accepts.complaint? a with
    | some complaint => .error (rejectArgument program f.label complaint)
    | none => .ok [(f.name, some a)]

/-! ## Reading command lines -/

/-- How far a command line has been read: the slots to be filled, what has been given, what is left
    over, and what a command has read. -/
structure Progress where
  slots : List Slot
  given : List (String × Option String)
  extras : List String
  inner : Reading

/-- Reads the texts behind a command; by the name of the command, the program, and the texts. -/
abbrev Descend := Grammar → String → List String → Except Halt Reading

/-- Fills one slot with texts. -/
def Progress.fill (p : Progress) (descend : Descend) (program : String) (s : Slot)
    (texts : List String) : Except Halt Progress := do
  match s with
  | .operand o =>
    match dropSeparator texts with
    | a :: _ => return { p with given := p.given ++ [(o.name, some a)] }
    | [] => return if o.optional then p else { p with given := p.given ++ [(o.name, none)] }
  | .command name commands =>
    let command := texts.headD ""
    match commands.lookup command with
    | none => throw (rejectArgument program name (invalidChoice command (commands.map (·.1))))
    | some g =>
      let inner ← descend g (program ++ " " ++ command) (texts.drop 1)
      return { p with inner := { inner with commands := command :: inner.commands } }

/-- Fills slots with as many texts each as the numbers say. -/
def Progress.fillAll (p : Progress) (descend : Descend) (program : String) :
    List Nat → List String → Except Halt Progress
  | [], _ => .ok p
  | n :: ns, texts =>
    match p.slots with
    | [] => .ok p
    | s :: slots => do
      let p ← ({ p with slots }).fill descend program s (texts.take n)
      p.fillAll descend program ns (texts.drop n)

/-- Whether a text is used as a flag. -/
def isFlag : Mark → Bool
  | .flag _ | .unknownFlag => true
  | .operand | .separator => false

/-- Reads marked texts: the slots are filled in front of every flag, and once more at the end. -/
def Progress.read (descend : Descend) (g : Grammar) (program : String) :
    Nat → List (String × Mark) → Progress → Except Halt Progress
  | 0, _, p => .ok p
  | fuel + 1, items, p => do
    match items with
    | (a, .unknownFlag) :: rest =>
      Progress.read descend g program fuel rest { p with extras := p.extras ++ [a] }
    | (a, .flag u) :: rest =>
      let (f, argument, n) ← settle g program rest.head? (a.length + 1) u
      let given ← perform program f argument
      Progress.read descend g program fuel (rest.drop n) { p with given := p.given ++ given }
    | items =>
      let ns := fillable p.slots (items.map (·.2)) p.slots.length
      let p ← p.fillAll descend program ns (items.map (·.1))
      let taken := ns.foldl (· + ·) 0
      let rest := items.drop taken
      if !(items.any fun i => isFlag i.2) then
        return { p with extras := p.extras ++ rest.map (·.1) }
      else if taken > 0 then
        Progress.read descend g program fuel rest p
      else
        let (skipped, rest) := rest.span fun i => !isFlag i.2
        Progress.read descend g program fuel rest { p with extras := p.extras ++ skipped.map (·.1) }

/-- The names of the slots that must be filled. -/
def requiredNames (ss : List Slot) : List String :=
  ss.filterMap fun
    | .operand o => if o.optional then none else some o.name
    | .command name _ => some name

/-- Reads the texts behind a program or command. -/
def readFrom : Nat → Grammar → String → List String → Except Halt Reading
  | 0, _, _, _ => .ok {}
  | fuel + 1, g, program, args => do
    let items ← marks g program args
    let start : Progress := ⟨g.slots, [], [], {}⟩
    let p ← Progress.read (readFrom fuel) g program (2 * items.length + 2) items start
    match requiredNames p.slots with
    | [] =>
      return ⟨p.inner.commands, p.given ++ p.inner.given, p.extras ++ p.inner.extras⟩
    | names =>
      throw (.rejected program ("the following arguments are required: " ++ ", ".intercalate names))

/-- Reads a command line. Nothing may be left over. -/
def Grammar.read (g : Grammar) (program : String) (args : List String) : Except Halt Reading := do
  let r ← readFrom (args.length + 1) g program args
  match r.extras with
  | [] => return r
  | extras => throw (.rejected program ("unrecognized arguments: " ++ " ".intercalate extras))

/-- The complaint of a rejected command line. -/
def Halt.complaint? : Halt → Option String
  | .rejected program message => some (program ++ ": error: " ++ message ++ "\n")
  | .help | .version => none

end SearchClient.CommandLine
