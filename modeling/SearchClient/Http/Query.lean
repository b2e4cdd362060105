import SearchClient.Text.Percent
import SearchClient.Value.Display

set_option autoImplicit false

/-! # Query parameters

The parameters of a request are named values in order. They are sent as a form: each name at its
first place with all its values in their order. -/

namespace SearchClient.Http

/-- Named values in order; a name may occur more than once. -/
abbrev Params := List (String × Value)

namespace Params

/-- The text that a value is sent as. -/
def sentText : Value → String
  | .null => ""
  | .bool true => "true"
  | .bool false => "false"
  | v => v.displayText

/-- The parameters as named texts. -/
def texts (ps : Params) : List (String × String) :=
  ps.map fun (name, v) => (name, sentText v)

/-- Puts a pair behind the last pair of its name, or at the end. -/
def insertGrouped (p : String × String) : List (String × String) → List (String × String)
  | [] => [p]
  | q :: qs =>
    if q.1 = p.1 && !qs.any (·.1 = p.1) then q :: p :: qs else q :: insertGrouped p qs

/-- The pairs with those of one name together. -/
def grouped (pairs : List (String × String)) : List (String × String) :=
  pairs.foldl (fun acc p => insertGrouped p acc) []

/-- A pair as a form writes it. -/
def pairText (p : String × String) : List Char :=
  Text.Percent.field p.1 ++ '=' :: Text.Percent.field p.2

/-- Pairs as a form writes them. -/
def formText (pairs : List (String × String)) : List Char :=
  Value.joinWith "&" (pairs.map pairText)

/-- The query of the parameters, if there are any. -/
def query? (ps : Params) : Option (List Char) :=
  if ps.isEmpty then none else some (formText (grouped ps.texts))

/-- A pair as logs show it. -/
def literalPair (p : String × Value) : List Char :=
  '(' :: Text.quoted p.1.toList ++ ", ".toList ++ p.2.literal ++ [')']

/-- The parameters as logs show them. -/
def literal (ps : Params) : List Char :=
  '[' :: Value.joinWith ", " (ps.map literalPair) ++ [']']

end Params

end SearchClient.Http
