set_option autoImplicit false

/-! # Faults of configuration texts

A configuration text is refused for what stands at the first place where it cannot be read: a
character, a token, the arrangement of tokens, a name that refers to nothing, or a value that does
not have the form of its tag. -/

namespace SearchClient.Yaml

/-- Why a configuration text is refused. -/
inductive Fault where
  /-- A character that no text may hold. -/
  | character
  /-- Characters that make no token. -/
  | token
  /-- A token where no such token may stand. -/
  | arrangement
  /-- A name that refers to nothing, or to two things; or a second document. -/
  | reference
  /-- A tag that is not known, or that does not fit what it stands before. -/
  | tag
  /-- A number, date or time that does not exist; its wording is told. -/
  | badScalar (message : String)
  /-- An empty text where a number has to be. -/
  | emptyNumber
  /-- A text that is no truth value where one has to be. -/
  | notBoolean
  /-- A text that is no date or time where one has to be. -/
  | notTime
  /-- A mapping where the text of a date or time has to be. -/
  | noText
  /-- A number that is too large to be computed with. -/
  | tooLarge
deriving DecidableEq

end SearchClient.Yaml
