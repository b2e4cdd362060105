import SearchClient.Http.Host.Label
import SearchClient.Text.Split

set_option autoImplicit false

/-! # Domains

A domain is a host name of labels with dots between them; dots of other scripts count as well. A dot
at the end is kept. -/

namespace SearchClient.Http.Host

/-- The longest text of a domain that ends with a dot. -/
def longestDomain : Nat :=
  254

/-- The characters that stand for a dot. -/
def dots : List Char :=
  ['.', '\u3002', '\uff0e', '\uff61']

/-- The labels of a domain, without an empty one at the end, and whether there was one. -/
def labelsOf (domain : List Char) : List (List Char) × Bool :=
  let labels := Text.splitOn '.' (domain.map fun c => if dots.contains c then '.' else c)
  if labels.getLast? = some [] then (labels.dropLast, true) else (labels, false)

/-- A domain in small letters as it is sent. -/
def sendDomain (domain : List Char) : Except Fault (List Char) := do
  if longestDomain < domain.length then throw .longDomain
  let (labels, dotted) := labelsOf domain
  let sent ← labels.mapM sendLabel
  let text := Text.joinOn '.' (if dotted then sent ++ [[]] else sent)
  if (if dotted then longestDomain else longestDomain - 1) < text.length then throw .longDomain
  return text

/-- Checks a domain that begins with a label in basic characters: all its labels have to stand for
    something. -/
def checkDomain (domain : List Char) : Except Fault Unit := do
  if codeMark.isPrefixOf domain then
    if longestDomain < domain.length then throw .longDomain
    (labelsOf domain).1.forM checkSent

end SearchClient.Http.Host
