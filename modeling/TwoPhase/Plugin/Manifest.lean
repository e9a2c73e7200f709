import TwoPhase.Order.Distinct
import TwoPhase.Plugin.LoadError
import TwoPhase.Text.Blank

/-!
# Service manifests

A manifest lists the implementations of one service, one on a line. What follows a `#` is a
comment, and lines with nothing else on them do not count. An implementation is named by
identifiers with `::` between them; a name that occurs again is dropped.
-/

namespace TwoPhase

/-- The implementations of one service. -/
structure Manifest where
  service : String
  /-- The implementations in the order of the text, each once. -/
  entries : List String
deriving DecidableEq, Repr

namespace Manifest

/-- Whether a character can stand at the start of an identifier. Identifiers are ASCII. -/
def isIdentifierStart (c : Char) : Bool := c == '_' || c.isAlpha

/-- Whether a character can stand inside an identifier. -/
def isIdentifierPart (c : Char) : Bool := c == '_' || c.isAlphanum

/-- Whether a text is an identifier. -/
def isIdentifier : List Char → Bool
  | [] => false
  | c :: rest => isIdentifierStart c && rest.all isIdentifierPart

/-- The parts of a name between double colons, read from the left. -/
def pathSegments : List Char → List (List Char)
  | [] => [[]]
  | ':' :: ':' :: rest => [] :: pathSegments rest
  | c :: rest =>
      match pathSegments rest with
      | [] => [[c]]
      | segment :: segments => (c :: segment) :: segments

/-- Whether a text names an implementation. -/
def isImplementationPath (s : List Char) : Bool := (pathSegments s).all isIdentifier

/-- What a line holds besides its comment and the blank characters around. -/
def content (line : List Char) : List Char := Text.trim (line.takeWhile (· != '#'))

/-- Reads the lines from a given line number on; `entries` are those found before. -/
def parseLines (service : String) :
    Nat → List String → List (List Char) → Except LoadError (List String)
  | _, entries, [] => .ok entries
  | number, entries, line :: rest =>
      let text := content line
      if text.isEmpty then parseLines service (number + 1) entries rest
      else if isImplementationPath text then
        parseLines service (number + 1) (Order.addNew entries (String.ofList text)) rest
      else .error (.malformedManifest service number (String.ofList text))

/-- Reads a manifest. The error names the first line that cannot be read. -/
def parse (service text : String) : Except LoadError Manifest := do
  let entries ← parseLines service 1 [] (text.toList.splitOn '\n')
  return ⟨service, entries⟩

end Manifest
end TwoPhase
