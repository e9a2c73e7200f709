/-!
# JSON documents

Nested objects of texts, written over several lines with two blanks of indentation for each
level. The members of an object are written in the order in which they are listed.
-/

namespace TwoPhase.Text

/-- A document: a text, or an object with named members. -/
inductive Json where
  | text (s : String)
  | object (members : List (String × Json))

namespace Json

/-- How one character is written inside a JSON string. -/
def escape (c : Char) : List Char :=
  if c = '"' then ['\\', '"']
  else if c = '\\' then ['\\', '\\']
  else if c = '\n' then ['\\', 'n']
  else if c = '\r' then ['\\', 'r']
  else if c = '\t' then ['\\', 't']
  else if c = '\x08' then ['\\', 'b']
  else if c = '\x0c' then ['\\', 'f']
  else if c.toNat < 0x20 then
    let digits := Nat.toDigits 16 c.toNat
    ['\\', 'u'] ++ List.replicate (4 - digits.length) '0' ++ digits
  else [c]

/-- A JSON string. -/
def quote (s : String) : String :=
  String.ofList ('"' :: (s.toList.flatMap escape ++ ['"']))

/-- The indentation of a level. -/
def indent (level : Nat) : String := String.ofList (List.replicate (2 * level) ' ')

mutual

/-- The text of a document that starts at a level of indentation. -/
def render (level : Nat) : Json → String
  | text s => quote s
  | object [] => "\x7b\x7d"
  | object (member :: rest) =>
      "\x7b\n" ++ ",\n".intercalate (renderMembers (level + 1) (member :: rest)) ++
        "\n" ++ indent level ++ "\x7d"

/-- The lines of the members of an object. -/
def renderMembers (level : Nat) : List (String × Json) → List String
  | [] => []
  | (name, value) :: rest =>
      (indent level ++ quote name ++ ": " ++ render level value) :: renderMembers level rest

end

end Json
end TwoPhase.Text
