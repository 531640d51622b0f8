import CatalogIntake.Json.Value

namespace CatalogIntake.Json

def hexDigit (n : Nat) : Char := (Nat.digitChar n)

/-- Quotation marks and backslashes are escaped, and the control characters below the blank. -/
def escapeChar (c : Char) : List Char :=
  if c = '"' then ['\\', '"']
  else if c = '\\' then ['\\', '\\']
  else if c.toNat = 8 then ['\\', 'b']
  else if c.toNat = 9 then ['\\', 't']
  else if c.toNat = 10 then ['\\', 'n']
  else if c.toNat = 12 then ['\\', 'f']
  else if c.toNat = 13 then ['\\', 'r']
  else if c.toNat < 32 then ['\\', 'u', '0', '0', hexDigit (c.toNat / 16), hexDigit (c.toNat % 16)]
  else [c]

def quoted (s : String) : List Char := '"' :: s.toList.flatMap escapeChar ++ ['"']

mutual

def compact : Json → List Char
  | .null => "null".toList
  | .bool b => (if b then "true" else "false").toList
  | .integer n => (toString n).toList
  | .double x => x.render.toList
  | .string s => quoted s
  | .array items => '[' :: compactItems items ++ [']']
  | .object members => '{' :: compactMembers members ++ ['}']

def compactItems : List Json → List Char
  | [] => []
  | [item] => compact item
  | item :: next :: rest => compact item ++ ',' :: compactItems (next :: rest)

def compactMembers : List (String × Json) → List Char
  | [] => []
  | [(name, value)] => quoted name ++ ':' :: compact value
  | (name, value) :: next :: rest =>
    quoted name ++ ':' :: compact value ++ ',' :: compactMembers (next :: rest)

end

def indentation (depth : Nat) : List Char := '\n' :: List.replicate (2 * depth) ' '

mutual

def indented (depth : Nat) : Json → List Char
  | .array [] => ['[', ']']
  | .array (item :: items) =>
    '[' :: indentedItems (depth + 1) (item :: items) ++ indentation depth ++ [']']
  | .object [] => ['{', '}']
  | .object (member :: members) =>
    '{' :: indentedMembers (depth + 1) (member :: members) ++ indentation depth ++ ['}']
  | .null => "null".toList
  | .bool b => (if b then "true" else "false").toList
  | .integer n => (toString n).toList
  | .double x => x.render.toList
  | .string s => quoted s

def indentedItems (depth : Nat) : List Json → List Char
  | [] => []
  | [item] => indentation depth ++ indented depth item
  | item :: next :: rest =>
    indentation depth ++ indented depth item ++ ',' :: indentedItems depth (next :: rest)

def indentedMembers (depth : Nat) : List (String × Json) → List Char
  | [] => []
  | [(name, value)] => indentation depth ++ quoted name ++ ':' :: ' ' :: indented depth value
  | (name, value) :: next :: rest =>
    indentation depth ++ quoted name ++ ':' :: ' ' :: indented depth value
      ++ ',' :: indentedMembers depth (next :: rest)

end

def render (value : Json) : String := String.ofList (compact value)

def renderIndented (value : Json) : String := String.ofList (indented 0 value)

end CatalogIntake.Json
