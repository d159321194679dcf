import SavedFilter.Json.Basic

/-! # JSON text

A value on one line without spaces, or over several lines with two spaces for each level. Only
the quote, the backslash and the control characters are escaped in strings. -/
set_option autoImplicit false
namespace SavedFilter.Json

def escapedChar (c : Char) : List Char :=
  match c.toNat with
  | 0x08 => ['\\', 'b']
  | 0x09 => ['\\', 't']
  | 0x0a => ['\\', 'n']
  | 0x0c => ['\\', 'f']
  | 0x0d => ['\\', 'r']
  | 0x22 => ['\\', c]
  | 0x5c => ['\\', c]
  | n => if n < 0x20 then ['\\', 'u', '0', '0', Nat.digitChar (n / 16), Nat.digitChar (n % 16)]
    else [c]

def stringText (s : String) : List Char :=
  '\x22' :: s.toList.flatMap escapedChar ++ ['\x22']

/-- A line break and the spaces of a level. -/
def lineAt (level : Nat) : List Char := '\n' :: List.replicate (2 * level) ' '

mutual

def compactChars : Json → List Char
  | null => "null".toList
  | bool b => if b then "true".toList else "false".toList
  | integer n => (toString n).toList
  | float x => x.toText
  | string s => stringText s
  | array items => '[' :: compactItems true items ++ [']']
  | object members => '\x7b' :: compactMembers true members ++ ['\x7d']

def compactItems (first : Bool) : List Json → List Char
  | [] => []
  | value :: rest =>
    (if first then [] else [',']) ++ (compactChars value ++ compactItems false rest)

def compactMembers (first : Bool) : List (String × Json) → List Char
  | [] => []
  | (name, value) :: rest =>
    (if first then [] else [',']) ++
      (stringText name ++ ':' :: (compactChars value ++ compactMembers false rest))

end

mutual

def prettyChars (level : Nat) : Json → List Char
  | array [] => ['[', ']']
  | array (value :: rest) =>
    '[' :: (lineAt (level + 1) ++ prettyChars (level + 1) value ++ prettyItems (level + 1) rest
      ++ lineAt level ++ [']'])
  | object [] => ['\x7b', '\x7d']
  | object ((name, value) :: rest) =>
    '\x7b' :: (lineAt (level + 1) ++ stringText name ++ [':', ' '] ++ prettyChars (level + 1) value
      ++ prettyMembers (level + 1) rest ++ lineAt level ++ ['\x7d'])
  | value => compactChars value

def prettyItems (level : Nat) : List Json → List Char
  | [] => []
  | value :: rest => ',' :: (lineAt level ++ prettyChars level value ++ prettyItems level rest)

def prettyMembers (level : Nat) : List (String × Json) → List Char
  | [] => []
  | (name, value) :: rest =>
    ',' :: (lineAt level ++ stringText name ++ [':', ' '] ++ prettyChars level value
      ++ prettyMembers level rest)

end

def compact (value : Json) : String := String.ofList value.compactChars

def pretty (value : Json) : String := String.ofList (value.prettyChars 0)

end SavedFilter.Json
