import SavedFilter.Text.CaseContext
import SavedFilter.Text.CaseTable

/-! # Letter case

Full Unicode case mappings. A character by itself maps to one or more characters; a whole text
is lowered character by character, with one exception: a capital sigma that ends a word becomes
the final sigma. It ends a word when, case-ignorable characters apart, a cased character comes
right before it and none comes right after. -/
set_option autoImplicit false
namespace SavedFilter.Text

def lowerChar (c : Char) : List Char :=
  if c.toNat = 0x130 then ['i', Char.ofNat 0x307]
  else
    match lowerRuns.findSome? (·.mapped? c.toNat) with
    | some n => [Char.ofNat n]
    | none => [c]

def upperChar (c : Char) : List Char :=
  match upperExpansions.lookup c.toNat with
  | some ns => ns.map Char.ofNat
  | none =>
    match upperRuns.findSome? (·.mapped? c.toNat) with
    | some n => [Char.ofNat n]
    | none => [c]

/-- The first character that is not case-ignorable is cased. -/
def meetsCased (cs : List Char) : Bool :=
  match cs.dropWhile isCaseIgnorable with
  | [] => false
  | c :: _ => isCased c

/-- Lower case of a text whose reading has passed `before`, the last character first. -/
def lowerAfter (before : List Char) : List Char → List Char
  | [] => []
  | c :: rest =>
    let image :=
      if c = 'Σ' then
        if meetsCased before && !meetsCased rest then ['ς'] else ['σ']
      else lowerChar c
    image ++ lowerAfter (c :: before) rest

def lower (cs : List Char) : List Char := lowerAfter [] cs

def lowerText (s : String) : String := String.ofList (lower s.toList)

/-- Upper case for the first character, and lower case, out of context, for all others. -/
def capitalize : List Char → List Char
  | [] => []
  | c :: rest => upperChar c ++ rest.flatMap lowerChar

def capitalizeText (s : String) : String := String.ofList (capitalize s.toList)

end SavedFilter.Text
