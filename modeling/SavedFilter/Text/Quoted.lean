import SavedFilter.Text.Shown

/-! # Quoted texts for diagnostics

A text between double quotes in which every character is either shown as itself or named by an
escape: a backslash with a letter for the common controls, the quote and the backslash, and
otherwise the code point in hexadecimal between braces. -/
set_option autoImplicit false
namespace SavedFilter.Text

def quotedChar (c : Char) : List Char :=
  match c.toNat with
  | 0x00 => ['\\', '0']
  | 0x09 => ['\\', 't']
  | 0x0a => ['\\', 'n']
  | 0x0d => ['\\', 'r']
  | 0x22 => ['\\', c]
  | 0x5c => ['\\', c]
  | n => if isShown c then [c] else "\\u\x7b".toList ++ Nat.toDigits 16 n ++ ['\x7d']

/-- A text between double quotes, unprintable characters escaped. -/
def quoted (s : String) : String :=
  String.ofList ('\x22' :: s.toList.flatMap quotedChar ++ ['\x22'])

end SavedFilter.Text
