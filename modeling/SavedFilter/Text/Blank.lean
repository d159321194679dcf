/-! # Blank space and trimming

The characters that trimming removes are those of the Unicode property `White_Space`.
A text is blank when trimming leaves nothing of it. -/
set_option autoImplicit false
namespace SavedFilter.Text

/-- The Unicode property `White_Space`. -/
def isBlank (c : Char) : Bool :=
  let n := c.toNat
  (9 ≤ n && n ≤ 13) || n == 0x20 || n == 0x85 || n == 0xa0 || n == 0x1680 ||
    (0x2000 ≤ n && n ≤ 0x200a) || n == 0x2028 || n == 0x2029 || n == 0x202f ||
    n == 0x205f || n == 0x3000

def trimStart (cs : List Char) : List Char := cs.dropWhile isBlank

def trimEnd (cs : List Char) : List Char := (cs.reverse.dropWhile isBlank).reverse

def trim (cs : List Char) : List Char := trimEnd (trimStart cs)

def isBlankText (s : String) : Bool := (trim s.toList).isEmpty

end SavedFilter.Text
