import SavedFilter.Text.Case
import SavedFilter.Text.Split

/-! # Field paths

A field path names a column, perhaps of a related model: two underscores stand between the
segments of a path. A term may offer alternative paths, written with bars between them. -/
set_option autoImplicit false
namespace SavedFilter.Field

def alternatives (text : String) : List String :=
  (Text.trimmedParts '|' text.toList).map String.ofList

def joined (paths : List String) : String := "|".intercalate paths

def segments (path : String) : List String :=
  (Text.splitOnDouble '_' path.toList).map String.ofList

/-- The last two underscores in a row split a path into the name of a relation and the name of
a column. -/
def split? (path : String) : Option (String × String) :=
  (Text.splitAtLastDouble? '_' path.toList).map fun (q, n) => (String.ofList q, String.ofList n)

def qualifier? (path : String) : Option String := (split? path).map Prod.fst

def isRelated (path : String) : Bool := Text.contains ['_', '_'] path.toList

/-- A field with `date` anywhere in its path, in any letter case, holds dates. -/
def namesDate (path : String) : Bool :=
  Text.contains ['d', 'a', 't', 'e'] (Text.lower path.toList)

/-- The label of one alternative: underscores give way to blanks and the first letter is a
capital. -/
def humanizeOne (cs : List Char) : List Char :=
  let spaced := [' '].intercalate (Text.splitOnDouble '_' (Text.trim cs))
  Text.capitalize (spaced.map fun c => if c = '_' then ' ' else c)

def humanize (text : String) : String :=
  " OR ".intercalate ((text.toList.splitOn '|').map fun cs => String.ofList (humanizeOne cs))

end SavedFilter.Field
