import SavedFilter.Registry
import SavedFilter.Text.Quoted

/-! # Failures of commands

Why a command fails, and the line that says so: the names of the causes from the outside in, with
what each of them is about. What is wrong with a JSON text is not told; its line stops there. -/
set_option autoImplicit false
namespace SavedFilter

inductive FileFault where
  | notFound
  | isDirectory
  | notDirectory
  | nameTooLong
  | notText
  | other (code : Nat) (kind message : String)
deriving DecidableEq

inductive Failure where
  | file (fault : FileFault)
  | badJson
  | noRegistry
  | badRecords (kind : String)
  | badFilter (problems : Nat)
  | plan (cause : PlanError)
  | compile (cause : CompileError)
deriving DecidableEq

def about (name content : String) : String := name ++ "(" ++ content ++ ")"

def withParts (name : String) (parts : List (String × String)) : String :=
  name ++ " \x7b " ++ ", ".intercalate (parts.map fun p => p.1 ++ ": " ++ p.2) ++ " \x7d"

def systemFault (code : Nat) (kind message : String) : String :=
  withParts "Os" [("code", toString code), ("kind", kind), ("message", Text.quoted message)]

def FileFault.diagnosis : FileFault → String
  | notFound => systemFault 2 "NotFound" "No such file or directory"
  | isDirectory => systemFault 21 "IsADirectory" "Is a directory"
  | notDirectory => systemFault 20 "NotADirectory" "Not a directory"
  | nameTooLong => systemFault 36 "InvalidFilename" "File name too long"
  | notText =>
    withParts "Error"
      [("kind", "InvalidData"), ("message", Text.quoted "stream did not contain valid UTF-8")]
  | other code kind message => systemFault code kind message

def Lookup.word : Lookup → String
  | equals => "Equals"
  | contains => "Contains"
  | startsWith => "StartsWith"
  | endsWith => "EndsWith"
  | oneOf => "In"
  | onDate => "DateEquals"
  | dateRange => "DateRange"
  | year => "Year"
  | month => "Month"
  | day => "Day"
  | isNull => "IsNull"
  | isNotNull => "IsNotNull"
  | isTrue => "IsTrue"
  | isFalse => "IsFalse"
  | less => "Lt"
  | greater => "Gt"
  | atMost => "Lte"
  | atLeast => "Gte"

def TermError.diagnosis : TermError → String
  | noField => "MissingField"
  | noLookup => "MissingLookup"
  | noValue lookup => about "MissingValue" lookup.word
  | badDate text => about "InvalidDate" (Text.quoted text)
  | badDateRange text => about "InvalidDateRange" (Text.quoted text)
  | badNumber text => about "InvalidNumber" (Text.quoted text)
  | unknownField model field =>
    withParts "UnknownField" [("model", Text.quoted model), ("field", Text.quoted field)]

def StructureError.diagnosis : StructureError → String
  | unmatchedClosing position => withParts "UnmatchedClose" [("position", toString position)]
  | unclosedOpening depth => withParts "UnclosedOpen" [("depth", toString depth)]

def CompileError.diagnosis : CompileError → String
  | structural cause => about "Structural" cause.diagnosis
  | term position cause =>
    withParts "Lookup" [("position", toString position), ("source", cause.diagnosis)]
  | stack fault => about "Invariant" (Text.quoted fault.message)

def Failure.line : Failure → String
  | file fault => "Error: " ++ about "FileRead" fault.diagnosis ++ "\n"
  | badJson => "Error: Deserialize("
  | noRegistry => "Error: MissingRegistry\n"
  | badRecords kind => "Error: " ++ about "InvalidRecords" (Text.quoted kind) ++ "\n"
  | badFilter problems => "Error: " ++ about "InvalidFilter" (toString problems) ++ "\n"
  | compile cause => "Error: " ++ about "Compile" cause.diagnosis ++ "\n"
  | plan cause =>
    match cause with
    | .unknownModel name =>
      "Error: " ++ about "Planner" (about "UnknownModel" (Text.quoted name)) ++ "\n"
    | .duplicateModel name =>
      "Error: " ++ about "Planner" (about "DuplicateModel" (Text.quoted name)) ++ "\n"
    | .missingRelation model path =>
      "Error: " ++ about "Planner" (withParts "MissingRelation"
        [("model", Text.quoted model), ("path", Text.quoted path)]) ++ "\n"
    | .badRegistry => "Error: Planner(Registry("
    | .compile cause => "Error: " ++ about "Planner" (about "Compile" cause.diagnosis) ++ "\n"

end SavedFilter
