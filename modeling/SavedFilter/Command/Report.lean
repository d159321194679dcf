import SavedFilter.Issue
import SavedFilter.Json.Printer
import SavedFilter.Plan
import SavedFilter.Stored.Operand

/-! # Reports

What the commands print, as lines or as JSON. The first column of a table is filled up with
spaces; a text that is longer than the column pushes the rest of its line. -/
set_option autoImplicit false
namespace SavedFilter.Report

def padded (width : Nat) (s : String) : String :=
  s ++ String.ofList (List.replicate (width - s.toList.length) ' ')

def row (width : Nat) (first second : String) : String :=
  padded width first ++ " " ++ second ++ "\n"

def jsonLines (value : Json) : String := value.pretty ++ "\n"

def planLines (plan : Plan) (d : Dialect) : String :=
  let statement := plan.query.statement d
  row 10 "Condition" plan.condition.display ++ row 10 "Dialect" d.name ++
    row 10 "SQL" statement.text ++
    String.join (statement.params.zipIdx.map fun (v, i) =>
      row 10 ("#" ++ toString (i + 1)) v.display)

def planJson (plan : Plan) (d : Dialect) : Json :=
  let statement := plan.query.statement d
  Json.sorted <| .object
    [("name", .string plan.name), ("model", .string plan.model),
      ("condition", .string plan.condition.display),
      ("query", .object
        [("dialect", .string d.name), ("sql", .string statement.text),
          ("params", .array (statement.params.map Value.toJson))])]

def groupingJson (grouping : String) (c : Condition) : Json :=
  Json.sorted <| .object [("grouping", .string grouping), ("condition", .string c.display)]

def issueLines (issues : List FilterIssue) (structural : Option String) : String :=
  if issues.isEmpty && structural.isNone then "OK\n"
  else
    String.join (issues.map fun i => i.display ++ "\n") ++
      match structural with
      | some message => message ++ "\n"
      | none => ""

def issuesJson (issues : List FilterIssue) (structural : Option String) : Json :=
  let rows := issues.map fun i =>
    Json.object
      [("term", .integer (i.position + 1)), ("slot", .string i.issue.slot.name),
        ("message", .string i.issue.message)]
  let structural :=
    match structural with
    | some message => Json.string message
    | none => .null
  .object [("issues", .array rows), ("structure", structural)]

def choiceLines (choices : List Choice) : String :=
  String.join (choices.map fun c =>
    if c.isDivider then c.label ++ "\n" else row 32 c.value c.label)

def versionLine : String := "dynfilter 0.1.0\n"

def modelLines (models : List (String × String)) : String :=
  String.join (models.map fun m => row 32 m.1 m.2)

def kindOf : Json → String
  | .null => "null"
  | .bool _ => "a boolean"
  | .integer _ | .float _ => "a number"
  | .string _ => "a string"
  | .array _ => "an array"
  | .object _ => "an object"

end SavedFilter.Report
