import SavedFilter.Field

/-! # Model schemas

A model that can be filtered: the fields that its users may choose, and the relations that paths
may go through. A field entry offers alternative paths under one label; a lone hyphen divides the
entries. -/
set_option autoImplicit false
namespace SavedFilter

inductive FieldEntry where
  | path (path : String)
  | labeled (path label : String)
deriving DecidableEq

structure Relation where
  name : String
  table : String
  localKey : String
  remoteKey : String := "id"
deriving DecidableEq

structure Choice where
  value : String
  label : String
deriving DecidableEq

structure Schema where
  app : String
  name : String
  table : String
  fields : List FieldEntry := []
  relations : List Relation := []
  /-- A stand-in for another model on the same table; filters are not offered for it. -/
  isProxy : Bool := false
deriving DecidableEq

def dividerPath : String := "-"

namespace FieldEntry

def text : FieldEntry → String
  | path p => p
  | labeled p _ => p

def isDivider (e : FieldEntry) : Bool := e.text == dividerPath

def choice : FieldEntry → Choice
  | path p => if p = dividerPath then ⟨p, "---------"⟩ else ⟨p, Field.humanize p⟩
  | labeled p label => ⟨p, label⟩

end FieldEntry

def Choice.isDivider (c : Choice) : Bool := c.value == dividerPath

namespace Schema

/-- The name of the model within its application, and the application in front. -/
def qualifiedName (s : Schema) : String := s.app ++ "." ++ Text.capitalizeText s.name

def choices (s : Schema) : List Choice := s.fields.map FieldEntry.choice

def realEntries (s : Schema) : List FieldEntry := s.fields.filter (!·.isDivider)

def addPaths (paths more : List String) : List String :=
  more.foldl (fun paths p => if p ∈ paths then paths else paths ++ [p]) paths

def fieldPaths (s : Schema) : List String :=
  s.realEntries.foldl (fun paths e => addPaths paths (Field.alternatives e.text)) []

def allows (s : Schema) (field : String) : Bool :=
  s.realEntries.any fun e =>
    (e.text.toList.splitOn '|').any fun p => Text.trim p == field.toList

def relation? (s : Schema) (path : String) : Option Relation :=
  (Field.qualifier? path).bind fun q => s.relations.find? (·.name == q)

def relationsUsed (s : Schema) (paths : List String) : List Relation :=
  let qualifiers := paths.filterMap Field.qualifier?
  s.relations.filter fun r => qualifiers.contains r.name

end Schema
end SavedFilter
