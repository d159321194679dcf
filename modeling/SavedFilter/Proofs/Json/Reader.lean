import SavedFilter.Json.Reader

/-! # Every source tree is read from its lexemes

The lexemes of a source tree lead the reader from where a value is awaited to behind the value,
whatever is open around it, `leads_lexemes`. So every tree is read from its own lexemes,
`ofLexemes?_lexemes`. -/
set_option autoImplicit false
namespace SavedFilter.Source

open Reader

/-! ## The lexemes of a tree -/

mutual

def lexemes : Source → List Lexeme
  | null => [.null]
  | bool b => [.bool b]
  | number l => [.number l]
  | string pieces => [.string pieces]
  | array [] => [.openArray, .closeArray]
  | array (value :: rest) => .openArray :: (lexemes value ++ itemLexemes rest ++ [.closeArray])
  | object [] => [.openObject, .closeObject]
  | object ((name, value) :: rest) =>
    .openObject :: .string name :: .colon :: (lexemes value ++ memberLexemes rest ++ [.closeObject])

def itemLexemes : List Source → List Lexeme
  | [] => []
  | value :: rest => .comma :: (lexemes value ++ itemLexemes rest)

def memberLexemes : List (List Piece × Source) → List Lexeme
  | [] => []
  | (name, value) :: rest =>
    .comma :: .string name :: .colon :: (lexemes value ++ memberLexemes rest)

end

/-! ## The run of the reader -/

def Leads (r : Reader) (ls : List Lexeme) (r' : Reader) : Prop := ls.foldlM step? r = some r'

section Leads

variable {r r' r'' : Reader} {ls ls' : List Lexeme} {lexeme : Lexeme}

theorem Leads.cons (step : step? r lexeme = some r') (rest : Leads r' ls r'') :
    Leads r (lexeme :: ls) r'' := by
  rw [Leads, List.foldlM_cons, step]
  exact rest

theorem Leads.append (first : Leads r ls r') (rest : Leads r' ls' r'') :
    Leads r (ls ++ ls') r'' := by
  rw [Leads, List.foldlM_append, first]
  exact rest

/-- No value begins with the end of an array. -/
theorem Leads.firstItem {items : List Source} {opened : List OpenPart} (someLexeme : ls ≠ [])
    (run : Leads ⟨.array items :: opened, .value⟩ ls r) :
    Leads ⟨.array items :: opened, .firstItem⟩ ls r := by
  cases ls with
  | nil => exact absurd rfl someLexeme
  | cons l ls =>
    rw [Leads, List.foldlM_cons] at run
    obtain ⟨begun, first, later⟩ := Option.bind_eq_some_iff.mp run
    refine .cons ?_ later
    cases l with
    | closeArray => cases first
    | _ => exact first

end Leads

theorem lexemes_ne_nil (source : Source) : source.lexemes ≠ [] := by
  rw [lexemes.eq_def]
  split <;> exact List.cons_ne_nil _ _

mutual

/-- The lexemes of a tree lead behind the tree, whatever is open around it. -/
theorem leads_lexemes : ∀ (source : Source) (opened : List OpenPart),
    Leads ⟨opened, .value⟩ source.lexemes ⟨opened, .after source⟩
  | null, _ | bool _, _ | number _, _ | string _, _ | array [], _ | object [], _ => rfl
  | array (value :: rest), opened => by
    have first := (leads_lexemes value (.array [] :: opened)).firstItem value.lexemes_ne_nil
    rw [lexemes, List.append_assoc]
    exact .cons rfl (first.append (leads_itemLexemes rest opened [] value))
  | object ((name, value) :: rest), opened => by
    have first := leads_lexemes value (.object [] name :: opened)
    rw [lexemes, List.append_assoc]
    exact .cons rfl (.cons rfl (.cons rfl
      (first.append (leads_memberLexemes rest opened [] name value))))

theorem leads_itemLexemes : ∀ (rest : List Source) (opened : List OpenPart)
    (items : List Source) (value : Source),
    Leads ⟨.array items :: opened, .after value⟩ (itemLexemes rest ++ [.closeArray])
      ⟨opened, .after (.array ((value :: items).reverse ++ rest))⟩
  | [], _, _, _ => by
    rw [List.append_nil]
    rfl
  | next :: rest, opened, items, value => by
    have first := leads_lexemes next (.array (value :: items) :: opened)
    have later := leads_itemLexemes rest opened (value :: items) next
    rw [List.reverse_cons, List.append_assoc] at later
    rw [itemLexemes, List.cons_append, List.append_assoc]
    exact .cons rfl (first.append later)

theorem leads_memberLexemes : ∀ (rest : List (List Piece × Source)) (opened : List OpenPart)
    (members : List (List Piece × Source)) (name : List Piece) (value : Source),
    Leads ⟨.object members name :: opened, .after value⟩ (memberLexemes rest ++ [.closeObject])
      ⟨opened, .after (.object (((name, value) :: members).reverse ++ rest))⟩
  | [], _, _, _, _ => by
    rw [List.append_nil]
    rfl
  | (nextName, next) :: rest, opened, members, name, value => by
    have first := leads_lexemes next (.object ((name, value) :: members) nextName :: opened)
    have later := leads_memberLexemes rest opened ((name, value) :: members) nextName next
    rw [List.reverse_cons, List.append_assoc] at later
    rw [memberLexemes, List.cons_append, List.cons_append, List.cons_append, List.append_assoc]
    exact .cons rfl (.cons rfl (.cons rfl (first.append later)))

end

theorem ofLexemes?_lexemes (source : Source) : ofLexemes? source.lexemes = some source := by
  rw [ofLexemes?, leads_lexemes source []]

end SavedFilter.Source
