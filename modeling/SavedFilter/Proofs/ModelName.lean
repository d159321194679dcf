import SavedFilter.Proofs.Registry
import SavedFilter.Proofs.Text.Capitals

/-! # Models under the names they are written with

A model is registered under its capitalized name, lowered, while the name that is asked for is
lowered as it stands. So a model answers to its own name, in any letter case, exactly when
capitalizing the name does not show once it is lowered, `resolve_writtenName_iff`. -/
set_option autoImplicit false
namespace SavedFilter

namespace Schema

/-- The application and the name of the model, as they were written. -/
def writtenName (s : Schema) : String := s.app ++ "." ++ s.name

/-- The first character of the name returns from its capital, and no capital sigma behind it ends
a word. -/
def NameReturns (s : Schema) : Prop :=
  ∀ c rest, s.name.toList = c :: rest →
    Text.Returns (s.app ++ ".").toList.reverse c rest ∧
      Text.NoFinalSigma (c :: (s.app ++ ".").toList.reverse) rest

theorem nameReturns_of_ascii {s : Schema} (ascii : s.name.toList.all (·.toNat < 0x80)) :
    s.NameReturns := by
  intro c rest split
  have small : ∀ d ∈ c :: rest, d.toNat < 0x80 := by simpa [split] using ascii
  obtain ⟨first, others⟩ := List.forall_mem_cons.mp small
  have noSigma : 'Σ' ∉ rest := fun member => absurd (others 'Σ' member) (by decide)
  exact ⟨Text.returns_of_ascii first .., Text.noFinalSigma_of_notMem noSigma _⟩

theorem key_eq_iff (s : Schema) : s.key = Text.lowerText s.writtenName ↔ s.NameReturns := by
  have qualified : s.qualifiedName.toList =
      (s.app ++ ".").toList ++ Text.capitalize s.name.toList := by
    rw [qualifiedName, Text.capitalizeText, String.toList_append, String.toList_ofList]
  have written : s.writtenName.toList = (s.app ++ ".").toList ++ s.name.toList :=
    String.toList_append
  rw [key, Text.lowerText, Text.lowerText, String.ofList_inj, qualified, written, NameReturns]
  cases s.name.toList with
  | nil => exact iff_of_true rfl nofun
  | cons c rest =>
    rw [Text.lower_capitalize_iff]
    constructor
    · rintro returns d others same
      obtain ⟨rfl, rfl⟩ := List.cons.inj same
      exact returns
    · exact fun returns => returns c rest rfl

end Schema

namespace Registry

variable {r : Registry} {s : Schema}

theorem resolve_eq_ok_iff (distinct : r.Distinct) (name : String) :
    r.resolve name = .ok s ↔ s ∈ r.models ∧ s.key = Text.lowerText name := by
  rw [← find?_eq_some_iff distinct, resolve]
  cases r.find? name <;> simp

/-- A registered model is found under its qualified name in any letter case. Under its name as it
was written, in any letter case, it is found exactly when the name returns from being capitalized.
-/
theorem resolve_writtenName_iff (submitted : List Schema) (s : Schema)
    (registered : s ∈ (afterAll submitted).models) :
    (∀ name, Text.lowerText name = Text.lowerText s.qualifiedName →
        (afterAll submitted).resolve name = .ok s) ∧
      ∀ name, Text.lowerText name = Text.lowerText s.writtenName →
        ((afterAll submitted).resolve name = .ok s ↔ s.NameReturns) := by
  have found (name : String) :
      (afterAll submitted).resolve name = .ok s ↔ s.key = Text.lowerText name := by
    rw [resolve_eq_ok_iff (distinct_afterAll submitted)]
    exact and_iff_right registered
  refine ⟨fun name same => (found name).mpr same.symm, fun name same => ?_⟩
  rw [found, same, s.key_eq_iff]

theorem resolve_writtenName_iff_shop :
    shopOrder ∈ (afterAll [shopOrder, shopCustomer]).models ∧
      (afterAll [shopOrder, shopCustomer]).resolve "SHOP.ORDER" = .ok shopOrder := by
  have apart : ([shopOrder, shopCustomer].map fun s => Text.lowerText s.qualifiedName).Nodup := by
    decide +kernel
  have registered : shopOrder ∈ (afterAll [shopOrder, shopCustomer]).models := by
    rw [afterAll_of_accepts (accepts_empty_iff.mpr apart)]
    exact List.mem_cons_self ..
  have returns : shopOrder.NameReturns := Schema.nameReturns_of_ascii (by decide)
  have found := (resolve_writtenName_iff _ _ registered).2 "SHOP.ORDER" (by decide +kernel)
  exact ⟨registered, found.mpr returns⟩

/-- Customers, in Greek capitals. The name ends in a capital sigma, which capitalizing does not
lower as a final one. -/
def greekCustomer : Schema := { app := "shop", name := "ΠΕΛΑΤΗΣ", table := "shop_customer" }

def smallGreekCustomer : Schema := { app := "shop", name := "πελατης", table := "client" }

/-- It is not found under its own name, and another model may even be found there. -/
theorem resolve_writtenName_greek :
    greekCustomer ∈ (afterAll [greekCustomer]).models ∧
      (afterAll [greekCustomer]).resolve greekCustomer.writtenName =
        .error (.unknownModel greekCustomer.writtenName) ∧
      greekCustomer ∈ (afterAll [greekCustomer, smallGreekCustomer]).models ∧
      (afterAll [greekCustomer, smallGreekCustomer]).resolve greekCustomer.writtenName =
        .ok smallGreekCustomer := by
  decide +kernel

end Registry
end SavedFilter
