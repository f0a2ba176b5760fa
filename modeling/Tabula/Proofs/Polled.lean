import Tabula.Polled

/-!
# Laws of polled computations

Steps that follow one another are regrouped as one likes, and a function of the result
makes no difference to the questions that are asked.
-/

namespace Tabula.Polled

universe u

variable {α β γ : Type u}

theorem id_map (computation : Polled α) : id <$> computation = computation := by
  induction computation with
  | done result => rfl
  | poll next ih => exact congrArg Polled.poll (funext ih)

theorem bind_assoc (computation : Polled α) (first : α → Polled β) (second : β → Polled γ) :
    computation >>= first >>= second = computation >>= fun result => first result >>= second := by
  induction computation with
  | done result => rfl
  | poll next ih => exact congrArg Polled.poll (funext ih)

instance : LawfulMonad Polled :=
  .mk' Polled id_map (fun _ _ => rfl) bind_assoc

theorem runFrom_map (answers : Nat → Bool) (change : α → β) (computation : Polled α)
    (index : Nat) :
    (change <$> computation).runFrom answers index = change (computation.runFrom answers index) := by
  induction computation generalizing index with
  | done result => rfl
  | poll next ih => exact ih (answers index) (index + 1)

/-- A function of the result is applied at the end. -/
theorem run_map (answers : Nat → Bool) (change : α → β) (computation : Polled α) :
    (change <$> computation).run answers = change (computation.run answers) :=
  runFrom_map answers change computation 0

end Tabula.Polled
