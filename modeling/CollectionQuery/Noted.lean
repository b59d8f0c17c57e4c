import CollectionQuery.Warning

/-! Computations that raise warnings. Their value does not depend on the warnings, which come in the order in which
    they are raised. -/

namespace CollectionQuery

structure Noted (α : Type) where
  value : α
  warnings : List Warning := []

namespace Noted

instance : Monad Noted where
  pure a := ⟨a, []⟩
  bind x f := ⟨(f x.value).value, x.warnings ++ (f x.value).warnings⟩

def warn (w : Warning) : Noted Unit := ⟨(), [w]⟩

@[simp] theorem value_pure {α : Type} (a : α) : (pure a : Noted α).value = a := rfl

@[simp] theorem value_bind {α β : Type} (x : Noted α) (f : α → Noted β) : (x >>= f).value = (f x.value).value := rfl

@[simp] theorem value_map {α β : Type} (f : α → β) (x : Noted α) : (f <$> x).value = f x.value := rfl

instance : LawfulMonad Noted :=
  LawfulMonad.mk' Noted (fun x => by cases x; simp [Functor.map]) (fun a f => by simp [bind, pure])
    (fun x f g => by simp [bind])

theorem map_eq {α β : Type} (f : α → β) (x : Noted α) : f <$> x = ⟨f x.value, x.warnings⟩ :=
  congrArg (Noted.mk (f x.value)) (List.append_nil x.warnings)

theorem eq_map {α β : Type} {x : Noted β} {f : α → β} {y : Noted α} (hvalue : x.value = f y.value)
    (hwarnings : x.warnings = y.warnings) : x = f <$> y := by
  rw [map_eq, ← hvalue, ← hwarnings]

/-- What a computation goes on with depends on its value only. -/
theorem bind_congr_value {α β : Type} {x : Noted α} {f f' : α → Noted β} (h : f x.value = f' x.value) :
    x >>= f = x >>= f' :=
  congrArg (fun y : Noted β => (⟨y.value, x.warnings ++ y.warnings⟩ : Noted β)) h

/-- The values of `f` at the items of a list, items without one left out. -/
def keep {α β : Type} (f : α → Noted (Option β)) : List α → Noted (List β)
  | [] => pure []
  | a :: as => do
    let b ← f a
    let bs ← keep f as
    pure (b.toList ++ bs)

theorem value_keep {α β : Type} (f : α → Noted (Option β)) (as : List α) :
    (keep f as).value = as.filterMap fun a => (f a).value := by
  induction as with
  | nil => rfl
  | cons a as ih =>
    simp only [keep, value_bind, value_pure, ih, List.filterMap_cons]
    cases (f a).value <;> simp

end Noted
end CollectionQuery
