/-!
# Steps that may fail

How two steps end that are made one after the other: the second is made only
when the first one succeeds.  Steps that end alike, and go on alike, end alike.
-/

namespace LockAudit

theorem ok_bind (value : α) (next : α → Except ε β) :
    (Except.ok value >>= next) = next value :=
  rfl

@[simp] theorem mapError_ok (value : α) (change : ε → δ) :
    (Except.ok value).mapError change = .ok value :=
  rfl

@[simp] theorem mapError_error (error : ε) (change : ε → δ) :
    (Except.error error : Except ε α).mapError change =
      .error (change error) :=
  rfl

theorem bind_eq_ok_iff {first : Except ε α} {next : α → Except ε β}
    {result : β} :
    (first >>= next) = .ok result ↔
      ∃ value, first = .ok value ∧ next value = .ok result := by
  cases first with
  | error error => simp [bind, Except.bind]
  | ok value => simp [bind, Except.bind]

theorem bind_eq_error_iff {first : Except ε α} {next : α → Except ε β}
    {error : ε} :
    (first >>= next) = .error error ↔
      first = .error error ∨
        ∃ value, first = .ok value ∧ next value = .error error := by
  cases first with
  | error error => simp [bind, Except.bind]
  | ok value => simp [bind, Except.bind]

theorem mapError_eq_ok_iff {result : Except ε α} {change : ε → δ} {value : α} :
    result.mapError change = .ok value ↔ result = .ok value := by
  cases result with
  | error error => simp
  | ok value => simp

theorem map_eq_ok_iff {first : Except ε α} {change : α → β} {result : β} :
    first.map change = .ok result ↔
      ∃ value, first = .ok value ∧ change value = result := by
  cases first with
  | error error => simp [Except.map]
  | ok value => simp [Except.map]

@[simp] theorem pure_eq_ok_iff {value result : α} :
    (pure value : Except ε α) = .ok result ↔ value = result := by
  simp [pure, Except.pure]

@[simp] theorem pure_ne_error {value : α} {error : ε} :
    (pure value : Except ε α) ≠ .error error := by
  simp [pure, Except.pure]

/-- Both steps fail with the same error, or both succeed and their results are
related. -/
inductive EndsAlike (related : α → β → Prop) :
    Except ε α → Except ε β → Prop where
  | failed (error : ε) : EndsAlike related (.error error) (.error error)
  | succeeded {left : α} {right : β} : related left right →
      EndsAlike related (.ok left) (.ok right)

theorem EndsAlike.bind {related : α → β → Prop} {relatedNext : γ → δ → Prop}
    {left : Except ε α} {right : Except ε β}
    {leftNext : α → Except ε γ} {rightNext : β → Except ε δ}
    (alike : EndsAlike related left right)
    (next : ∀ leftResult rightResult, related leftResult rightResult →
      EndsAlike relatedNext (leftNext leftResult) (rightNext rightResult)) :
    EndsAlike relatedNext (left >>= leftNext) (right >>= rightNext) := by
  cases alike with
  | failed error => exact .failed error
  | succeeded results => exact next _ _ results

end LockAudit
