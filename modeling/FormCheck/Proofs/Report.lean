import FormCheck.Proofs.Messages

namespace FormCheck.Report

/-!
# What reports hold

The clean values hold, under the field of each step, the last value recorded
there.
-/

/-- Clean values hold under each field the value recorded for it. -/
theorem lookup_standardValues
    (plan : Plan)
    (result : Result)
    (field : String) :
    lookup field (standardValues plan result) =
      if field ∈ plan.map Step.field then
        some (result.value (.text field))
      else
        none := by
  have collected
      (values : CleanValues) :
      lookup field
          (plan.foldl
            (fun values step =>
              put step.field (result.value step.key) values)
            values) =
        if field ∈ plan.map Step.field then
          some (result.value (.text field))
        else
          lookup field values := by
    induction plan generalizing values with
    | nil =>
        simp
    | cons step rest inductionHypothesis =>
        rw [List.foldl_cons, inductionHypothesis]
        by_cases later : field ∈ rest.map Step.field
        · simp [later]
        · by_cases same : field = step.field
          · subst same
            simp [later, Step.key, lookup_put_self (.of_lawful _)]
          · simp [later, same,
              lookup_put_of_ne (.of_lawful _) (.of_lawful _) same]
  exact collected []

end FormCheck.Report
