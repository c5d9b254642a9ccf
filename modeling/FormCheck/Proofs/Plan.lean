import Mathlib.Data.List.Forall2
import FormCheck.Plan
import FormCheck.Proofs.Journal

namespace FormCheck

/-!
# What normalising ensures

The step that a raw step stands for does not depend on where the raw step is in
its plan; its place is named only when the plan is refused. The capability of a
step is the one registered under its method.
-/

/-- Values are related to some list exactly if each is related to something. -/
theorem exists_forall₂_iff
    {related : first → second → Prop}
    {members : List first} :
    (∃ others, List.Forall₂ related members others) ↔
      ∀ member ∈ members, ∃ other, related member other := by
  induction members with
  | nil =>
      simp
  | cons member rest inductionHypothesis =>
      rw [List.forall_mem_cons, ← inductionHypothesis]
      simp only [List.forall₂_cons_left_iff]
      constructor
      · rintro ⟨_, other, others, relates, relate, rfl⟩
        exact ⟨⟨other, relates⟩, others, relate⟩
      · rintro ⟨⟨other, relates⟩, others, relate⟩
        exact ⟨other :: others, other, others, relates, relate, rfl⟩

/-- Relations between lists compose member by member. -/
theorem forall₂_comp_iff
    {leading : first → second → Prop}
    {trailing : second → third → Prop}
    {firsts : List first}
    {thirds : List third} :
    (∃ seconds,
        List.Forall₂ leading firsts seconds ∧
          List.Forall₂ trailing seconds thirds) ↔
      List.Forall₂
        (fun member other =>
          ∃ between, leading member between ∧ trailing between other)
        firsts thirds := by
  constructor
  · rintro ⟨seconds, leads, trails⟩
    induction leads generalizing thirds with
    | nil =>
        cases trails
        exact .nil
    | cons leadsFirst _ inductionHypothesis =>
        cases trails with
        | cons trailsFirst trailsRest =>
            exact .cons ⟨_, leadsFirst, trailsFirst⟩
              (inductionHypothesis trailsRest)
  · intro compose
    induction compose with
    | nil =>
        exact ⟨[], .nil, .nil⟩
    | cons between _ inductionHypothesis =>
        obtain ⟨second, leads, trails⟩ := between
        obtain ⟨seconds, leadRest, trailRest⟩ := inductionHypothesis
        exact ⟨second :: seconds, .cons leads leadRest,
          .cons trails trailRest⟩

/-- A computation covers another if it gives every answer that the other gives. -/
def Journal.Covers
    (covering covered : Journal entry answer) : Prop :=
  ∀ value, covered.ended = .ok value → covering.ended = .ok value

namespace Journal.Covers

/-- A computation covers itself. -/
theorem refl
    (journal : Journal entry answer) :
    journal.Covers journal :=
  fun _ answered => answered

/-- Computations in two parts cover each other part by part. -/
theorem bind
    {covering covered : Journal entry middle}
    {continuation continued : middle → Journal entry answer}
    (leading : covering.Covers covered)
    (trailing : ∀ value, (continuation value).Covers (continued value)) :
    (covering >>= continuation).Covers (covered >>= continued) := by
  intro value answered
  obtain ⟨reached, first, second⟩ := ended_bind_eq_ok_iff.mp answered
  exact ended_bind_eq_ok_iff.mpr
    ⟨reached, leading reached first, trailing reached value second⟩

/-- A refusal is covered by everything. -/
theorem refuse
    (covering : Logged answer)
    (message : String)
    (step : Option Int) :
    covering.Covers (Plan.refuse message step) :=
  fun _ answered => nomatch answered

/-- A refusal that names the place of a step is covered by everything. -/
theorem refuseStep
    (covering : Logged answer)
    (message ending : String)
    (index : Int) :
    covering.Covers (Plan.refuseStep message index ending) := by
  intro value answered
  obtain ⟨text, _, refused⟩ := ended_bind_eq_ok_iff.mp answered
  cases refused

end Journal.Covers

namespace Plan

open Journal (Covers)

section Places

variable
  {settings : Settings}
  {registry : Registry}
  {entries : Entries}
  {field : String}
  {index : Int}

/-- The first place of a plan has a text. -/
theorem integerText_zero :
    Number.integerText 0 = .ok (String.ofList (Number.integerDigits 0)) := by
  have writable : Number.isWritable 0 = true :=
    decide_eq_true (Nat.pow_pos (by decide))
  unfold Number.integerText
  rw [if_pos writable]

theorem covers_warnOfUnknownKeys :
    (warnOfUnknownKeys entries 0).Covers
      (warnOfUnknownKeys entries index) := by
  unfold warnOfUnknownKeys
  dsimp only
  split
  · exact .refl _
  · refine .bind (.refl _) fun keys => ?_
    refine .bind (.refl _) fun listing => ?_
    -- The texts of the two places differ, so no rule applies to them.
    intro value answered
    obtain ⟨text, _, written⟩ := Journal.ended_bind_eq_ok_iff.mp answered
    rw [integerText_zero]
    exact Journal.ended_bind_eq_ok_iff.mpr ⟨_, rfl, written⟩

theorem covers_fieldAndMethod :
    (fieldAndMethod entries 0).Covers (fieldAndMethod entries index) := by
  unfold fieldAndMethod
  split
  · exact .refuseStep _ _ _ _
  · exact .refuseStep _ _ _ _
  · split
    · exact .refuseStep _ _ _ _
    · split
      · exact .refuseStep _ _ _ _
      · exact .refl _

theorem covers_inputsOf :
    (inputsOf entries field 0).Covers (inputsOf entries field index) := by
  unfold inputsOf
  split
  · exact .refl _
  · split
    · exact .refuseStep _ _ _ _
    · split
      · exact .refl _
      · exact .refuseStep _ _ _ _

theorem covers_argumentsOf :
    (argumentsOf entries field 0).Covers
      (argumentsOf entries field index) := by
  unfold argumentsOf
  split
  · exact .refl _
  · split
    · exact .refuse _ _ _
    · exact .refl _

theorem covers_requiredOf :
    (requiredOf entries field 0).Covers (requiredOf entries field index) := by
  unfold requiredOf
  split
  · exact .refl _
  · exact .refl _
  · exact .refuse _ _ _

theorem covers_messageOf :
    (messageOf settings entries field 0).Covers
      (messageOf settings entries field index) := by
  unfold messageOf
  dsimp only
  split
  · exact .refl _
  · exact .refuse _ _ _

theorem covers_capabilityOf
    (method : String) :
    (capabilityOf registry method 0).Covers
      (capabilityOf registry method index) := by
  unfold capabilityOf
  split
  · exact .refl _
  · intro value answered
    obtain ⟨text, _, written⟩ := Journal.ended_bind_eq_ok_iff.mp answered
    obtain ⟨⟨⟩, _, stopped⟩ := Journal.ended_bind_eq_ok_iff.mp written
    cases stopped

/-- What a raw step stands for, it stands for in the first place of a plan. -/
theorem covers_normalizeStep
    (raw : Value) :
    (normalizeStep settings registry raw 0).Covers
      (normalizeStep settings registry raw index) := by
  unfold normalizeStep
  split
  · refine .bind covers_warnOfUnknownKeys fun _ => ?_
    refine .bind covers_fieldAndMethod fun names => ?_
    refine .bind covers_inputsOf fun inputs => ?_
    refine .bind covers_argumentsOf fun arguments => ?_
    refine .bind covers_requiredOf fun isRequired => ?_
    refine .bind covers_messageOf fun message => ?_
    exact .bind (covers_capabilityOf _) fun capability => .refl _
  · exact .refuseStep _ _ _ _

end Places

variable
  {settings : Settings}
  {registry : Registry}

/-- The capability of a step is the one registered under its method. -/
theorem find?_of_normalizeStep
    {raw : Value}
    {index : Int}
    {step : Step}
    (accepted :
      (normalizeStep settings registry raw index).ended = .ok step) :
    registry.find? step.method = some step.capability := by
  unfold normalizeStep at accepted
  split at accepted
  case h_2 =>
    obtain ⟨text, _, refused⟩ := Journal.ended_bind_eq_ok_iff.mp accepted
    cases refused
  case h_1 entries =>
    obtain ⟨_, _, named⟩ := Journal.ended_bind_eq_ok_iff.mp accepted
    obtain ⟨names, _, withInputs⟩ := Journal.ended_bind_eq_ok_iff.mp named
    obtain ⟨inputs, _, withArguments⟩ :=
      Journal.ended_bind_eq_ok_iff.mp withInputs
    obtain ⟨arguments, _, withRequired⟩ :=
      Journal.ended_bind_eq_ok_iff.mp withArguments
    obtain ⟨isRequired, _, withMessage⟩ :=
      Journal.ended_bind_eq_ok_iff.mp withRequired
    obtain ⟨message, _, withCapability⟩ :=
      Journal.ended_bind_eq_ok_iff.mp withMessage
    obtain ⟨capability, found, complete⟩ :=
      Journal.ended_bind_eq_ok_iff.mp withCapability
    cases complete
    unfold capabilityOf at found
    split at found
    case h_1 registered =>
      cases found
      exact registered
    case h_2 =>
      obtain ⟨text, _, written⟩ := Journal.ended_bind_eq_ok_iff.mp found
      obtain ⟨⟨⟩, _, stopped⟩ := Journal.ended_bind_eq_ok_iff.mp written
      cases stopped

/-- The steps of a plan are what its raw steps stand for, one by one. -/
theorem map_normalizeStep
    {items : List Value}
    {index : Nat}
    {plan : Plan}
    (accepted :
      (normalizeFrom settings registry items index).ended = .ok plan) :
    items.map (fun item =>
        (normalizeStep settings registry item 0).ended) =
      plan.map .ok := by
  induction items generalizing index plan with
  | nil =>
      cases accepted
      rfl
  | cons item rest inductionHypothesis =>
      obtain ⟨step, first, continued⟩ :=
        Journal.ended_bind_eq_ok_iff.mp accepted
      obtain ⟨steps, others, complete⟩ :=
        Journal.ended_bind_eq_ok_iff.mp continued
      cases complete
      rw [List.map_cons, List.map_cons, inductionHypothesis others,
        covers_normalizeStep item step first]

/-- An accepted plan is a sequence of raw steps that are all accepted. -/
theorem normalizeFrom_of_normalize
    {raw : Value}
    {plan : Plan}
    (accepted : (normalize settings registry raw).ended = .ok plan) :
    ∃ items,
      sequence? raw = some items ∧
        (normalizeFrom settings registry items 0).ended = .ok plan := by
  unfold normalize at accepted
  split at accepted
  case h_1 =>
    cases accepted
  case h_2 items isSequence =>
    refine ⟨items, isSequence, ?_⟩
    dsimp only at accepted
    split at accepted
    · obtain ⟨⟨⟩, _, refused⟩ := Journal.ended_bind_eq_ok_iff.mp accepted
      obtain ⟨⟨⟩, stopped, _⟩ := Journal.ended_bind_eq_ok_iff.mp refused
      cases stopped
    · exact accepted

/-- The steps of an accepted plan are what its raw steps stand for. -/
theorem map_normalizeStep_of_normalize
    {raw : Value}
    {items : List Value}
    {plan : Plan}
    (listed : sequence? raw = some items)
    (accepted : (normalize settings registry raw).ended = .ok plan) :
    items.map (fun item =>
        (normalizeStep settings registry item 0).ended) =
      plan.map .ok := by
  obtain ⟨found, isSequence, each⟩ := normalizeFrom_of_normalize accepted
  rw [listed] at isSequence
  cases isSequence
  exact map_normalizeStep each

/-- Every step of an accepted plan has a registered capability. -/
theorem find?_of_normalize
    {raw : Value}
    {plan : Plan}
    (accepted : (normalize settings registry raw).ended = .ok plan) :
    ∀ step ∈ plan, registry.find? step.method = some step.capability := by
  intro step member
  obtain ⟨items, _, each⟩ := normalizeFrom_of_normalize accepted
  have isOk :
      Except.ok step ∈
        items.map fun item =>
          (normalizeStep settings registry item 0).ended := by
    rw [map_normalizeStep each]
    exact List.mem_map_of_mem member
  obtain ⟨item, _, ended⟩ := List.mem_map.mp isOk
  exact find?_of_normalizeStep ended

end Plan

end FormCheck
