import FormCheck.Proofs.Form.RequiredMessage
import FormCheck.Proofs.Form.Substitution

namespace FormCheck

/-!
# Steps that are no mappings

A configuration may declare a step that is no mapping. With a global message
such a step reaches the normalising of its plan, which rejects it. Without one
it is converted first: what cannot be converted stops the plan with the fault
of the conversion, and pairs are taken for the mapping that they make.
-/

/-- Each member of either list has a related member in the other. -/
theorem related_members
    {related : first → second → Prop}
    {members : List first}
    {others : List second}
    (relate : List.Forall₂ related members others) :
    (∀ member ∈ members, ∃ other ∈ others, related member other) ∧
      ∀ other ∈ others, ∃ member ∈ members, related member other := by
  induction relate with
  | nil =>
      simp
  | cons relates _ inductionHypothesis =>
      obtain ⟨forward, backward⟩ := inductionHypothesis
      simp only [List.forall_mem_cons]
      refine ⟨⟨⟨_, .head _, relates⟩, fun member isMember => ?_⟩,
        ⟨_, .head _, relates⟩, fun other isMember => ?_⟩
      · obtain ⟨other, isOther, relatesToo⟩ := forward member isMember
        exact ⟨other, .tail _ isOther, relatesToo⟩
      · obtain ⟨member, isOther, relatesToo⟩ := backward other isMember
        exact ⟨member, .tail _ isOther, relatesToo⟩

namespace Value

/-- A value is foreign to a plan if it is no mapping, not even one inside itself. -/
def IsForeign
    (value : Value) : Prop :=
  value.kindName ≠ "dict"

/-- What is no pair of a key and a value rejects no plan. -/
theorem neverRejects_pair
    (value : Value) :
    NeverRejects value.pair := by
  unfold pair
  split
  · exact .error id
  · split
    · exact .ok _
    · exact .error id
  · exact .error id

/-- What cannot be converted to a mapping stops with something that rejects no plan. -/
theorem not_isRejection_of_entries
    {value : Value}
    {fault : Fault}
    (stopped : value.entries = .error fault) :
    ¬fault.IsRejection := by
  have never : NeverRejects value.entries := by
    unfold entries
    split
    · exact .ok _
    · exact .ok _
    · split
      · exact .error id
      · exact .foldlM (fun entries item =>
          .bind item.neverRejects_pair fun _ => .ok _) _ []
  exact never fault stopped

end Value

namespace PlanFile

/-- The first of some items that cannot be converted to a mapping has a fault. -/
def FirstUnconverted
    (items : List Value)
    (fault : Fault) : Prop :=
  ∃ before item after,
    items = before ++ item :: after ∧
      (∀ other ∈ before, ∃ entries, other.entries = .ok entries) ∧
        item.entries = .error fault

/-- Declared steps that are not all converted stop with the first that is not. -/
theorem mapM_entries_eq_error_iff
    {items : List Value}
    {fault : Fault} :
    items.mapM (fun step => Value.dict <$> step.entries) =
        (.error fault : Except Fault (List Value)) ↔
      FirstUnconverted items fault := by
  induction items with
  | nil =>
      simp [FirstUnconverted, pure, Except.pure]
  | cons item rest inductionHypothesis =>
      simp only [List.mapM_cons, Except.bind_eq_error_iff, inductionHypothesis]
      cases converted : item.entries with
      | error first =>
          constructor
          · rintro (⟨⟨⟩⟩ | ⟨_, ⟨⟩, _⟩)
            exact ⟨[], item, rest, rfl, nofun, converted⟩
          · rintro ⟨before, next, after, split, earlier, stopped⟩
            cases before with
            | nil =>
                cases split
                cases converted.symm.trans stopped
                exact .inl rfl
            | cons other before =>
                cases split
                obtain ⟨entries, isConverted⟩ := earlier item (.head _)
                cases converted.symm.trans isConverted
      | ok entries =>
          constructor
          · rintro (⟨⟨⟩⟩ | ⟨_, _, later | ⟨_, _, ⟨⟩⟩⟩)
            obtain ⟨before, next, after, rfl, earlier, stopped⟩ := later
            exact ⟨item :: before, next, after, rfl,
              List.forall_mem_cons.mpr ⟨⟨entries, converted⟩, earlier⟩,
              stopped⟩
          · rintro ⟨before, next, after, split, earlier, stopped⟩
            cases before with
            | nil =>
                cases split
                cases converted.symm.trans stopped
            | cons other before =>
                cases split
                exact .inr ⟨.dict entries, rfl, .inl
                  ⟨before, next, after, rfl,
                    (List.forall_mem_cons.mp earlier).2, stopped⟩⟩

end PlanFile

namespace Form.Configured

open Plan

/--
A validator is made for a form that a configuration with some global message
declares steps for.
-/
def IsMadeFor
    (registry : Registry)
    (form global : Value)
    (items : List Value)
    (validator : Validator) : Prop :=
  ∃ session content configuration,
    Configured.validator registry session content form = .ok validator ∧
      (session.configuration content).2.ended = .ok configuration ∧
        PlanFile.HasGlobalMessage configuration global ∧
          PlanFile.DeclaresSteps configuration form items

section Foreign

variable
  {settings : Settings}
  {registry : Registry}
  {form global : Value}
  {items : List Value}
  {fault : Fault}

/-- A step that is no mapping inherits nothing. -/
theorem inheriting_of_isForeign
    {item : Value}
    (foreign : item.IsForeign)
    (message : Value) :
    PlanFile.inheriting message item = item := by
  cases item with
  | dict entries =>
      exact absurd rfl foreign
  | null | bool | int | float | text | bytes | date | dateTime
    | list | tuple | set | cycle =>
      rfl

/-- A step that is no mapping is resolved to itself. -/
theorem ResolvesStep.eq_of_isForeign
    {context item resolved : Value}
    (resolves : ResolvesStep context item resolved)
    (foreign : item.IsForeign) :
    resolved = item := by
  cases resolves with
  | listed =>
      exact absurd rfl foreign
  | unlisted =>
      rfl

/-- Resolving a raw step leaves its unknown keys as they are. -/
theorem ResolvesStep.upsetByKeys
    {context raw resolved : Value}
    (resolves : ResolvesStep context raw resolved)
    (upset : UpsetByKeys resolved fault) :
    UpsetByKeys raw fault := by
  cases resolves with
  | listed entries items results lists _ =>
      obtain ⟨_, same, upset⟩ := upset
      cases same
      rw [(changedAt_put lists (.list results)).unknown] at upset
      exact ⟨entries, rfl, upset⟩
  | unlisted =>
      exact upset

/-- Inheriting a message leaves the unknown keys of a step as they are. -/
theorem upsetByKeys_of_inheriting
    {message item : Value}
    (distinct :
      ∀ entries, item = .dict entries → HasDistinctKeys entries)
    (upset : UpsetByKeys (PlanFile.inheriting message item) fault) :
    UpsetByKeys item fault := by
  obtain ⟨others, inherits, upset⟩ := upset
  cases item with
  | dict entries =>
      cases inherits
      have unchanged :=
        (changedAt_merged (distinct entries rfl) message).unknown
      unfold PlanFile.merged at unchanged
      rw [unchanged] at upset
      exact ⟨entries, rfl, upset⟩
  | null | bool | int | float | text | bytes | date | dateTime
    | list | tuple | set | cycle =>
      cases inherits

/--
Steps that inherited a message and were resolved are refused if one of them is no
mapping.
-/
theorem normalize_refuses_foreign
    {context message : Value}
    {resolved : List Value}
    (countable : Number.isWritable items.length = true)
    (distinct : ∀ entries, .dict entries ∈ items → HasDistinctKeys entries)
    (foreign : ∃ item ∈ items, item.IsForeign)
    (resolves :
      List.Forall₂ (ResolvesStep context)
        (items.map (PlanFile.inheriting message)) resolved) :
    ∃ fault,
      (normalize settings registry (.list resolved)).ended = .error fault ∧
        (fault.IsRejection ∨ ∃ item ∈ items, UpsetByKeys item fault) := by
  rw [List.forall₂_map_left_iff] at resolves
  have members := related_members resolves
  have counted : IsCountable (.list resolved) := by
    intro others isSequence
    rw [isSequence.unique (.inl rfl), ← resolves.length_eq]
    exact countable
  cases ended : (normalize settings registry (.list resolved)).ended with
  | ok plan =>
      obtain ⟨others, isSequence, _, accepted⟩ :=
        (normalize_answers_iff counted).mp ended
      cases isSequence.unique (.inl rfl)
      obtain ⟨item, isItem, isForeign⟩ := foreign
      obtain ⟨raw, isRaw, resolvesItem⟩ := members.1 item isItem
      rw [inheriting_of_isForeign isForeign] at resolvesItem
      cases resolvesItem.eq_of_isForeign isForeign
      obtain ⟨_, _, _, isMapping, _⟩ := (related_members accepted).1 _ isRaw
      cases isMapping
      exact absurd rfl isForeign
  | error fault =>
      refine ⟨fault, rfl, ?_⟩
      rcases normalize_stops_cases counted ended with
        blamed | ⟨before, raw, after, isSequence, _, _, upset⟩
      · exact .inl blamed.isRejection
      · have isRaw : raw ∈ resolved := by
          rw [← isSequence.unique (.inl rfl)]
          simp
        obtain ⟨item, isItem, resolvesItem⟩ := members.2 raw isRaw
        refine .inr ⟨item, isItem, ?_⟩
        refine upsetByKeys_of_inheriting ?_ (resolvesItem.upsetByKeys upset)
        rintro entries rfl
        exact distinct entries isItem

/-- What needs a key that its context does not hold is a rejection. -/
theorem NeedsKey.isRejection
    {formText : String}
    {index : Nat}
    {key : Value}
    (needs : NeedsKey formText index key fault) :
    fault.IsRejection := by
  cases needs
  trivial

/-- What a form asks of its configuration stops the building of its plan. -/
theorem buildPlan_of_query_error
    {session : PlanFile.Session}
    {content : PlanFile.Content}
    {validator : Validator}
    (made :
      Configured.validator registry session content form = .ok validator)
    (stopped :
      (session.query content (PlanFile.formPlan form)).2.ended =
        .error fault)
    (environment : Environment)
    (data context : Value) :
    (validator.buildPlan environment data context).ended = .error fault := by
  obtain ⟨formText, _, complete⟩ := Except.bind_eq_ok_iff.mp made
  cases complete
  refine Journal.ended_bind_eq_error_iff.mpr (.inl ?_)
  exact Journal.ended_bind_eq_error_iff.mpr (.inl stopped)

/-- The plan that is built depends on the drafts of the steps alone. -/
theorem buildPlan_of_query_ok
    {session otherSession : PlanFile.Session}
    {content otherContent : PlanFile.Content}
    {validator other : Validator}
    {drafts : List Value}
    (made :
      Configured.validator registry session content form = .ok validator)
    (madeToo :
      Configured.validator registry otherSession otherContent form =
        .ok other)
    (drafted :
      (session.query content (PlanFile.formPlan form)).2.ended = .ok drafts)
    (draftedToo :
      (otherSession.query otherContent (PlanFile.formPlan form)).2.ended =
        .ok drafts)
    (environment : Environment)
    (data context : Value) :
    (validator.buildPlan environment data context).ended =
      (other.buildPlan environment data context).ended := by
  obtain ⟨formText, isShown, complete⟩ := Except.bind_eq_ok_iff.mp made
  obtain ⟨_, isShownToo, completeToo⟩ := Except.bind_eq_ok_iff.mp madeToo
  cases isShown.symm.trans isShownToo
  cases complete
  cases completeToo
  unfold Validator.buildPlan
  simp only [Journal.ended_bind, ended_rawPlan drafted,
    ended_rawPlan draftedToo]

/--
A declared step that is no mapping keeps its form from being built where there is
a global message: the plan is rejected, unless the unknown keys of a step upset
their warning. Without a global message the first step that cannot be converted
to a mapping stops the plan with another fault than a rejection; and if all can
be, the plan is built as if the mappings had been declared.
-/
theorem buildPlan_of_isForeign
    {validator : Validator}
    {context : Value}
    {supplied : Entries}
    (made : IsMadeFor registry form global items validator)
    (countable : Number.isWritable items.length = true)
    (distinct : ∀ entries, .dict entries ∈ items → HasDistinctKeys entries)
    (isSupplied : context.orElse (.dict []) = .dict supplied)
    (foreign : ∃ item ∈ items, item.IsForeign)
    (environment : Environment)
    (data : Value) :
    (global ≠ .null →
        ∃ fault,
          (validator.buildPlan environment data context).ended =
              .error fault ∧
            (fault.IsRejection ∨ ∃ item ∈ items, UpsetByKeys item fault)) ∧
      (global = .null →
        (∀ fault,
            PlanFile.FirstUnconverted items fault →
              (validator.buildPlan environment data context).ended =
                  .error fault ∧
                ¬fault.IsRejection) ∧
          ∀ mappings twin,
            List.Forall₂ (fun item entries => item.entries = .ok entries)
                items mappings →
              IsMadeFor registry form .null (mappings.map .dict) twin →
                (validator.buildPlan environment data context).ended =
                  (twin.buildPlan environment data context).ended) := by
  obtain ⟨session, content, configuration, made, snapshot, hasMessage,
    declares⟩ := made
  have asked :=
    PlanFile.Session.ended_query_of_configuration snapshot
      (PlanFile.formPlan form)
  refine ⟨fun notNull => ?_, fun noMessage => ⟨fun fault first => ?_, ?_⟩⟩
  · rw [PlanFile.formPlan_of_message hasMessage notNull declares] at asked
    obtain ⟨formText, _, complete⟩ := Except.bind_eq_ok_iff.mp made
    cases complete
    have drafted :
        (rawPlan session content form formText (.dict supplied)).ended =
          _ :=
      ended_rawPlan asked (.dict supplied)
    cases resolved :
        (resolveSteps formText (.dict supplied)
          (items.map (PlanFile.inheriting global)) 0).ended with
    | error fault =>
        obtain ⟨_, _, _, _, _, _, _, needs⟩ :=
          resolveSteps_stops_iff.mp resolved
        refine ⟨fault, Journal.ended_bind_eq_error_iff.mpr (.inl ?_),
          .inl needs.isRejection⟩
        dsimp only
        rw [isSupplied, drafted, resolved]
        rfl
    | ok results =>
        have refuses :
            ∃ fault,
              (normalize environment.settings registry
                    (.list results)).ended =
                  .error fault ∧
                (fault.IsRejection ∨
                  ∃ item ∈ items, UpsetByKeys item fault) :=
          normalize_refuses_foreign countable distinct foreign
            (resolveSteps_answers_iff.mp resolved)
        obtain ⟨fault, refused, blamed⟩ := refuses
        refine ⟨fault, Journal.ended_bind_eq_error_iff.mpr
          (.inr ⟨.list results, ?_, ?_⟩), blamed⟩
        · dsimp only
          rw [isSupplied, drafted, resolved]
          rfl
        · exact Journal.ended_bind_eq_error_iff.mpr (.inl refused)
  · subst noMessage
    rw [PlanFile.formPlan_of_noMessage hasMessage declares,
      PlanFile.mapM_entries_eq_error_iff.mpr first] at asked
    obtain ⟨_, item, _, _, _, stopped⟩ := first
    exact ⟨buildPlan_of_query_error made asked environment data context,
      Value.not_isRejection_of_entries stopped⟩
  · rintro mappings twin converted
      ⟨otherSession, otherContent, otherConfiguration, madeToo, snapshotToo,
        hasMessageToo, declaresToo⟩
    subst noMessage
    have askedToo :=
      PlanFile.Session.ended_query_of_configuration snapshotToo
        (PlanFile.formPlan form)
    have drafts :
        List.Forall₂ (PlanFile.Drafts .null) items (mappings.map .dict) := by
      rw [List.forall₂_map_right_iff]
      exact converted.imp fun _ entries => .converted entries rfl
    have draftsToo :
        List.Forall₂ (PlanFile.Drafts .null) (mappings.map .dict)
          (mappings.map .dict) := by
      refine List.forall₂_same.mpr fun raw member => ?_
      obtain ⟨entries, _, rfl⟩ := List.mem_map.mp member
      exact .converted entries rfl rfl
    rw [(PlanFile.formPlan_eq_ok_iff hasMessage declares).mpr drafts] at asked
    rw [(PlanFile.formPlan_eq_ok_iff hasMessageToo declaresToo).mpr
      draftsToo] at askedToo
    exact buildPlan_of_query_ok made madeToo asked askedToo environment data
      context

end Foreign

/-- A configuration without a global message that declares a number as its step. -/
def numberConfiguration : Value :=
  .record [("forms", .record [("f", .record [("plan", .list [.int 7])])])]

/-- A session that has taken a snapshot of this configuration. -/
def numberSession : PlanFile.Session :=
  ⟨"plans.yaml", some numberConfiguration⟩

/-- The validator of the form of this configuration. -/
def numberValidator : Validator where
  name := "ConfiguredFormValidator[f]"
  registry := Registry.standard
  rawPlan _ _ context :=
    rawPlan numberSession none (.text "f") "f" context
  style := Report.standard

/-- This validator is made for the number. -/
theorem isMadeFor_number :
    IsMadeFor Registry.standard (.text "f") .null [.int 7] numberValidator :=
  ⟨numberSession, none, numberConfiguration, rfl, rfl, ⟨_, rfl, rfl⟩,
    _, _, _, rfl, rfl, rfl, rfl⟩

/-- A number is foreign to its plan. -/
theorem exists_isForeign_number :
    ∃ item ∈ [Value.int 7], item.IsForeign :=
  ⟨_, .head _, by simp [Value.IsForeign, Value.kindName]⟩

/-- The plan of this form ends with the fault of the conversion. -/
theorem buildPlan_of_isForeign_number :
    (numberValidator.buildPlan (.on ⟨2024, 1, 1⟩) (.dict []) .null).ended =
        .error .notEntries ∧
      ¬Fault.notEntries.IsRejection := by
  have countable : Number.isWritable [Value.int 7].length = true :=
    Number.isWritable_of_lt (by decide)
  have first : PlanFile.FirstUnconverted [.int 7] .notEntries :=
    ⟨[], _, [], rfl, nofun, rfl⟩
  exact
    ((buildPlan_of_isForeign isMadeFor_number countable (by simp) rfl
      exists_isForeign_number _ _).2 rfl).1 .notEntries first

/-- So a step that is no mapping does not always reject its plan. -/
theorem not_forall_foreign_rejected :
    ¬∀ (registry : Registry) (form global : Value) (items : List Value)
        (validator : Validator) (environment : Environment)
        (data context : Value),
        IsMadeFor registry form global items validator →
          (∃ item ∈ items, item.IsForeign) →
            ∃ fault,
              (validator.buildPlan environment data context).ended =
                  .error fault ∧
                fault.IsRejection := by
  intro rejected
  obtain ⟨fault, stopped, isRejection⟩ :=
    rejected Registry.standard (.text "f") .null [.int 7] numberValidator
      (.on ⟨2024, 1, 1⟩) (.dict []) .null isMadeFor_number
      exists_isForeign_number
  have made :
      Configured.validator Registry.standard numberSession none (.text "f") =
        .ok numberValidator :=
    rfl
  rw [buildPlan_of_query_error made rfl] at stopped
  cases stopped
  exact isRejection

end Form.Configured

end FormCheck
