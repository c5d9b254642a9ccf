import FormCheck.PlanFile
import FormCheck.Proofs.Members
import FormCheck.Proofs.Journal
import Mathlib.Data.List.Forall2

namespace FormCheck

/-!
# Drafted plans

The plan of a form is drafted from the steps that a configuration declares. Each
step that is a mapping is put into the global message, so that an entry for a
message of its own replaces it. Without a global message the steps are only
converted to mappings.
-/

/-- Entries have distinct keys if no two of their keys are equal. -/
def HasDistinctKeys
    (entries : Entries) : Prop :=
  entries.Pairwise fun first second => (first.1 == second.1) = false

/-- What is put under another key changes nothing under a text. -/
theorem lookup_text_put
    {wanted : String}
    {key : Value}
    (differs : key ≠ .text wanted)
    (value : Value)
    (entries : Entries) :
    lookup (Value.text wanted) (put key value entries) =
      lookup (Value.text wanted) entries := by
  have exact := ExactKey.text wanted
  induction entries with
  | nil =>
      simp [put, lookup, exact key, differs]
  | cons entry rest inductionHypothesis =>
      obtain ⟨present, held⟩ := entry
      unfold put
      split
      case isTrue same =>
        have other : present ≠ .text wanted := by
          rintro rfl
          exact differs (Value.text_beq_iff.mp same)
        simp [lookup, exact present, other]
      case isFalse =>
        simp only [lookup, inductionHypothesis]

/-- A key that is put joins the others unless it equals one of them. -/
theorem keys_put
    (key value : Value)
    (entries : Entries) :
    (put key value entries).map Prod.fst =
      entries.map Prod.fst ++
        if (entries.map Prod.fst).any (· == key) then [] else [key] := by
  induction entries with
  | nil =>
      rfl
  | cons entry rest inductionHypothesis =>
      obtain ⟨present, held⟩ := entry
      unfold put
      split
      case isTrue same =>
        simp [same]
      case isFalse differs =>
        rw [Bool.not_eq_true] at differs
        simp only [List.map_cons, inductionHypothesis, List.any_cons, differs,
          Bool.false_or, List.cons_append]

namespace PlanFile

/-- Entries put one by one into others. -/
def merged
    (base entries : Entries) : Entries :=
  entries.foldl (fun merged entry => put entry.1 entry.2 merged) base

/-- What is found after merging is found in the new entries, or else below. -/
theorem lookup_merged
    {wanted : String}
    {entries : Entries}
    (distinct : HasDistinctKeys entries)
    (base : Entries) :
    lookup (Value.text wanted) (merged base entries) =
      (lookup (Value.text wanted) entries).or
        (lookup (Value.text wanted) base) := by
  have exact := ExactKey.text wanted
  unfold merged
  induction entries generalizing base with
  | nil =>
      rfl
  | cons entry rest inductionHypothesis =>
      obtain ⟨key, value⟩ := entry
      obtain ⟨apart, distinct⟩ := List.pairwise_cons.mp distinct
      rw [List.foldl_cons, inductionHypothesis distinct]
      by_cases same : key = .text wanted
      · subst same
        have absent : lookup (Value.text wanted) rest = none := by
          rw [lookup_eq_none_iff exact]
          intro member
          obtain ⟨⟨_, other⟩, isEntry, rfl⟩ := List.mem_map.mp member
          have differs := apart _ isEntry
          simp at differs
        simp [absent, lookup, lookup_put_self exact]
      · simp [lookup, exact key, same, lookup_text_put same]

/-- Merging adds the keys that equal none below. -/
theorem keys_merged
    {entries : Entries}
    (distinct : HasDistinctKeys entries)
    (base : Entries) :
    (merged base entries).map Prod.fst =
      base.map Prod.fst ++
        (entries.map Prod.fst).filter fun key =>
          !(base.map Prod.fst).any (· == key) := by
  unfold merged
  induction entries generalizing base with
  | nil =>
      simp
  | cons entry rest inductionHypothesis =>
      obtain ⟨key, value⟩ := entry
      obtain ⟨apart, distinct⟩ := List.pairwise_cons.mp distinct
      rw [List.foldl_cons, inductionHypothesis distinct, keys_put]
      by_cases taken : (base.map Prod.fst).any (· == key) = true
      · simp only [taken, if_true, List.append_nil, List.map_cons,
          List.filter_cons, Bool.not_true, Bool.false_eq_true, if_false]
      · rw [Bool.not_eq_true] at taken
        have later :
            ((rest.map Prod.fst).filter fun other =>
                !(base.map Prod.fst ++ [key]).any (· == other)) =
              (rest.map Prod.fst).filter fun other =>
                !(base.map Prod.fst).any (· == other) := by
          refine List.filter_congr fun other member => ?_
          obtain ⟨entry, isEntry, rfl⟩ := List.mem_map.mp member
          simp [apart entry isEntry]
        simp only [taken, Bool.false_eq_true, if_false, later, List.map_cons,
          List.filter_cons, Bool.not_false, if_true, List.append_assoc,
          List.singleton_append]

/-- A session answers about the configuration that it has. -/
theorem Session.ended_query_of_configuration
    {session : Session}
    {content : Content}
    {configuration : Value}
    (snapshot :
      (session.configuration content).2.ended = .ok configuration)
    (question : Value → Except Fault answer) :
    (session.query content question).2.ended = question configuration := by
  change
    ((session.configuration content).2 >>= fun value =>
          Journal.ofExcept (question value)).ended =
      question configuration
  rw [Journal.bind_of_ok snapshot]
  rfl

/-! ## Drafts -/

/-- A configuration has a global message, null if there is none. -/
def HasGlobalMessage
    (configuration message : Value) : Prop :=
  ∃ settings,
    globalSettings configuration = .ok settings ∧
      settings.get (.text "required_msg") = .ok message

/-- A configuration declares raw steps for a form. -/
def DeclaresSteps
    (configuration form : Value)
    (items : List Value) : Prop :=
  ∃ forms formSettings declared,
    partAt configuration (.text "forms") = .ok forms ∧
      partAt forms form = .ok formSettings ∧
        formSettings.get (.text "plan") = .ok declared ∧
          (declared.orElse (.list [])).members = .ok items

/--
A declared step is read as entries. Without a global message it may be a
collection of pairs; otherwise it must be a mapping.
-/
inductive IsReadAs
    (message item : Value)
    (entries : Entries) :
    Prop where
  | converted
      (noMessage : message = .null)
      (isConverted : item.entries = .ok entries) :
      IsReadAs message item entries
  | mapping
      (hasMessage : message ≠ .null)
      (isMapping : item = .dict entries) :
      IsReadAs message item entries

/-- A mapping is read as its entries, whatever the global message is. -/
theorem IsReadAs.dict
    (message : Value)
    (entries : Entries) :
    IsReadAs message (.dict entries) entries := by
  by_cases noMessage : message = .null
  · exact .converted noMessage rfl
  · exact .mapping noMessage rfl

/-- What a declared step becomes in the plan of its form. -/
inductive Drafts
    (message item : Value) :
    Value → Prop where
  | converted
      (entries : Entries)
      (noMessage : message = .null)
      (isConverted : item.entries = .ok entries) :
      Drafts message item (.dict entries)
  | inheriting
      (hasMessage : message ≠ .null) :
      Drafts message item (inheriting message item)

/-- Without a global message, the steps of a form are what they are converted to. -/
theorem mapM_entries_eq_ok_iff
    {items raw : List Value} :
    items.mapM (fun step => Value.dict <$> step.entries) =
        (.ok raw : Except Fault (List Value)) ↔
      List.Forall₂ (Drafts .null) items raw := by
  induction items generalizing raw with
  | nil =>
      simp [pure, Except.pure, eq_comm]
  | cons item rest inductionHypothesis =>
      simp only [List.mapM_cons, Except.bind_eq_ok_iff, inductionHypothesis,
        List.forall₂_cons_left_iff]
      constructor
      · rintro ⟨first, isFirst, others, areOthers, complete⟩
        cases complete
        cases converted : item.entries with
        | error fault =>
            rw [converted] at isFirst
            cases isFirst
        | ok entries =>
            rw [converted] at isFirst
            cases isFirst
            exact ⟨_, others, .converted entries rfl converted, areOthers,
              rfl⟩
      · rintro ⟨first, others, isFirst, areOthers, rfl⟩
        cases isFirst with
        | converted entries _ converted =>
            exact ⟨.dict entries, by rw [converted]; rfl, others, areOthers,
              rfl⟩
        | inheriting hasMessage =>
            exact absurd rfl hasMessage

section Declared

variable
  {configuration form message : Value}
  {items raw : List Value}

/-- Without a global message, declared steps are drafted by converting them. -/
theorem formPlan_of_noMessage
    (noMessage : HasGlobalMessage configuration .null)
    (declares : DeclaresSteps configuration form items) :
    formPlan form configuration =
      items.mapM fun step => Value.dict <$> step.entries := by
  obtain ⟨settings, hasSettings, isMessage⟩ := noMessage
  obtain ⟨forms, formSettings, declared, hasForms, hasForm, hasPlan,
    hasItems⟩ := declares
  unfold formPlan
  simp only [hasForms, hasForm, hasPlan, hasSettings, isMessage, hasItems,
    bind, Except.bind]

/-- With a global message, declared steps are drafted by inheriting it. -/
theorem formPlan_of_message
    (hasMessage : HasGlobalMessage configuration message)
    (notNull : message ≠ .null)
    (declares : DeclaresSteps configuration form items) :
    formPlan form configuration = .ok (items.map (inheriting message)) := by
  obtain ⟨settings, hasSettings, isMessage⟩ := hasMessage
  obtain ⟨forms, formSettings, declared, hasForms, hasForm, hasPlan,
    hasItems⟩ := declares
  unfold formPlan
  simp only [hasForms, hasForm, hasPlan, hasSettings, isMessage, hasItems,
    bind, Except.bind, pure, Except.pure]

/-- The plan of a form consists of what its declared steps become. -/
theorem formPlan_eq_ok_iff
    (hasMessage : HasGlobalMessage configuration message)
    (declares : DeclaresSteps configuration form items) :
    formPlan form configuration = .ok raw ↔
      List.Forall₂ (Drafts message) items raw := by
  by_cases noMessage : message = .null
  · subst noMessage
    rw [formPlan_of_noMessage hasMessage declares]
    exact mapM_entries_eq_ok_iff
  · have drafts : Drafts message = fun item raw =>
        inheriting message item = raw := by
      funext item raw
      refine propext ⟨fun isDraft => ?_, ?_⟩
      · cases isDraft with
        | converted _ isNull =>
            exact absurd isNull noMessage
        | inheriting =>
            rfl
      · rintro rfl
        exact .inheriting noMessage
    rw [formPlan_of_message hasMessage noMessage declares, Except.ok.injEq,
      drafts, ← List.forall₂_map_left_iff (R := (· = ·)),
      List.forall₂_eq_eq_eq]

end Declared

end PlanFile

end FormCheck
