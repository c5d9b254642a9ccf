import FormCheck.Proofs.Messages

namespace FormCheck

/-!
# All messages of a result

A report sees the messages of a result by key. Put in a row they are the messages
of the entries, each as often as it was recorded, in an order that may differ:
a key that failed early has its later messages in front too.
-/

/-- Putting a message behind those of its key adds that message to them all. -/
theorem flatMap_put_append
    [BEq key]
    (wanted : key)
    (message : Value)
    (messages : List (key × List Value)) :
    ((put wanted ((lookup wanted messages).getD [] ++ [message])
        messages).flatMap Prod.snd).Perm
      (messages.flatMap Prod.snd ++ [message]) := by
  induction messages with
  | nil =>
      exact .refl _
  | cons item rest inductionHypothesis =>
      obtain ⟨present, held⟩ := item
      unfold put lookup
      split
      · simp only [Option.getD_some, List.flatMap_cons, List.append_assoc]
        exact List.perm_append_comm.append_left _
      · simp only [List.flatMap_cons, List.append_assoc]
        exact inductionHypothesis.append_left _

/-- The message that an entry records, if it records one. -/
def Entry.message? : Entry → Option Value
  | .value _ _ => none
  | .error _ message => some message

namespace Result

/-- All messages of a result, in the order in which they were recorded. -/
def messages
    (result : Result) : List Value :=
  result.entries.filterMap Entry.message?

/-- The messages by key are the recorded messages in some order. -/
theorem flatMap_errors_perm
    (result : Result) :
    (result.errors.flatMap Prod.snd).Perm result.messages := by
  have collected
      (entries : List Entry)
      (errors : List (Value × List Value)) :
      ((entries.foldl collectError errors).flatMap Prod.snd).Perm
        (errors.flatMap Prod.snd ++ entries.filterMap Entry.message?) := by
    induction entries generalizing errors with
    | nil =>
        simp
    | cons entry rest inductionHypothesis =>
        rw [List.foldl_cons]
        refine (inductionHypothesis _).trans ?_
        cases entry with
        | value key stored =>
            exact .refl _
        | error key message =>
            have shows :
                (Entry.error key message).message? = some message :=
              rfl
            rw [List.filterMap_cons_some shows, List.append_cons]
            exact (flatMap_put_append key message errors).append_right _
  exact collected result.entries []

/-- A message is recorded if it is the message of an entry. -/
theorem mem_messages_iff
    {result : Result}
    {message : Value} :
    message ∈ result.messages ↔
      ∃ key, Entry.error key message ∈ result.entries := by
  unfold messages
  rw [List.mem_filterMap]
  constructor
  · rintro ⟨entry, member, isMessage⟩
    cases entry with
    | value key stored =>
        cases isMessage
    | error key recorded =>
        cases isMessage
        exact ⟨key, member⟩
  · rintro ⟨key, member⟩
    exact ⟨_, member, rfl⟩

/-- The messages under a key are those of the entries with that key. -/
theorem errorsAt_eq_messages
    (result : Result)
    (wanted : Value) :
    result.errorsAt wanted = (result.restrict (· == wanted)).messages := by
  unfold errorsAt messages restrict
  rw [List.filterMap_filter]
  congr 1
  funext entry
  cases entry with
  | value key stored =>
      exact (ite_self none).symm
  | error key message =>
      rfl

/-- A message is counted under some keys as often as entries there record it. -/
theorem count_messages_restrict
    (kept : Value → Bool)
    (result : Result)
    (message : Value) :
    (result.restrict kept).messages.count message =
      result.entries.countP fun entry =>
        (entry.message?.map (· == message)).getD false && kept entry.key := by
  unfold messages restrict List.count
  rw [List.countP_filterMap, List.countP_filter]

/-- Under keys that are apart, no recorded message is counted twice. -/
theorem count_messages_restrict_le
    {first second : Value → Bool}
    (apart : ∀ key, first key = true → second key = false)
    (result : Result)
    (message : Value) :
    (result.restrict first).messages.count message +
        (result.restrict second).messages.count message ≤
      result.messages.count message := by
  have all :
      result.messages =
        (result.restrict fun _ => true).messages := by
    unfold restrict
    rw [List.filter_eq_self.mpr fun _ _ => rfl]
  rw [all, count_messages_restrict, count_messages_restrict,
    count_messages_restrict]
  induction result.entries with
  | nil =>
      exact Nat.le_refl 0
  | cons entry rest inductionHypothesis =>
      have apartHere := apart entry.key
      simp only [List.countP_cons]
      cases (entry.message?.map (· == message)).getD false <;>
        cases inFirst : first entry.key <;>
        cases inSecond : second entry.key <;>
        simp_all <;>
        omega

end Result

namespace Report

variable
  {result : Result}
  {test : String → Bool}
  {message : Value}

/-- The messages under some keys are those that were recorded under such keys. -/
theorem messagesUnder_perm
    (test : String → Bool)
    (result : Result) :
    (messagesUnder test result).Perm
      (result.restrict (Value.passes test)).messages :=
  Result.flatMap_errors_perm _

/-- A message is found under keys that pass exactly if it was recorded there. -/
theorem mem_messagesUnder_iff :
    message ∈ messagesUnder test result ↔
      ∃ characters,
        test characters = true ∧
          Entry.error (.text characters) message ∈ result.entries := by
  rw [(messagesUnder_perm test result).mem_iff, Result.mem_messages_iff]
  constructor
  · rintro ⟨key, member⟩
    obtain ⟨recorded, passes⟩ := List.mem_filter.mp member
    cases key with
    | text characters =>
        exact ⟨characters, passes, recorded⟩
    | null | bool | int | float | bytes | date | dateTime
    | list | tuple | set | dict | cycle =>
        cases passes
  · rintro ⟨characters, passes, recorded⟩
    exact ⟨.text characters, List.mem_filter.mpr ⟨recorded, passes⟩⟩

end Report

end FormCheck
