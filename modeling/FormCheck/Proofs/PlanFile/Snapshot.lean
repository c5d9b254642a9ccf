import FormCheck.Markup
import FormCheck.PlanFile
import FormCheck.Proofs.Journal
import Mathlib.Data.List.Induction

namespace FormCheck.PlanFile

/-!
# What the answers of a loader are taken from

While a loader is loaded, reloaded and asked, others write its file and delete
it. Whatever the order of all that is, each answer is taken from one content of
the file: from the one that the loader took its snapshot of, or from the present
one if the loader has no snapshot. It is the answer that a loader without a past
gives to that content. Loading in vain keeps the snapshot, reloading in vain
drops it.
-/

/-- What a loader is asked. -/
inductive Question where
  | formNames
  | globalSettings
  | formPlan (form : Value)

namespace Question

/-- What a configuration answers to a question. -/
def answer : Question → Value → Except Fault Value
  | formNames, configuration =>
      PlanFile.formNames configuration
  | globalSettings, configuration =>
      PlanFile.globalSettings configuration
  | formPlan form, configuration =>
      Value.list <$> PlanFile.formPlan form configuration

/-- What a loader that has read nothing yet answers from a content of its file. -/
def freshAnswer
    (question : Question)
    (path : String)
    (content : Content) : Except Fault Value :=
  ((Session.start path).query content question.answer).2.ended

end Question

namespace Content

/-- Whether a snapshot can be taken of a content. A missing file has one, too. -/
def isReadable : Content → Bool
  | some (.error _) => false
  | _ => true

/-- The content that a loader takes a snapshot of when it reads the file. -/
def taken?
    (content : Content) : Option Content :=
  if content.isReadable then some content else none

/-- The configuration that a content gives, or the fault of reading it. -/
def configuration : Content → Except Fault Value
  | none => .ok emptyConfiguration
  | some (.ok value) => .ok (value.orElse (.dict []))
  | some (.error fault) => .error fault

/-- A content is readable exactly if it gives a configuration. -/
theorem isReadable_iff
    {content : Content} :
    content.isReadable = true ↔
      ∃ value, content.configuration = .ok value := by
  cases content with
  | none =>
      exact iff_of_true rfl ⟨_, rfl⟩
  | some ended =>
      cases ended with
      | ok value =>
          exact iff_of_true rfl ⟨_, rfl⟩
      | error fault =>
          simp [isReadable, configuration]

/-- The content that a snapshot is taken of is the one that is read. -/
theorem taken?_of_isReadable
    {content : Content}
    (readable : content.isReadable = true) :
    content.taken? = some content :=
  if_pos readable

/-- No snapshot is taken of a content that cannot be read. -/
theorem taken?_of_not_isReadable
    {content : Content}
    (unreadable : content.isReadable = false) :
    content.taken? = none := by
  simp [taken?, unreadable]

/-- No snapshot is taken of a content whose reading stops with a fault. -/
theorem taken?_of_error
    {content : Content}
    {fault : Fault}
    (refused : content.configuration = .error fault) :
    content.taken? = none := by
  apply taken?_of_not_isReadable
  rw [← Bool.not_eq_true, isReadable_iff, refused]
  rintro ⟨value, same⟩
  cases same

end Content

namespace Session

/-- Reading ends with the configuration of the content, whoever reads it. -/
theorem ended_read
    (session : Session)
    (content : Content) :
    (session.read content).ended = content.configuration := by
  cases content with
  | none =>
      rfl
  | some ended =>
      cases ended with
      | ok value =>
          rfl
      | error fault =>
          cases fault <;> rfl

/-- A loader that has loaded a readable content has its configuration. -/
theorem snapshot_load_of_ok
    {content : Content}
    {value : Value}
    (configured : content.configuration = .ok value)
    (session : Session) :
    (session.load content).1.snapshot = some value := by
  unfold load keeping
  dsimp only
  rw [ended_read, configured]

/-- A loader that has loaded in vain is as it was before. -/
theorem load_of_error
    {content : Content}
    {fault : Fault}
    (refused : content.configuration = .error fault)
    (session : Session) :
    (session.load content).1 = session := by
  unfold load keeping
  dsimp only
  rw [ended_read, refused]

/-- A loader with a snapshot answers from it and keeps it. -/
theorem query_of_some
    {session : Session}
    {value : Value}
    (held : session.snapshot = some value)
    (content : Content)
    (question : Value → Except Fault answer) :
    session.query content question =
      (session, Journal.ofExcept (question value)) := by
  unfold query configuration
  rw [held]
  rfl

/-- A loader without a snapshot loads the file before it answers. -/
theorem query_of_none
    {session : Session}
    (empty : session.snapshot = none)
    (content : Content)
    (question : Value → Except Fault answer) :
    (session.query content question).1 = (session.load content).1 ∧
      (session.query content question).2.ended =
        content.configuration >>= question := by
  unfold query configuration
  rw [empty]
  refine ⟨rfl, ?_⟩
  have read := session.ended_read content
  cases configured : content.configuration with
  | ok value =>
      rw [configured] at read
      exact congrArg Journal.ended (Journal.bind_of_ok read _)
  | error fault =>
      rw [configured] at read
      exact congrArg Journal.ended (Journal.bind_of_error read _)

/--
A loader reflects a content that is held if its snapshot is the configuration of
that content, and it reflects that none is held if it has no snapshot.
-/
def Reflects
    (session : Session) : Option Content → Prop
  | none => session.snapshot = none
  | some content =>
      ∃ value,
        content.configuration = .ok value ∧ session.snapshot = some value

/-- After loading, a loader reflects what it took, or else what it had. -/
theorem Reflects.load
    {session : Session}
    {held : Option Content}
    (reflects : session.Reflects held)
    (content : Content) :
    (session.load content).1.Reflects (content.taken?.or held) := by
  cases configured : content.configuration with
  | ok value =>
      have readable := Content.isReadable_iff.mpr ⟨value, configured⟩
      rw [Content.taken?_of_isReadable readable]
      exact ⟨value, configured, snapshot_load_of_ok configured session⟩
  | error fault =>
      rw [Content.taken?_of_error configured, load_of_error configured]
      exact reflects

/-- After a query, a loader reflects what it had, or else what it took. -/
theorem Reflects.query
    {session : Session}
    {held : Option Content}
    (reflects : session.Reflects held)
    (content : Content)
    (question : Value → Except Fault answer) :
    (session.query content question).1.Reflects
      (held.or content.taken?) := by
  cases held with
  | none =>
      rw [(query_of_none reflects content question).1]
      have loaded := reflects.load content
      rwa [Option.or_none] at loaded
  | some old =>
      obtain ⟨value, configured, isHeld⟩ := reflects
      rw [query_of_some isHeld]
      exact ⟨value, configured, isHeld⟩

end Session

/-- The answer of a loader without a past is that of the configuration. -/
theorem Question.freshAnswer_eq
    (question : Question)
    (path : String)
    (content : Content) :
    question.freshAnswer path content =
      content.configuration >>= question.answer :=
  (Session.query_of_none rfl content question.answer).2

/-- A loader answers as one without a past, from what it reflects or else reads. -/
theorem Session.Reflects.ended_query
    {session : Session}
    {held : Option Content}
    (reflects : session.Reflects held)
    (content : Content)
    (question : Question)
    (path : String) :
    (session.query content question.answer).2.ended =
      question.freshAnswer path (held.getD content) := by
  rw [Question.freshAnswer_eq]
  cases held with
  | none =>
      exact (query_of_none reflects content question.answer).2
  | some old =>
      obtain ⟨value, configured, isHeld⟩ := reflects
      rw [query_of_some isHeld, Option.getD_some, configured]
      rfl

/-- What is done with a loader, or by others with its file. -/
inductive Action (text : Type) where
  | load
  | reload
  | ask (question : Question)
  | write (written : text)
  | delete

/-- A turn: the loader and the file as the action finds them, and the action. -/
structure Turn (text : Type) where
  found : Session
  file : Option text
  action : Action text

section Turns

variable
  {text : Type}
  (meaning : text → Except Fault Value)

namespace Turn

/-- What the loader would read in a turn. -/
def content
    (turn : Turn text) : Content :=
  turn.file.map meaning

/-- What the loader does in a turn, unless the turn is one of others. -/
def effect?
    (turn : Turn text) : Option (Session × Logged Value) :=
  match turn.action with
  | .load => some (turn.found.load (turn.content meaning))
  | .reload => some (turn.found.reload (turn.content meaning))
  | .ask question =>
      some (turn.found.query (turn.content meaning) question.answer)
  | .write _ | .delete => none

/-- The loader after a turn. -/
def after
    (turn : Turn text) : Session :=
  match turn.effect? meaning with
  | some effect => effect.1
  | none => turn.found

/-- What the loader answers in a turn, or the fault that it stops with. -/
def answer?
    (turn : Turn text) : Option (Except Fault Value) :=
  (turn.effect? meaning).map fun effect => effect.2.ended

/-- The file after a turn. -/
def fileAfter
    (turn : Turn text) : Option text :=
  match turn.action with
  | .write written => some written
  | .delete => none
  | _ => turn.file

/-- The content that a loader's snapshot is of after a turn, from that before. -/
def keep
    (held : Option Content)
    (turn : Turn text) : Option Content :=
  match turn.action with
  | .load => (turn.content meaning).taken?.or held
  | .reload => (turn.content meaning).taken?
  | .ask _ => held.or (turn.content meaning).taken?
  | .write _ | .delete => held

/-- A turn loads if it is there for that, or asks where nothing is held. -/
def Loads
    (held : Option Content)
    (turn : Turn text) : Prop :=
  turn.action = .load ∨ turn.action = .reload ∨
    held = none ∧ ∃ question, turn.action = .ask question

/-- A turn ends a snapshot if it takes another, or if it reloads in vain. -/
def Ends
    (turn : Turn text) : Prop :=
  turn.action = .reload ∨
    turn.action = .load ∧ (turn.content meaning).isReadable = true

end Turn

/-! ## The turns of a history -/

/-- The turns of some actions. -/
def turns : Session → Option text → List (Action text) → List (Turn text)
  | _, _, [] => []
  | session, file, action :: rest =>
      let turn : Turn text := ⟨session, file, action⟩
      turn :: turns (turn.after meaning) turn.fileAfter rest

/-- The content that the snapshot of a loader is of after some turns, if any. -/
def snapshotContent
    (earlier : List (Turn text)) : Option Content :=
  earlier.foldl (Turn.keep meaning) none

/--
A content is the one taken last in some turns if one of them loaded it, behind
which nothing was loaded and nothing was reloaded in vain.
-/
def IsTakenLast
    (earlier : List (Turn text))
    (content : Content) : Prop :=
  ∃ before source behind,
    earlier = before ++ source :: behind ∧
      source.content meaning = content ∧
      content.isReadable = true ∧
      source.Loads (snapshotContent meaning before) ∧
      ∀ turn ∈ behind, ¬turn.Ends meaning

variable
  {meaning : text → Except Fault Value}

/-- After a turn, the loader reflects the content that is held then. -/
theorem Turn.reflects_after
    {turn : Turn text}
    {held : Option Content}
    (reflects : turn.found.Reflects held) :
    (turn.after meaning).Reflects (turn.keep meaning held) := by
  obtain ⟨found, file, action⟩ := turn
  cases action with
  | load =>
      exact reflects.load _
  | reload =>
      have forgotten : ({ found with snapshot := none } : Session).Reflects
          none :=
        rfl
      have loaded := forgotten.load (file.map meaning)
      rwa [Option.or_none] at loaded
  | ask question =>
      exact reflects.query _ _
  | write written =>
      exact reflects
  | delete =>
      exact reflects

/-- In each turn, the loader reflects the content that is held by then. -/
theorem reflects_of_turns
    {session : Session}
    {file : Option text}
    {actions : List (Action text)}
    {earlier later : List (Turn text)}
    {turn : Turn text}
    {held : Option Content}
    (reflects : session.Reflects held)
    (split : turns meaning session file actions = earlier ++ turn :: later) :
    turn.found.Reflects (earlier.foldl (Turn.keep meaning) held) := by
  induction actions generalizing session file earlier held with
  | nil =>
      simp [turns] at split
  | cons action rest inductionHypothesis =>
      unfold turns at split
      cases earlier with
      | nil =>
          rw [List.nil_append, List.cons.injEq] at split
          obtain ⟨rfl, _⟩ := split
          exact reflects
      | cons first others =>
          rw [List.cons_append, List.cons.injEq] at split
          obtain ⟨rfl, continued⟩ := split
          rw [List.foldl_cons]
          exact inductionHypothesis (Turn.reflects_after reflects) continued

/-- A turn that loads a readable content makes it the one that is held. -/
theorem Turn.keep_of_loads
    {turn : Turn text}
    {held : Option Content}
    (loads : turn.Loads held)
    (readable : (turn.content meaning).isReadable = true) :
    turn.keep meaning held = some (turn.content meaning) := by
  have taken := Content.taken?_of_isReadable readable
  unfold keep
  rcases loads with isLoad | isReload | ⟨rfl, question, isQuestion⟩
  · rw [isLoad]
    simp [taken]
  · rw [isReload]
    exact taken
  · rw [isQuestion]
    simp [taken]

/-- A turn that does not end a snapshot keeps the content that is held. -/
theorem Turn.keep_of_not_ends
    {turn : Turn text}
    (stays : ¬turn.Ends meaning)
    (content : Content) :
    turn.keep meaning (some content) = some content := by
  unfold Ends at stays
  unfold keep
  cases action : turn.action with
  | load =>
      have unreadable : (turn.content meaning).isReadable = false := by
        simpa [action] using stays
      simp [Content.taken?_of_not_isReadable unreadable]
  | reload =>
      exact (stays (.inl action)).elim
  | ask question =>
      rfl
  | write written =>
      rfl
  | delete =>
      rfl

/-- A content that is held after a turn was loaded in it or was held before it. -/
theorem Turn.keep_eq_some
    {turn : Turn text}
    {held : Option Content}
    {content : Content}
    (holds : turn.keep meaning held = some content) :
    (turn.Loads held ∧ turn.content meaning = content ∧
        content.isReadable = true) ∨
      held = some content ∧ ¬turn.Ends meaning := by
  unfold keep at holds
  unfold Loads Ends
  have takes
      (taken : (turn.content meaning).taken? = some content) :
      turn.content meaning = content ∧ content.isReadable = true := by
    unfold Content.taken? at taken
    split at taken
    case isTrue readable =>
      cases taken
      exact ⟨rfl, readable⟩
    case isFalse =>
      cases taken
  cases action : turn.action with
  | load =>
      simp only [action, Option.or_eq_some_iff] at holds
      rcases holds with taken | ⟨vain, isHeld⟩
      · exact .inl ⟨.inl rfl, takes taken⟩
      · refine .inr ⟨isHeld, fun ends => ?_⟩
        rcases ends with isReload | ⟨_, readable⟩
        · cases isReload
        · rw [Content.taken?_of_isReadable readable] at vain
          cases vain
  | reload =>
      simp only [action] at holds
      exact .inl ⟨.inr (.inl rfl), takes holds⟩
  | ask question =>
      simp only [action, Option.or_eq_some_iff] at holds
      rcases holds with isHeld | ⟨empty, taken⟩
      · exact .inr ⟨isHeld, by simp⟩
      · exact .inl ⟨.inr (.inr ⟨empty, question, rfl⟩), takes taken⟩
  | write written =>
      simp only [action] at holds
      exact .inr ⟨holds, by simp⟩
  | delete =>
      simp only [action] at holds
      exact .inr ⟨holds, by simp⟩

/-- What is held after one more turn comes from what was held before it. -/
theorem snapshotContent_concat
    (earlier : List (Turn text))
    (turn : Turn text) :
    snapshotContent meaning (earlier ++ [turn]) =
      turn.keep meaning (snapshotContent meaning earlier) := by
  unfold snapshotContent
  rw [List.foldl_append]
  rfl

/-- The content that is held after some turns is the one taken last in them. -/
theorem snapshotContent_eq_some_iff
    {earlier : List (Turn text)}
    {content : Content} :
    snapshotContent meaning earlier = some content ↔
      IsTakenLast meaning earlier content := by
  -- By induction from the end: the last turn may undo what the others did.
  constructor
  · intro holds
    induction earlier using List.reverseRecOn with
    | nil =>
        cases holds
    | append_singleton others turn inductionHypothesis =>
        rw [snapshotContent_concat] at holds
        rcases Turn.keep_eq_some holds with
          ⟨loads, same, readable⟩ | ⟨isHeld, stays⟩
        · exact ⟨others, turn, [], rfl, same, readable, loads,
            List.forall_mem_nil _⟩
        · obtain ⟨before, source, behind, rfl, same, readable, loads, stay⟩ :=
            inductionHypothesis isHeld
          refine ⟨before, source, behind ++ [turn], by simp, same, readable,
            loads, ?_⟩
          rw [List.forall_mem_append, List.forall_mem_singleton]
          exact ⟨stay, stays⟩
  · rintro ⟨before, source, behind, rfl, rfl, readable, loads, stay⟩
    induction behind using List.reverseRecOn with
    | nil =>
        rw [snapshotContent_concat]
        exact Turn.keep_of_loads loads readable
    | append_singleton others turn inductionHypothesis =>
        rw [List.forall_mem_append, List.forall_mem_singleton] at stay
        have held := inductionHypothesis stay.1
        rw [← List.cons_append, ← List.append_assoc, snapshotContent_concat,
          held]
        exact Turn.keep_of_not_ends stay.2 _

/-- Loading and reloading stop with the fault of reading the file, if any. -/
theorem Turn.configuration_of_stopped
    {turn : Turn text}
    {fault : Fault}
    (reads : turn.action = .load ∨ turn.action = .reload)
    (stopped : turn.answer? meaning = some (.error fault)) :
    (turn.content meaning).configuration = .error fault := by
  unfold answer? effect? at stopped
  rcases reads with isLoad | isReload
  · rw [isLoad] at stopped
    exact (Session.ended_read _ _).symm.trans (Option.some.inj stopped)
  · rw [isReload] at stopped
    exact (Session.ended_read _ _).symm.trans (Option.some.inj stopped)

/-! ## What is answered -/

/--
Whatever was done before, a question is answered as a loader without a past
would answer it from the content that was taken last, or from the present one if
none is held; then the fault of reading the file is the answer. Loading in vain
keeps the snapshot and what it is of, reloading in vain leaves no snapshot.
-/
theorem answer_of_turn
    {path : String}
    {file : Option text}
    {actions : List (Action text)}
    {earlier later : List (Turn text)}
    {turn : Turn text}
    (split :
      turns meaning (.start path) file actions =
        earlier ++ turn :: later) :
    (∀ content,
        snapshotContent meaning earlier = some content ↔
          IsTakenLast meaning earlier content) ∧
      (∀ question, turn.action = .ask question →
        turn.answer? meaning =
            some
              (question.freshAnswer path
                ((snapshotContent meaning earlier).getD
                  (turn.content meaning))) ∧
          ∀ fault,
            snapshotContent meaning earlier = none →
              turn.content meaning = some (.error fault) →
                turn.answer? meaning = some (.error fault)) ∧
      ∀ fault, turn.answer? meaning = some (.error fault) →
        (turn.action = .load →
          (turn.after meaning).snapshot = turn.found.snapshot ∧
            snapshotContent meaning (earlier ++ [turn]) =
              snapshotContent meaning earlier) ∧
          (turn.action = .reload →
            (turn.after meaning).snapshot = none ∧
              snapshotContent meaning (earlier ++ [turn]) = none) := by
  -- All that was done before is in what the loader reflects by now.
  have fresh : (Session.start path).Reflects none :=
    rfl
  have reflects : turn.found.Reflects (snapshotContent meaning earlier) :=
    reflects_of_turns fresh split
  refine ⟨fun content => snapshotContent_eq_some_iff, ?_, ?_⟩
  · intro question isQuestion
    have answered :
        turn.answer? meaning =
          some
            (question.freshAnswer path
              ((snapshotContent meaning earlier).getD
                (turn.content meaning))) := by
      unfold Turn.answer? Turn.effect?
      rw [isQuestion]
      exact congrArg some (reflects.ended_query _ question path)
    refine ⟨answered, fun fault empty unreadable => ?_⟩
    rw [answered, empty, unreadable, Question.freshAnswer_eq]
    rfl
  · intro fault stopped
    rw [snapshotContent_concat]
    constructor
    · intro isLoad
      have refused := Turn.configuration_of_stopped (.inl isLoad) stopped
      constructor
      · unfold Turn.after Turn.effect?
        rw [isLoad]
        exact congrArg Session.snapshot (Session.load_of_error refused _)
      · unfold Turn.keep
        rw [isLoad]
        simp [Content.taken?_of_error refused]
    · intro isReload
      have refused := Turn.configuration_of_stopped (.inr isReload) stopped
      constructor
      · unfold Turn.after Turn.effect?
        rw [isReload]
        exact congrArg Session.snapshot (Session.load_of_error refused _)
      · unfold Turn.keep
        rw [isReload]
        exact Content.taken?_of_error refused

end Turns

/-- A plans file with one form. -/
def contactPlans : String :=
  "forms: \x7bcontact: \x7bplan: []\x7d\x7d"

/-- A plans file that cannot be read. -/
def brokenPlans : String :=
  "forms: [unclosed"

/-- The turns of a loader that is asked after its file was broken. -/
def brokenTurns : List (Turn String) :=
  turns Markup.read (.start "plans.yaml") (some contactPlans)
    [.ask .formNames, .write brokenPlans, .load, .ask .formNames, .reload,
      .ask .globalSettings]

/-- A loader that was loaded in vain still names the form of its snapshot. -/
theorem answer_of_turn_brokenTurns :
    ∃ earlier turn later names,
      brokenTurns = earlier ++ turn :: later ∧
        turn.file = some brokenPlans ∧
        turn.action = .ask .formNames ∧
        turn.answer? Markup.read = some (.ok names) ∧
        (names == .list [.text "contact"]) = true := by
  have readable :
      (Content.isReadable (some (Markup.read contactPlans))) = true := by
    decide +kernel
  have unreadable :
      (Content.isReadable (some (Markup.read brokenPlans))) = false := by
    decide +kernel
  have named :
      (Question.formNames.freshAnswer "plans.yaml"
            (some (Markup.read contactPlans))).toOption.any
          (· == .list [.text "contact"]) =
        true := by
    decide +kernel
  obtain ⟨names, isAnswer, isNamed⟩ := (Option.any_eq_true ..).mp named
  have split :
      brokenTurns =
        brokenTurns.take 3 ++
          ⟨_, some brokenPlans, .ask .formNames⟩ :: brokenTurns.drop 4 :=
    rfl
  obtain ⟨_, asked, _⟩ := answer_of_turn split
  obtain ⟨answered, _⟩ := asked .formNames rfl
  have held :
      snapshotContent Markup.read (brokenTurns.take 3) =
        some (some (Markup.read contactPlans)) := by
    refine snapshotContent_eq_some_iff.mpr
      ⟨[], _, _, rfl, rfl, readable, .inr (.inr ⟨rfl, _, rfl⟩), ?_⟩
    refine List.forall_mem_cons.mpr
      ⟨by simp [Turn.Ends], List.forall_mem_singleton.mpr ?_⟩
    rintro (isReload | ⟨_, loads⟩)
    · cases isReload
    · cases unreadable.symm.trans loads
  rw [held, Option.getD_some] at answered
  cases fresh :
      Question.formNames.freshAnswer "plans.yaml"
        (some (Markup.read contactPlans)) with
  | error fault =>
      rw [fresh] at isAnswer
      cases isAnswer
  | ok value =>
      rw [fresh] at isAnswer answered
      cases isAnswer
      exact ⟨_, _, _, _, split, rfl, rfl, answered, isNamed⟩

end FormCheck.PlanFile
