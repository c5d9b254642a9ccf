import Mathlib.Algebra.Order.Group.Multiset
import Mathlib.Tactic.Abel
import FormCheck.Value.Sorting

namespace FormCheck.Sorting

/-!
# Sorting rearranges

Whatever comes before what, and even where some members have no order, sorting
only rearranges: every run that is cut, lengthened or merged keeps the members
that went into it. The counts found by searches play no part in this, since
what is taken from a list is put in front of what is dropped from it.
-/

variable {α : Type}

/-- The members of lists in a row, regardless of order. -/
theorem coe_append
    (left right : List α) :
    ((left ++ right : List α) : Multiset α) =
      (left : Multiset α) + (right : Multiset α) :=
  (Multiset.coe_add left right).symm

/-- The members of a list with one in front, regardless of order. -/
theorem coe_cons
    (member : α)
    (rest : List α) :
    ((member :: rest : List α) : Multiset α) =
      {member} + (rest : Multiset α) := by
  rw [Multiset.singleton_add, Multiset.cons_coe]

/-- What is taken and what is dropped make up a list, regardless of order. -/
theorem coe_take_drop
    (count : Nat)
    (members : List α) :
    ((members.take count : List α) : Multiset α) +
        ((members.drop count : List α) : Multiset α) =
      members := by
  rw [← coe_append, List.take_append_drop]

/-! ## Merging two runs -/

/-- All that a search has merged or left to merge. -/
def Progress.members : Progress α → Multiset α
  | .finished merged => merged
  | .ongoing merged waiting moving _ => merged + waiting + moving

theorem members_mergeWaiting
    (direction : Direction α)
    (waiting moving : List α) :
    (mergeWaiting direction waiting moving).members =
      (waiting : Multiset α) + moving := by
  unfold mergeWaiting
  cases moving with
  | nil =>
      simp [Progress.members]
  | cons member rest =>
      dsimp only
      rw [← coe_take_drop (direction.waitingBefore member waiting) waiting]
      split
      · simp only [Progress.members, coe_append, coe_cons]
        abel
      · split
        case isTrue isEmpty =>
          rw [List.isEmpty_iff.mp isEmpty]
          simp only [Progress.members, coe_append, coe_cons, Multiset.coe_nil]
          abel
        case isFalse =>
          simp only [Progress.members, coe_append, coe_cons, Multiset.coe_nil]
          abel

theorem members_mergeMoving
    (direction : Direction α)
    (waiting moving : List α) :
    (mergeMoving direction waiting moving).members =
      (waiting : Multiset α) + moving := by
  unfold mergeMoving
  cases waiting with
  | nil =>
      simp [Progress.members]
  | cons member rest =>
      dsimp only
      rw [← coe_take_drop (direction.movingBefore member moving) moving]
      split
      case isTrue finished =>
        have noneLeft :
            moving.drop (direction.movingBefore member moving) = [] := by
          simpa using (Bool.and_eq_true_iff.mp finished).2
        rw [noneLeft]
        simp only [Progress.members, coe_append, coe_cons, Multiset.coe_nil]
        abel
      case isFalse =>
        split
        · simp only [Progress.members, coe_append, coe_cons]
          abel
        · simp only [Progress.members, coe_append, coe_cons, Multiset.coe_nil]
          abel

/-- Members merged earlier stay in front of those merged later. -/
theorem coe_behind
    (merged : List α)
    (later : List α × Nat) :
    ((behind merged later).1 : Multiset α) =
      (merged : Multiset α) + later.1 :=
  coe_append merged later.1

/-- Both ways of merging, with some steps left, keep all members. -/
structure KeepsMembers
    (direction : Direction α)
    (steps : Nat) : Prop where
  singly :
    ∀ threshold fromWaiting fromMoving waiting moving,
      ((mergeSingly direction threshold steps fromWaiting fromMoving waiting
          moving).1 : Multiset α) =
        (waiting : Multiset α) + moving
  searching :
    ∀ threshold waiting moving,
      ((mergeSearching direction threshold steps waiting moving).1 :
          Multiset α) =
        (waiting : Multiset α) + moving

namespace KeepsMembers

variable
  {direction : Direction α}
  {steps : Nat}

/-- Merging one member keeps all members if merging the others does. -/
theorem singly_succ
    (keeps : KeepsMembers direction steps)
    (threshold fromWaiting fromMoving : Nat)
    (waiting moving : List α) :
    ((mergeSingly direction threshold (steps + 1) fromWaiting fromMoving
        waiting moving).1 : Multiset α) =
      (waiting : Multiset α) + moving := by
  cases waiting with
  | nil =>
      simp [mergeSingly]
  | cons first waiting =>
      cases moving with
      | nil =>
          simp [mergeSingly]
      | cons second moving =>
          unfold mergeSingly
          split
          · rw [coe_behind]
            split
            case isTrue isEmpty =>
              rw [List.isEmpty_iff.mp isEmpty]
              simp only [coe_cons, Multiset.coe_nil]
              abel
            case isFalse =>
              split
              · rw [keeps.searching]
                simp only [coe_cons, Multiset.coe_nil]
                abel
              · rw [keeps.singly]
                simp only [coe_cons, Multiset.coe_nil]
                abel
          · rw [coe_behind]
            split
            · simp only [coe_append, coe_cons, Multiset.coe_nil]
              abel
            · split
              · rw [keeps.searching]
                simp only [coe_cons, Multiset.coe_nil]
                abel
              · rw [keeps.singly]
                simp only [coe_cons, Multiset.coe_nil]
                abel

/-- Two searches that keep all members keep them one behind the other. -/
theorem searching_behind
    (keeps : KeepsMembers direction steps)
    {first second : Direction α → List α → List α → Progress α}
    (firstKeeps :
      ∀ waiting moving,
        (first direction waiting moving).members =
          (waiting : Multiset α) + moving)
    (secondKeeps :
      ∀ waiting moving,
        (second direction waiting moving).members =
          (waiting : Multiset α) + moving)
    (threshold : Nat)
    (waiting moving : List α) :
    ((match first direction waiting moving with
      | .finished merged => (merged, threshold)
      | .ongoing merged waiting moving firstCount =>
          behind merged <|
            match second direction waiting moving with
            | .finished merged => (merged, threshold)
            | .ongoing merged waiting moving secondCount =>
                behind merged <|
                  if patience ≤ firstCount || patience ≤ secondCount then
                    mergeSearching direction threshold steps waiting moving
                  else
                    mergeSingly direction (threshold + 1) steps 0 0 waiting
                      moving).1 : Multiset α) =
      (waiting : Multiset α) + moving := by
  rw [← firstKeeps waiting moving]
  cases first direction waiting moving with
  | finished merged =>
      rfl
  | ongoing merged waiting moving firstCount =>
      dsimp only [Progress.members]
      rw [coe_behind, Multiset.add_assoc, ← secondKeeps waiting moving]
      congr 1
      cases second direction waiting moving with
      | finished merged =>
          rfl
      | ongoing merged waiting moving secondCount =>
          dsimp only [Progress.members]
          rw [coe_behind, Multiset.add_assoc]
          congr 1
          split
          · exact keeps.searching ..
          · exact keeps.singly ..

/-- Merging many members keeps all members if merging the others does. -/
theorem searching_succ
    (keeps : KeepsMembers direction steps)
    (threshold : Nat)
    (waiting moving : List α) :
    ((mergeSearching direction threshold (steps + 1) waiting moving).1 :
        Multiset α) =
      (waiting : Multiset α) + moving := by
  unfold mergeSearching
  cases direction.searchesWaiting with
  | true =>
      exact keeps.searching_behind (members_mergeWaiting direction)
        (members_mergeMoving direction) ..
  | false =>
      exact keeps.searching_behind (members_mergeMoving direction)
        (members_mergeWaiting direction) ..

/-- However many steps are left, both ways of merging keep all members. -/
theorem of_steps
    (direction : Direction α)
    (steps : Nat) :
    KeepsMembers direction steps := by
  induction steps with
  | zero =>
      constructor
      · intro _ _ _ waiting moving
        simp only [mergeSingly, coe_append]
      · intro _ waiting moving
        simp only [mergeSearching, coe_append]
  | succ steps inductionHypothesis =>
      exact ⟨inductionHypothesis.singly_succ,
        inductionHypothesis.searching_succ⟩

end KeepsMembers

theorem coe_mergeFrom
    (direction : Direction α)
    (threshold : Nat)
    (waiting moving : List α) :
    ((mergeFrom direction threshold waiting moving).1 : Multiset α) =
      (waiting : Multiset α) + moving := by
  unfold mergeFrom
  cases moving with
  | nil =>
      simp
  | cons first moving =>
      dsimp only
      rw [coe_behind]
      split
      case isTrue isEmpty =>
        rw [List.isEmpty_iff.mp isEmpty]
        simp only [coe_cons, Multiset.coe_nil]
        abel
      case isFalse =>
        split
        · simp only [coe_append, coe_cons, Multiset.coe_nil]
          abel
        · rw [(KeepsMembers.of_steps direction _).singly]
          simp only [coe_cons, Multiset.coe_nil]
          abel

/-- Merging two neighbouring runs keeps the members of both. -/
theorem coe_merge
    (before : α → α → Bool)
    (threshold : Nat)
    (left right : List α) :
    ((merge before threshold left right).1 : Multiset α) =
      (left : Multiset α) + right := by
  unfold merge
  cases right with
  | nil =>
      simp
  | cons lowest rest =>
      dsimp only
      generalize lowest :: rest = right
      generalize (Direction.upward before).waitingBefore lowest left = kept
      rw [← coe_take_drop kept left]
      split
      case h_1 none =>
        rw [List.getLast?_eq_none_iff.mp none]
        simp only [coe_append, Multiset.coe_nil]
        abel
      case h_2 highest _ =>
        generalize
          countFromLast
            (positions right fun member => before member highest)
            right.length = moved
        rw [← coe_take_drop moved right]
        split
        case isTrue isEmpty =>
          rw [List.isEmpty_iff.mp isEmpty]
          simp only [coe_append, Multiset.coe_nil]
          abel
        case isFalse =>
          split
          · simp only [coe_append, coe_mergeFrom]
            abel
          · simp only [coe_append, Multiset.coe_reverse, coe_mergeFrom]
            abel

/-! ## Finding runs -/

/-- The first run of a list rearranges as many of its members. -/
theorem coe_firstRun
    (before : α → α → Bool)
    (members : List α) :
    ((firstRun before members).1 : Multiset α) =
      (members.take (firstRun before members).2 : List α) := by
  unfold firstRun
  split
  · dsimp only
    split
    · exact Multiset.coe_reverse _
    · rfl
  · simp

/-- The first run of a list that is not empty is not empty. -/
theorem firstRun_pos
    (before : α → α → Bool)
    (first : α)
    (rest : List α) :
    0 < (firstRun before (first :: rest)).2 := by
  unfold firstRun
  split
  · exact Nat.succ_pos _
  · exact Nat.succ_pos _

/-- Inserting a member adds it. -/
theorem coe_insert
    (before : α → α → Bool)
    (run : List α)
    (member : α) :
    (insert before run member : Multiset α) = {member} + (run : Multiset α) := by
  unfold insert
  dsimp only
  generalize
    bisect (positions run fun other => !before member other) 0 run.length =
      place
  rw [← coe_take_drop place run]
  simp only [coe_append, coe_cons]
  abel

/-- Inserting members one after the other adds them all. -/
theorem coe_foldl_insert
    (before : α → α → Bool)
    (members run : List α) :
    ((members.foldl (insert before) run : List α) : Multiset α) =
      (run : Multiset α) + members := by
  induction members generalizing run with
  | nil =>
      simp
  | cons member rest inductionHypothesis =>
      rw [List.foldl_cons, inductionHypothesis, coe_insert]
      simp only [coe_cons]
      abel

/-! ## Merging all runs -/

/-- The members of some runs, regardless of order. -/
def membersOf : List (Run α) → Multiset α
  | [] => 0
  | run :: rest => (run.members : Multiset α) + membersOf rest

theorem coe_mergeNext
    (before : α → α → Bool)
    (threshold : Nat)
    (left right : Run α) :
    ((mergeNext before threshold left right).1.members : Multiset α) =
      (left.members : Multiset α) + right.members :=
  coe_merge ..

theorem membersOf_mergeDeeper
    (before : α → α → Bool)
    (depth threshold : Nat)
    (runs : List (Run α)) :
    membersOf (mergeDeeper before depth threshold runs).1 =
      membersOf runs := by
  fun_induction mergeDeeper before depth threshold runs with
  | case1 threshold last previous others deeper merged next met
      inductionHypothesis =>
      rw [inductionHypothesis]
      have kept := coe_mergeNext before threshold previous last
      rw [met] at kept
      simp only [membersOf, kept]
      abel
  | case2 =>
      rfl
  | case3 =>
      rfl

theorem membersOf_announce
    (before : α → α → Bool)
    (size threshold next : Nat)
    (runs : List (Run α)) :
    membersOf (announce before size threshold next runs).1 =
      membersOf runs := by
  unfold announce
  cases runs with
  | nil =>
      rfl
  | cons last others =>
      dsimp only
      generalize
        meetingDepth size (size + 1) (2 * last.start + last.members.length)
            (2 * last.start + last.members.length + last.members.length +
              next) = depth
      have kept :=
        membersOf_mergeDeeper before depth threshold (last :: others)
      split
      case h_1 merged earlier changed met =>
        rw [met] at kept
        exact kept
      case h_2 changed met =>
        rw [met] at kept
        exact kept

theorem coe_mergeAll
    (before : α → α → Bool)
    (threshold : Nat)
    (runs : List (Run α)) :
    (mergeAll before threshold runs : Multiset α) = membersOf runs := by
  fun_induction mergeAll before threshold runs with
  | case1 =>
      rfl
  | case2 threshold run =>
      simp [membersOf]
  | case3 threshold last previous =>
      rw [coe_merge]
      simp only [membersOf]
      abel
  | case4 threshold last previous earlier others shorter merged next met
      inductionHypothesis =>
      have kept := coe_mergeNext before threshold earlier previous
      rw [met] at kept
      rw [inductionHypothesis]
      simp only [membersOf, kept]
      abel
  | case5 threshold last previous earlier others longer merged next met
      inductionHypothesis =>
      have kept := coe_mergeNext before threshold previous last
      rw [met] at kept
      rw [inductionHypothesis]
      simp only [membersOf, kept]
      abel

/-- Cutting into runs and merging keeps all members, given enough rounds. -/
theorem coe_mergeRuns
    (before : α → α → Bool)
    (size limit threshold : Nat)
    (runs : List (Run α))
    (left : List α)
    (enough : left.length ≤ limit) :
    (mergeRuns before size limit threshold runs left : Multiset α) =
      membersOf runs + left := by
  induction limit generalizing threshold runs left with
  | zero =>
      obtain rfl := List.eq_nil_of_length_eq_zero (Nat.le_zero.mp enough)
      simp [mergeRuns, coe_mergeAll]
  | succ limit inductionHypothesis =>
      cases left with
      | nil =>
          simp [mergeRuns, coe_mergeAll]
      | cons first rest =>
          unfold mergeRuns
          dsimp only
          have found := firstRun_pos before first rest
          have cut := coe_firstRun before (first :: rest)
          generalize firstRun before (first :: rest) = run at found cut
          have least :
              run.2 ≤ max run.2 (min (first :: rest).length
                (leastRun false size)) :=
            Nat.le_max_left ..
          generalize
            max run.2 (min (first :: rest).length (leastRun false size)) =
              length at least
          have fewer :
              ((first :: rest).drop length).length ≤ limit := by
            rw [List.length_drop]
            omega
          have taken :
              (first :: rest).take run.2 =
                ((first :: rest).take length).take run.2 := by
            rw [List.take_take, Nat.min_eq_left least]
          rw [inductionHypothesis _ _ _ fewer]
          simp only [membersOf, membersOf_announce, coe_foldl_insert, cut]
          rw [taken, coe_take_drop, Multiset.add_comm _ (membersOf runs),
            Multiset.add_assoc, coe_take_drop]

/-- Sorting only rearranges. -/
theorem sort_perm
    (before : α → α → Bool)
    (members : List α) :
    (sort before members).Perm members := by
  rw [← Multiset.coe_eq_coe]
  exact (coe_mergeRuns before _ _ _ [] members le_rfl).trans
    (Multiset.zero_add _)

end FormCheck.Sorting
