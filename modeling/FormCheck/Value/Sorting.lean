namespace FormCheck.Sorting

/-!
# Sorting by merging runs

A list is cut into runs that ascend or strictly descend. A descending run is
reversed, a short one is lengthened by insertion, and neighbouring runs are
merged so that runs of similar length meet. A merge moves one member at a time
until one run has given many members in a row; from then on it searches how many
members may move at once.

Where every two members are ordered, the outcome is the one sorted list that
keeps the order of equal members. Some members may be in no order with others,
as numbers are that are not numbers. Their places depend on which members are
compared, which is therefore fixed here.
-/

/-! ## Searching -/

/-- The first position from `low` on at which a test fails, found by halving. -/
def bisect (test : Nat → Bool) (low high : Nat) : Nat :=
  if low < high then
    let middle := low + (high - low) / 2
    if test middle then
      bisect test (middle + 1) high
    else
      bisect test low middle
  else
    low
termination_by high - low

/--
The last two of the distances 1, 3, 7 and so on, as long as they lie below a
limit and a test holds at them. The last one is at most the limit.
-/
def stride (test : Nat → Bool) (limit last next : Nat) : Nat × Nat :=
  if next < limit ∧ test next then
    stride test limit next (2 * next + 1)
  else
    (last, min next limit)
termination_by limit - next

/-- How many positions pass a test that holds up to some place, from the first. -/
def countFromFirst (test : Nat → Bool) (size : Nat) : Nat :=
  if test 0 then
    let (last, next) := stride test size 0 1
    bisect test (last + 1) next
  else
    0

/-- How many positions pass a test that holds up to some place, from the last. -/
def countFromLast (test : Nat → Bool) (size : Nat) : Nat :=
  if test (size - 1) then
    size
  else
    let (last, next) :=
      stride (fun distance => !test (size - 1 - distance)) size 0 1
    bisect test (size - next) (size - 1 - last)

/-- A test of members as a test of the positions in a list. -/
def positions (members : List α) (test : α → Bool) : Nat → Bool :=
  let members := members.toArray
  fun position => members[position]?.any test

/-! ## Merging two runs -/

/-- How many members one run gives in a row before a merge moves many at once. -/
def patience : Nat := 7

/--
How two runs are merged from one of their ends. The shorter one waits aside, and
the longer one moves up to it. Of two members it has to be known whether the
moving one precedes the waiting one, of a member of either run how many of the
other one precede it, and with which run a search begins.
-/
structure Direction (α : Type) where
  movesFirst : (waiting moving : α) → Bool
  waitingBefore : (moving : α) → List α → Nat
  movingBefore : (waiting : α) → List α → Nat
  searchesWaiting : Bool

namespace Direction

/-- Merging from the first members on; the left run waits. -/
def upward (before : α → α → Bool) : Direction α where
  movesFirst waiting moving := before moving waiting
  waitingBefore moving members :=
    countFromFirst (positions members fun member => !before moving member)
      members.length
  movingBefore waiting members :=
    countFromFirst (positions members fun member => before member waiting)
      members.length
  searchesWaiting := true

/-- Merging from the last members on; the right run waits. -/
def downward (before : α → α → Bool) : Direction α where
  movesFirst waiting moving := before waiting moving
  waitingBefore moving members :=
    members.length -
      countFromLast
        (positions members.reverse fun member => before member moving)
        members.length
  movingBefore waiting members :=
    members.length -
      countFromLast
        (positions members.reverse fun member => !before waiting member)
        members.length
  searchesWaiting := false

end Direction

/-- What a search has merged, and what is left to merge. -/
inductive Progress (α : Type) where
  | finished (merged : List α)
  | ongoing (merged waiting moving : List α) (count : Nat)

/-- Merge the waiting members before the moving member, and that member. -/
def mergeWaiting (direction : Direction α) (waiting moving : List α) :
    Progress α :=
  match moving with
  | [] => .finished waiting
  | member :: rest =>
      let count := direction.waitingBefore member waiting
      let merged := waiting.take count
      let left := waiting.drop count
      if 0 < count && left.length ≤ 1 then
        .finished (merged ++ moving ++ left)
      else if rest.isEmpty then
        .finished (merged ++ member :: left)
      else
        .ongoing (merged ++ [member]) left rest count

/-- Merge the moving members before the waiting member, and that member. -/
def mergeMoving (direction : Direction α) (waiting moving : List α) :
    Progress α :=
  match waiting with
  | [] => .finished moving
  | member :: rest =>
      let count := direction.movingBefore member moving
      let merged := moving.take count
      let left := moving.drop count
      if 0 < count && left.isEmpty then
        .finished (merged ++ waiting)
      else if rest.length ≤ 1 then
        .finished (merged ++ member :: left ++ rest)
      else
        .ongoing (merged ++ [member]) rest left count

/-- Put merged members in front of those that are merged later. -/
def behind (merged : List α) (later : List α × Nat) : List α × Nat :=
  (merged ++ later.1, later.2)

mutual

/--
Merge one member at a time, given how many each run has given in a row, until
one has given as many as the threshold says.
-/
def mergeSingly (direction : Direction α) (threshold : Nat) :
    Nat → (fromWaiting fromMoving : Nat) → (waiting moving : List α) →
      List α × Nat
  | steps + 1, fromWaiting, fromMoving, first :: waiting, second :: moving =>
      if direction.movesFirst first second then
        behind [second] <|
          if moving.isEmpty then
            (first :: waiting, threshold)
          else if threshold ≤ fromMoving + 1 then
            mergeSearching direction (threshold + 1) steps (first :: waiting)
              moving
          else
            mergeSingly direction threshold steps 0 (fromMoving + 1)
              (first :: waiting) moving
      else
        behind [first] <|
          if waiting.length ≤ 1 then
            (second :: moving ++ waiting, threshold)
          else if threshold ≤ fromWaiting + 1 then
            mergeSearching direction (threshold + 1) steps waiting
              (second :: moving)
          else
            mergeSingly direction threshold steps (fromWaiting + 1) 0 waiting
              (second :: moving)
  | _, _, _, waiting, moving => (waiting ++ moving, threshold)

/-- Merge many members at once as long as one of the runs gives enough. -/
def mergeSearching (direction : Direction α) (threshold : Nat) :
    Nat → (waiting moving : List α) → List α × Nat
  | 0, waiting, moving => (waiting ++ moving, threshold)
  | steps + 1, waiting, moving =>
      let threshold := if 1 < threshold then threshold - 1 else threshold
      let (first, second) :=
        if direction.searchesWaiting then
          (mergeWaiting, mergeMoving)
        else
          (mergeMoving, mergeWaiting)
      match first direction waiting moving with
      | .finished merged => (merged, threshold)
      | .ongoing merged waiting moving firstCount =>
          behind merged <|
            match second direction waiting moving with
            | .finished merged => (merged, threshold)
            | .ongoing merged waiting moving secondCount =>
                behind merged <|
                  if patience ≤ firstCount || patience ≤ secondCount then
                    mergeSearching direction threshold steps waiting moving
                  else
                    mergeSingly direction (threshold + 1) steps 0 0 waiting
                      moving

end

/-- Merge two runs, of which the moving one gives the first member. -/
def mergeFrom (direction : Direction α) (threshold : Nat)
    (waiting moving : List α) : List α × Nat :=
  match moving with
  | [] => (waiting, threshold)
  | first :: moving =>
      behind [first] <|
        if moving.isEmpty then
          (waiting, threshold)
        else if waiting.length ≤ 1 then
          (moving ++ waiting, threshold)
        else
          mergeSingly direction threshold (waiting.length + moving.length) 0 0
            waiting moving

/--
Merge two neighbouring runs, given the threshold for searching, which a merge
may change. Members that are in their places already stay there.
-/
def merge (before : α → α → Bool) (threshold : Nat) (left right : List α) :
    List α × Nat :=
  match right with
  | [] => (left, threshold)
  | lowest :: _ =>
      let kept := (Direction.upward before).waitingBefore lowest left
      let front := left.take kept
      let left := left.drop kept
      match left.getLast? with
      | none => (front ++ right, threshold)
      | some highest =>
          let moved :=
            countFromLast
              (positions right fun member => before member highest)
              right.length
          let back := right.drop moved
          let right := right.take moved
          let (merged, threshold) :=
            if right.isEmpty then
              (left, threshold)
            else if left.length ≤ right.length then
              mergeFrom (.upward before) threshold left right
            else
              let (merged, threshold) :=
                mergeFrom (.downward before) threshold right.reverse
                  left.reverse
              (merged.reverse, threshold)
          (front ++ merged ++ back, threshold)

/-! ## Finding runs -/

/-- How many members go on ascending, or else descending, behind a member. -/
def runLength (before : α → α → Bool) (descending : Bool) (last : α) :
    List α → Nat
  | [] => 0
  | member :: rest =>
      if before member last = descending then
        runLength before descending member rest + 1
      else
        0

/-- The ascending run at the beginning of a list, and how many members it has. -/
def firstRun (before : α → α → Bool) : List α → List α × Nat
  | first :: second :: rest =>
      let descending := before second first
      let size := runLength before descending second rest + 2
      let run := (first :: second :: rest).take size
      (if descending then run.reverse else run, size)
  | members => (members, members.length)

/-- Put a member into a run, behind its equals. -/
def insert (before : α → α → Bool) (run : List α) (member : α) : List α :=
  let place :=
    bisect (positions run fun other => !before member other) 0 run.length
  run.take place ++ member :: run.drop place

/-- The least length of a run, given whether halving has left a rest so far. -/
def leastRun (hasRest : Bool) (size : Nat) : Nat :=
  if size < 64 then
    if hasRest then size + 1 else size
  else
    leastRun (hasRest || size % 2 = 1) (size / 2)
termination_by size

/-! ## Merging all runs -/

/-- A run, where it begins, and the depth at which it meets the next one. -/
structure Run (α : Type) where
  members : List α
  start : Nat
  depth : Nat

/--
The depth at which two neighbouring runs meet if a list is halved again and
again: the first binary place in which the middles of the runs differ, both
given as doubled numerators over the length of the list.
-/
def meetingDepth (size : Nat) : Nat → Nat → Nat → Nat
  | 0, _, _ => 0
  | limit + 1, first, second =>
      if size ≤ first then
        meetingDepth size limit (2 * (first - size)) (2 * (second - size)) + 1
      else if size ≤ second then
        1
      else
        meetingDepth size limit (2 * first) (2 * second) + 1

/-- Merge a run with the next one. -/
def mergeNext (before : α → α → Bool) (threshold : Nat) (left right : Run α) :
    Run α × Nat :=
  let (members, threshold) :=
    merge before threshold left.members right.members
  ({ left with members := members }, threshold)

/-- Merge the last runs as long as they meet deeper than at the given depth. -/
def mergeDeeper (before : α → α → Bool) (depth threshold : Nat) :
    List (Run α) → List (Run α) × Nat
  | last :: previous :: others =>
      if depth < previous.depth then
        let (merged, threshold) := mergeNext before threshold previous last
        mergeDeeper before depth threshold (merged :: others)
      else
        (last :: previous :: others, threshold)
  | runs => (runs, threshold)
termination_by runs => runs.length

/-- Note that a run of some length follows, which begins at a place. -/
def announce (before : α → α → Bool) (size threshold next : Nat)
    (runs : List (Run α)) : List (Run α) × Nat :=
  match runs with
  | [] => ([], threshold)
  | last :: _ =>
      let middle := 2 * last.start + last.members.length
      let depth :=
        meetingDepth size (size + 1) middle
          (middle + last.members.length + next)
      match mergeDeeper before depth threshold runs with
      | (last :: others, threshold) =>
          ({ last with depth := depth } :: others, threshold)
      | ([], threshold) => ([], threshold)

/-- Merge all runs, the last one first unless the one before the last two is shorter. -/
def mergeAll (before : α → α → Bool) (threshold : Nat) :
    List (Run α) → List α
  | [] => []
  | [run] => run.members
  | [last, previous] =>
      (merge before threshold previous.members last.members).1
  | last :: previous :: earlier :: others =>
      if earlier.members.length < last.members.length then
        let (merged, threshold) := mergeNext before threshold earlier previous
        mergeAll before threshold (last :: merged :: others)
      else
        let (merged, threshold) := mergeNext before threshold previous last
        mergeAll before threshold (merged :: earlier :: others)
termination_by runs => runs.length

/-- Cut what is left of a list into runs, and merge them all. -/
def mergeRuns (before : α → α → Bool) (size : Nat) :
    (limit threshold : Nat) → (runs : List (Run α)) → (left : List α) → List α
  | limit + 1, threshold, runs, first :: rest =>
      let left := first :: rest
      let (run, found) := firstRun before left
      let length := max found (min left.length (leastRun false size))
      let run := ((left.take length).drop found).foldl (insert before) run
      let (runs, threshold) := announce before size threshold length runs
      mergeRuns before size limit threshold
        (⟨run, size - left.length, 0⟩ :: runs) (left.drop length)
  | _, threshold, runs, _ => mergeAll before threshold runs

/-- The members of a list in order, given which of two members comes before. -/
def sort (before : α → α → Bool) (members : List α) : List α :=
  mergeRuns before members.length members.length patience [] members

example : sort (fun left right => left < right) [3, 1, 2] = [1, 2, 3] := by
  decide +kernel

end FormCheck.Sorting
