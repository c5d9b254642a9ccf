import FormCheck.Proofs.Notices

namespace FormCheck

/-!
# The order of combined messages

A result keeps messages by key, so the combined text of several keys takes the
keys one after another, in the order in which they first failed, and for each
key its messages in the order in which they were recorded. This is the order in
which all of them were recorded only if no key fails again after another one.
-/

/-- A message with the textual key that it is recorded under. -/
abbrev Remark :=
  String × String

namespace Remark

/-- The entry that records a remark. -/
def entry
    (remark : Remark) : Entry :=
  .error (.text remark.1) (.text remark.2)

/-- Remarks key by key, the keys in the order of their first remark. -/
def grouped
    (remarks : List Remark) : List Remark :=
  (remarks.map Prod.fst).eraseDups.flatMap fun key =>
    remarks.filter (·.1 == key)

/-- No key comes back after a remark under another key. -/
def AreTogether
    (remarks : List Remark) : Prop :=
  ∀ first between last,
    [first, between, last].Sublist remarks →
      first.1 = last.1 →
        between.1 = first.1

/--
What holds of no remarks, and of some once it holds of those under other keys
than the first, holds of all remarks.
-/
@[elab_as_elim]
theorem induction_on_keys
    {motive : List Remark → Prop}
    (nil : motive [])
    (cons :
      ∀ first rest,
        motive (rest.filter (·.1 != first.1)) → motive (first :: rest))
    (remarks : List Remark) :
    motive remarks := by
  cases remarks with
  | nil =>
      exact nil
  | cons first rest =>
      exact cons first rest
        (induction_on_keys nil cons (rest.filter (·.1 != first.1)))
termination_by remarks.length
decreasing_by
  exact Nat.lt_succ_of_le (List.length_filter_le _ _)

/-- The key of the first remark is grouped in front of the other keys. -/
theorem grouped_cons
    (first : Remark)
    (rest : List Remark) :
    grouped (first :: rest) =
      first :: rest.filter (·.1 == first.1) ++
        grouped (rest.filter (·.1 != first.1)) := by
  have otherKeys :
      (rest.map Prod.fst).filter (fun key => !key == first.1) =
        (rest.filter (·.1 != first.1)).map Prod.fst :=
    List.filter_map ..
  have others :
      ∀ key ∈ ((rest.filter (·.1 != first.1)).map Prod.fst).eraseDups,
        (first :: rest).filter (·.1 == key) =
          (rest.filter (·.1 != first.1)).filter (·.1 == key) := by
    intro key member
    obtain ⟨other, isOther, rfl⟩ :=
      List.mem_map.mp (List.mem_eraseDups.mp member)
    have differs := (List.mem_filter.mp isOther).2
    rw [bne_iff_ne] at differs
    rw [List.filter_cons_of_neg (by simpa using differs.symm),
      List.filter_filter]
    refine List.filter_congr fun remark _ => ?_
    cases same : remark.1 == other.1 with
    | false =>
        rfl
    | true =>
        rw [eq_of_beq same]
        simp [differs]
  have own :
      (first :: rest).filter (·.1 == first.1) =
        first :: rest.filter (·.1 == first.1) :=
    List.filter_cons_of_pos (beq_self_eq_true first.1)
  rw [grouped, List.map_cons, List.eraseDups_cons, otherKeys,
    List.flatMap_cons, own, List.flatMap_def, List.map_congr_left others,
    ← List.flatMap_def]
  rfl

/-- Grouping keeps every remark as often as it is there. -/
theorem grouped_perm
    (remarks : List Remark) :
    (grouped remarks).Perm remarks := by
  induction remarks using induction_on_keys with
  | nil =>
      exact .refl _
  | cons first rest inductionHypothesis =>
      rw [grouped_cons, List.cons_append]
      refine .cons first ?_
      refine (inductionHypothesis.append_left _).trans ?_
      exact List.filter_append_perm _ rest

/-- Remarks are together if those behind some of them are. -/
theorem AreTogether.of_cons
    {first : Remark}
    {rest : List Remark}
    (together : AreTogether (first :: rest)) :
    AreTogether rest :=
  fun early between late isPart =>
    together early between late (isPart.cons first)

/-- Remarks under one key are together with those under other keys behind. -/
theorem AreTogether.append
    {key : String}
    {block rest : List Remark}
    (inBlock : ∀ remark ∈ block, remark.1 = key)
    (behind : ∀ remark ∈ rest, remark.1 ≠ key)
    (together : AreTogether rest) :
    AreTogether (block ++ rest) := by
  intro first between last isPart same
  obtain ⟨early, late, parts, fromBlock, fromRest⟩ :=
    List.sublist_append_iff.mp isPart
  -- The block gives a beginning of the three remarks.
  match early, parts with
  | [], parts =>
      rw [List.nil_append] at parts
      exact together first between last (parts ▸ fromRest) same
  | [_], parts =>
      cases parts
      have isFirst := inBlock first (fromBlock.subset (by simp))
      have isLast := behind last (fromRest.subset (by simp))
      exact (isLast (same ▸ isFirst)).elim
  | _ :: _ :: _, parts =>
      simp only [List.cons_append, List.cons.injEq] at parts
      obtain ⟨rfl, rfl, -⟩ := parts
      rw [inBlock first (fromBlock.subset (by simp)),
        inBlock between (fromBlock.subset (by simp))]

/-- Grouped remarks are together. -/
theorem areTogether_grouped
    (remarks : List Remark) :
    AreTogether (grouped remarks) := by
  induction remarks using induction_on_keys with
  | nil =>
      intro first between last isPart
      cases isPart
  | cons first rest inductionHypothesis =>
      rw [grouped_cons]
      refine
        @AreTogether.append first.1 _ _ ?_ ?_ inductionHypothesis
      · intro remark member
        rcases List.mem_cons.mp member with rfl | later
        · rfl
        · exact eq_of_beq (List.mem_filter.mp later).2
      · intro remark member
        have kept := (grouped_perm _).mem_iff.mp member
        exact bne_iff_ne.mp (List.mem_filter.mp kept).2

/--
Behind a remark, remarks that are together are those under its key and then
the others.
-/
theorem AreTogether.filter_append
    {first : Remark}
    {rest : List Remark}
    (together : AreTogether (first :: rest)) :
    rest.filter (·.1 == first.1) ++ rest.filter (·.1 != first.1) = rest := by
  induction rest with
  | nil =>
      rfl
  | cons second others inductionHypothesis =>
      by_cases same : second.1 = first.1
      · have shorter : AreTogether (first :: others) :=
          fun early between late isPart =>
            together early between late
              (isPart.trans ((List.sublist_cons_self _ _).cons_cons first))
        rw [List.filter_cons_of_pos (by simpa using same),
          List.filter_cons_of_neg (by simpa using same), List.cons_append,
          inductionHypothesis shorter]
      · have gone : others.filter (·.1 == first.1) = [] := by
          refine List.filter_eq_nil_iff.mpr fun other member isBack => ?_
          have isPart :
              [first, second, other].Sublist (first :: second :: others) :=
            ((List.singleton_sublist.mpr member).cons_cons second).cons_cons
              first
          exact same (together _ _ _ isPart (eq_of_beq isBack).symm)
        have kept : others.filter (·.1 != first.1) = others := by
          refine List.filter_eq_self.mpr fun other member => ?_
          simpa using List.filter_eq_nil_iff.mp gone other member
        rw [List.filter_cons_of_neg (by simpa using same), gone,
          List.filter_cons_of_pos (by simpa using same), kept]
        rfl

/-- Remarks that are together are grouped as they are. -/
theorem grouped_eq_self
    {remarks : List Remark}
    (together : AreTogether remarks) :
    grouped remarks = remarks := by
  induction remarks using induction_on_keys with
  | nil =>
      rfl
  | cons first rest inductionHypothesis =>
      have isRest := together.filter_append
      have othersTogether : AreTogether (rest.filter (·.1 != first.1)) :=
        fun early between late isPart =>
          together.of_cons early between late
            (isPart.trans List.filter_sublist)
      rw [grouped_cons, inductionHypothesis othersTogether,
        List.cons_append, isRest]

/-- Grouping changes nothing exactly if the remarks are together. -/
theorem grouped_eq_self_iff
    {remarks : List Remark} :
    grouped remarks = remarks ↔ AreTogether remarks := by
  constructor
  · intro unchanged
    rw [← unchanged]
    exact areTogether_grouped remarks
  · exact grouped_eq_self

end Remark

namespace Result

/-- The result after some remarks were recorded on an empty one. -/
def ofRemarks
    (remarks : List Remark) : Result :=
  remarks.foldl
    (fun result remark =>
      result.addError (.text remark.1) (.text remark.2))
    .empty

/-- Recording remarks leaves their entries. -/
theorem ofRemarks_eq
    (remarks : List Remark) :
    ofRemarks remarks = ⟨remarks.map Remark.entry⟩ := by
  have recorded
      (result : Result) :
      remarks.foldl
          (fun result remark =>
            result.addError (.text remark.1) (.text remark.2))
          result =
        result.extend (remarks.map Remark.entry) := by
    induction remarks generalizing result with
    | nil =>
        exact result.extend_nil.symm
    | cons remark rest inductionHypothesis =>
        rw [List.foldl_cons, inductionHypothesis, addError, extend_extend]
        rfl
  exact recorded .empty

/--
Once a key has failed, its later messages are collected in its place, and those
of all other keys as if it were not there.
-/
theorem foldl_collectError_cons
    (key : String)
    (messages : List Value)
    (errors : List (Value × List Value))
    (remarks : List Remark) :
    (remarks.map Remark.entry).foldl collectError
        ((.text key, messages) :: errors) =
      (.text key,
          messages ++
            (remarks.filter (·.1 == key)).map fun remark =>
              .text remark.2) ::
        ((remarks.filter (·.1 != key)).map Remark.entry).foldl collectError
          errors := by
  induction remarks generalizing messages errors with
  | nil =>
      simp
  | cons remark rest inductionHypothesis =>
      rw [List.map_cons, List.foldl_cons]
      by_cases same : remark.1 = key
      · subst same
        have collected :
            collectError ((.text remark.1, messages) :: errors)
                remark.entry =
              (.text remark.1, messages ++ [.text remark.2]) :: errors := by
          simp [collectError, Remark.entry, put, lookup]
        rw [collected, inductionHypothesis]
        simp
      · have collected :
            collectError ((.text key, messages) :: errors) remark.entry =
              (.text key, messages) ::
                collectError errors remark.entry := by
          simp [collectError, Remark.entry, put, lookup, Ne.symm same]
        rw [collected, inductionHypothesis,
          List.filter_cons_of_neg (by simpa using same),
          List.filter_cons_of_pos (by simpa using same)]
        rfl

/-- The messages of remarks, key by key, are those of the grouped remarks. -/
theorem flatMap_errors_ofRemarks
    (remarks : List Remark) :
    (ofRemarks remarks).errors.flatMap Prod.snd =
      (Remark.grouped remarks).map fun remark => .text remark.2 := by
  induction remarks using Remark.induction_on_keys with
  | nil =>
      rfl
  | cons first rest inductionHypothesis =>
      have collected :
          (ofRemarks (first :: rest)).errors =
            (.text first.1,
                [.text first.2] ++
                  (rest.filter (·.1 == first.1)).map fun remark =>
                    .text remark.2) ::
              (ofRemarks (rest.filter (·.1 != first.1))).errors := by
        rw [ofRemarks_eq, ofRemarks_eq]
        exact foldl_collectError_cons first.1 [.text first.2] [] rest
      rw [collected, List.flatMap_cons, inductionHypothesis,
        Remark.grouped_cons]
      simp

/-- Remarks are recorded under textual keys. -/
theorem hasTextKeys_ofRemarks
    (remarks : List Remark) :
    (ofRemarks remarks).HasTextKeys := by
  rw [ofRemarks_eq]
  intro entry member
  obtain ⟨remark, _, rfl⟩ := List.mem_map.mp member
  exact ⟨remark.1, rfl⟩

/-- Under some keys there are the remarks with these keys. -/
theorem restrict_ofRemarks
    (test : String → Bool)
    (remarks : List Remark) :
    (ofRemarks remarks).restrict (Value.passes test) =
      ofRemarks (remarks.filter (test ·.1)) := by
  rw [ofRemarks_eq, ofRemarks_eq, restrict, List.filter_map]
  rfl

end Result

namespace Report

/--
The combined text of the keys with a prefix joins the messages of exactly the
remarks under such keys, grouped by key. These are in the order in which they
were recorded exactly if no key comes back after another one.
-/
theorem combined_ofRemarks
    {settings : Settings}
    {delimiter : Value}
    {separator : String}
    (isText :
      delimiter.orDefault settings.compositeDelimiter = .text separator)
    (remarks : List Remark)
    (leading : String) :
    let matching := remarks.filter (startsWith ·.1 leading)
    combined settings (.ofRemarks remarks) (.text leading) delimiter =
        .ok (Value.joined separator
          ((Remark.grouped matching).map Prod.snd)) ∧
      (Remark.grouped matching).Perm matching ∧
      (Remark.grouped matching = matching ↔
        Remark.AreTogether matching) := by
  intro matching
  refine ⟨?_, Remark.grouped_perm matching, Remark.grouped_eq_self_iff⟩
  have found :
      messagesWhere (startsWithValue (.text leading))
          (Result.ofRemarks remarks).errors =
        .ok (((Remark.grouped matching).map Prod.snd).map Value.text) := by
    refine
      (messagesWhere_errors (Result.hasTextKeys_ofRemarks remarks)
        (startsWith · leading)).trans ?_
    rw [messagesUnder, Result.restrict_ofRemarks,
      Result.flatMap_errors_ofRemarks, List.map_map]
    rfl
  unfold combined
  rw [found]
  simp only [bind, Except.bind, isText, mapM_messageText_map]
  rfl

/-- A key that fails again behind another one has both messages in front. -/
theorem combined_ofRemarks_backAndForth :
    let remarks : List Remark := [("a_x", "1"), ("a_y", "2"), ("a_x", "3")]
    Value.null.orDefault ({} : Settings).compositeDelimiter = .text "; " ∧
      combined {} (.ofRemarks remarks) (.text "a") .null = .ok "1; 3; 2" := by
  intro remarks
  have isText :
      Value.null.orDefault ({} : Settings).compositeDelimiter =
        .text "; " :=
    rfl
  have matching : remarks.filter (startsWith ·.1 "a") = remarks := by
    decide
  have grouped :
      Remark.grouped remarks =
        [("a_x", "1"), ("a_x", "3"), ("a_y", "2")] := by
    decide
  obtain ⟨joined, -⟩ := combined_ofRemarks isText remarks "a"
  rw [matching, grouped] at joined
  exact ⟨isText, joined⟩

/-- Combined messages are not always in the order of recording. -/
theorem not_forall_combined_in_order :
    ¬∀ (settings : Settings) (delimiter : Value) (separator : String)
        (remarks : List Remark) (leading : String),
      delimiter.orDefault settings.compositeDelimiter =
          .text separator →
        combined settings (.ofRemarks remarks) (.text leading) delimiter =
          .ok (Value.joined separator
            ((remarks.filter (startsWith ·.1 leading)).map
              Prod.snd)) := by
  intro inOrder
  have joined :=
    inOrder {} .null "; " [("a_x", "1"), ("a_y", "2"), ("a_x", "3")] "a" rfl
  revert joined
  decide

end Report

end FormCheck
