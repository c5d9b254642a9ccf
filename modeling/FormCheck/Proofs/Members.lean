import FormCheck.Proofs.Result
import FormCheck.Value.Members

namespace FormCheck

/-!
# Entries by key

Entries are looked up by an equality that, for values, need not be identity.
A key is exact if it equals itself alone, as every text does. Putting an entry
under an exact key changes what is held there and nothing under any other exact
key; entries put behind others under new keys leave those others in front.
-/

/-- A key is exact if it equals nothing but itself. -/
def ExactKey
    [BEq key]
    (wanted : key) : Prop :=
  ∀ present, (present == wanted) = true ↔ present = wanted

/-- Every textual value is an exact key. -/
theorem ExactKey.text
    (characters : String) :
    ExactKey (Value.text characters) :=
  fun _ => Value.beq_text_iff

/-- Keys with a lawful equality are all exact. -/
theorem ExactKey.of_lawful
    [BEq key]
    [LawfulBEq key]
    (wanted : key) :
    ExactKey wanted :=
  fun _ => beq_iff_eq

section Entries

variable
  {key entry : Type}
  [BEq key]
  {wanted other : key}
  {value : entry}
  {entries rest : List (key × entry)}

/-- Only a key that occurs holds something. -/
theorem lookup_eq_none_iff
    (isExact : ExactKey wanted) :
    lookup wanted entries = none ↔ wanted ∉ entries.map Prod.fst := by
  induction entries with
  | nil =>
      simp [lookup]
  | cons item rest inductionHypothesis =>
      obtain ⟨present, held⟩ := item
      by_cases same : present = wanted
      · subst same
        simp [lookup, (isExact _).mpr rfl]
      · simp [lookup, isExact present, same, inductionHypothesis,
          Ne.symm same]

/-- What is held under an exact key is one of the entries. -/
theorem mem_of_lookup
    (isExact : ExactKey wanted)
    (found : lookup wanted entries = some value) :
    (wanted, value) ∈ entries := by
  induction entries with
  | nil =>
      simp [lookup] at found
  | cons item rest inductionHypothesis =>
      obtain ⟨present, held⟩ := item
      by_cases same : present = wanted
      · subst same
        simp only [lookup, (isExact _).mpr rfl, ↓reduceIte,
          Option.some.injEq] at found
        subst found
        exact List.mem_cons_self ..
      · simp only [lookup, isExact present, same, ↓reduceIte] at found
        exact List.mem_cons_of_mem _ (inductionHypothesis found)

/-- A key under which something is held is one of the keys. -/
theorem mem_keys_of_lookup
    (isExact : ExactKey wanted)
    (found : lookup wanted entries = some value) :
    wanted ∈ entries.map Prod.fst :=
  List.mem_map.mpr ⟨_, mem_of_lookup isExact found, rfl⟩

/-- A key that does not occur in some entries is looked up behind them. -/
theorem lookup_append_of_not_mem
    (isExact : ExactKey wanted)
    (fresh : wanted ∉ entries.map Prod.fst) :
    lookup wanted (entries ++ rest) = lookup wanted rest := by
  induction entries with
  | nil =>
      rfl
  | cons item others inductionHypothesis =>
      obtain ⟨present, held⟩ := item
      simp only [List.map_cons, List.mem_cons, not_or] at fresh
      simp [lookup, isExact present, Ne.symm fresh.1,
        inductionHypothesis fresh.2]

/-- A key that occurs in some entries is not looked up behind them. -/
theorem lookup_append_of_some
    (found : lookup wanted entries = some value) :
    lookup wanted (entries ++ rest) = some value := by
  induction entries with
  | nil =>
      simp [lookup] at found
  | cons item others inductionHypothesis =>
      obtain ⟨present, held⟩ := item
      unfold lookup at found
      simp only [List.cons_append, lookup]
      split at found
      case isTrue same =>
        rw [if_pos same]
        exact found
      case isFalse differs =>
        rw [if_neg differs]
        exact inductionHypothesis found

/-- What is put under an exact key is held there. -/
theorem lookup_put_self
    (isExact : ExactKey wanted)
    (value : entry)
    (entries : List (key × entry)) :
    lookup wanted (put wanted value entries) = some value := by
  induction entries with
  | nil =>
      simp [put, lookup, (isExact _).mpr rfl]
  | cons item rest inductionHypothesis =>
      obtain ⟨present, held⟩ := item
      by_cases same : present = wanted
      · subst same
        simp [put, lookup, (isExact _).mpr rfl]
      · simp [put, lookup, isExact present, same, inductionHypothesis]

/-- What is put under an exact key changes nothing under another. -/
theorem lookup_put_of_ne
    (isExact : ExactKey wanted)
    (exactOther : ExactKey other)
    (differs : other ≠ wanted)
    (value : entry)
    (entries : List (key × entry)) :
    lookup other (put wanted value entries) = lookup other entries := by
  induction entries with
  | nil =>
      simp [put, lookup, exactOther wanted, Ne.symm differs]
  | cons item rest inductionHypothesis =>
      obtain ⟨present, held⟩ := item
      by_cases same : present = wanted
      · subst same
        simp [put, lookup, (isExact _).mpr rfl, exactOther present,
          Ne.symm differs]
      · simp [put, lookup, isExact present, same, inductionHypothesis]

/-- Entries are never empty after something was put there. -/
theorem put_ne_nil
    (wanted : key)
    (value : entry)
    (entries : List (key × entry)) :
    put wanted value entries ≠ [] := by
  cases entries with
  | nil =>
      exact List.cons_ne_nil _ _
  | cons item rest =>
      unfold put
      split <;> exact List.cons_ne_nil _ _

/-- Putting an entry adds no key but its own. -/
theorem mem_keys_put
    (member : other ∈ (put wanted value entries).map Prod.fst) :
    other = wanted ∨ other ∈ entries.map Prod.fst := by
  induction entries with
  | nil =>
      simpa [put] using member
  | cons item rest inductionHypothesis =>
      obtain ⟨present, held⟩ := item
      unfold put at member
      split at member
      · exact .inr member
      · rcases List.mem_cons.mp member with rfl | later
        · exact .inr (List.mem_cons_self ..)
        · exact (inductionHypothesis later).imp_right
            (List.mem_cons_of_mem _)

/-- An entry under a new key is put behind the entries in front. -/
theorem put_append_of_not_mem
    (isExact : ExactKey wanted)
    (fresh : wanted ∉ entries.map Prod.fst)
    (value : entry)
    (rest : List (key × entry)) :
    put wanted value (entries ++ rest) =
      entries ++ put wanted value rest := by
  induction entries with
  | nil =>
      rfl
  | cons item others inductionHypothesis =>
      obtain ⟨present, held⟩ := item
      simp only [List.map_cons, List.mem_cons, not_or] at fresh
      simp [put, isExact present, Ne.symm fresh.1,
        inductionHypothesis fresh.2]

/-- An entry that is put is kept or left out with its key. -/
theorem filter_put
    (isExact : ExactKey wanted)
    (kept : key → Bool)
    (value : entry)
    (entries : List (key × entry)) :
    (put wanted value entries).filter (kept ·.1) =
      if kept wanted then
        put wanted value (entries.filter (kept ·.1))
      else
        entries.filter (kept ·.1) := by
  induction entries with
  | nil =>
      cases isKept : kept wanted <;> simp [put, isKept]
  | cons item rest inductionHypothesis =>
      obtain ⟨present, held⟩ := item
      by_cases same : present = wanted
      · subst same
        cases isKept : kept present <;>
          simp [put, (isExact _).mpr rfl, isKept]
      · cases isKept : kept present <;>
          cases wantedKept : kept wanted <;>
          simp [put, isExact present, same, isKept, wantedKept,
            inductionHypothesis]

/-- Leaving out other keys changes nothing under a key that is kept. -/
theorem lookup_filter
    (isExact : ExactKey wanted)
    {kept : key → Bool}
    (isKept : kept wanted = true)
    (entries : List (key × entry)) :
    lookup wanted (entries.filter (kept ·.1)) = lookup wanted entries := by
  induction entries with
  | nil =>
      rfl
  | cons item rest inductionHypothesis =>
      obtain ⟨present, held⟩ := item
      by_cases same : present = wanted
      · subst same
        simp [lookup, isKept, (isExact _).mpr rfl]
      · cases presentKept : kept present <;>
          simp [lookup, presentKept, isExact present, same,
            inductionHypothesis]

/-- Changing what is held changes what is found, and nothing else. -/
theorem lookup_map
    {other : Type}
    (view : entry → other)
    (wanted : key)
    (entries : List (key × entry)) :
    lookup wanted (entries.map fun item => (item.1, view item.2)) =
      (lookup wanted entries).map view := by
  induction entries with
  | nil =>
      rfl
  | cons item rest inductionHypothesis =>
      obtain ⟨present, held⟩ := item
      simp only [List.map_cons, lookup, inductionHypothesis]
      split <;> rfl

/-- Putting what is held already changes nothing. -/
theorem put_of_lookup
    (isExact : ExactKey wanted)
    (found : lookup wanted entries = some value) :
    put wanted value entries = entries := by
  induction entries with
  | nil =>
      cases found
  | cons item rest inductionHypothesis =>
      obtain ⟨present, held⟩ := item
      by_cases same : present = wanted
      · subst same
        simp only [lookup, (isExact _).mpr rfl, ↓reduceIte,
          Option.some.injEq] at found
        simp [put, (isExact _).mpr rfl, found]
      · simp only [lookup, isExact present, same, ↓reduceIte] at found
        simp [put, isExact present, same, inductionHypothesis found]

/-- An entry after one was put under an exact key is an old one or that one. -/
theorem eq_of_mem_put
    (isExact : ExactKey wanted)
    {item : key × entry}
    (member : item ∈ put wanted value entries) :
    item ∈ entries ∨ item = (wanted, value) := by
  induction entries with
  | nil =>
      exact .inr (List.mem_singleton.mp member)
  | cons first rest inductionHypothesis =>
      obtain ⟨present, held⟩ := first
      unfold put at member
      split at member
      case isTrue same =>
        cases (isExact present).mp same
        rcases List.mem_cons.mp member with isNew | old
        · exact .inr isNew
        · exact .inl (List.mem_cons_of_mem _ old)
      case isFalse =>
        rcases List.mem_cons.mp member with isFirst | later
        · exact .inl (List.mem_cons.mpr (.inl isFirst))
        · exact (inductionHypothesis later).imp_left
            (List.mem_cons_of_mem _)

/-- Changing what is held and putting a value go in either order. -/
theorem put_map_values
    {other : Type}
    (view : entry → other)
    (wanted : key)
    (value : entry)
    (entries : List (key × entry)) :
    put wanted (view value)
        (entries.map fun item => (item.1, view item.2)) =
      (put wanted value entries).map fun item => (item.1, view item.2) := by
  induction entries with
  | nil =>
      rfl
  | cons item rest inductionHypothesis =>
      obtain ⟨present, held⟩ := item
      simp only [List.map_cons, put, inductionHypothesis]
      split <;> rfl

end Entries

/-- Entries under keys of their own are found in a row as they are found apart. -/
theorem lookup_flatMap_iff
    {part entry : Type}
    {entries : part → List (String × entry)}
    {parts : List part}
    (apart :
      parts.Pairwise fun first second =>
        ∀ key ∈ (entries first).map Prod.fst,
          key ∉ (entries second).map Prod.fst)
    (wanted : String)
    (held : entry) :
    lookup wanted (parts.flatMap entries) = some held ↔
      ∃ part ∈ parts, lookup wanted (entries part) = some held := by
  induction parts with
  | nil =>
      simp [lookup]
  | cons leading rest inductionHypothesis =>
      rw [List.pairwise_cons] at apart
      simp only [List.flatMap_cons, List.mem_cons, exists_eq_or_imp]
      cases found : lookup wanted (entries leading) with
      | none =>
          have fresh :=
            (lookup_eq_none_iff (.of_lawful wanted)).mp found
          rw [lookup_append_of_not_mem (.of_lawful _) fresh,
            inductionHypothesis apart.2]
          simp
      | some present =>
          rw [lookup_append_of_some found]
          constructor
          · exact .inl
          · rintro (same | ⟨other, isRest, foundThere⟩)
            · exact same
            · exact
                (apart.1 other isRest wanted
                  (mem_keys_of_lookup (.of_lawful _) found)
                  (mem_keys_of_lookup (.of_lawful _) foundThere)).elim

namespace Value

/-- What a mapping holds under a key. -/
def at?
    (mapping key : Value) : Option Value :=
  match mapping with
  | .dict entries => lookup key entries
  | _ => none

/-- A record holds its entries under their texts. -/
theorem at?_record
    (entries : List (String × Value))
    (wanted : String) :
    (record entries).at? (.text wanted) = lookup wanted entries := by
  change
    lookup (Value.text wanted)
        (entries.map fun entry => (.text entry.1, entry.2)) =
      lookup wanted entries
  induction entries with
  | nil =>
      rfl
  | cons entry rest inductionHypothesis =>
      obtain ⟨present, held⟩ := entry
      simp only [List.map_cons, lookup, text_beq_text, inductionHypothesis]

end Value

end FormCheck
