import ClusterWait.Proofs.Events.Tally

/-! # A message marks only the group that it names

The groups that are expected are compared with the beginning of a message, one by one. No two names
without blanks pass: the first word after the opening of the message is the name
(`Announces.unique`). So a message marks one group at most, also where the name of a group begins with
the name of another (`ScaledGroups.observe_marksOnly`). -/

namespace ClusterWait

/-- The name in a message stands between one of two openings and a blank. -/
theorem Announces.words {message name : String} (h : Announces message name) : ∃ rest,
    message.toList = "Scale-up: group ".toList ++ (name.toList ++ ' ' :: rest) ∨
      message.toList = "Scale-up: setting group ".toList ++ (name.toList ++ ' ' :: rest) := by
  rcases h with ⟨rest, hrest⟩ | ⟨rest, hrest⟩
  · exact ⟨"size set to".toList ++ rest, Or.inl (by rw [← hrest]; simp)⟩
  · exact ⟨"size".toList ++ rest, Or.inr (by rw [← hrest]; simp)⟩

theorem takeWhile_word {word : List Char} (h : ' ' ∉ word) (rest : List Char) :
    (word ++ ' ' :: rest).takeWhile (· ≠ ' ') = word := by
  have hword : ∀ c ∈ word, decide (c ≠ ' ') = true := fun c hc => by
    simpa using ne_of_mem_of_not_mem hc h
  rw [List.takeWhile_append_of_pos hword, List.takeWhile_cons_of_neg (by simp), List.append_nil]

theorem name_unique {opening rest rest' : List Char} {name name' : String} (h : ' ' ∉ name.toList)
    (h' : ' ' ∉ name'.toList)
    (heq : opening ++ (name.toList ++ ' ' :: rest) = opening ++ (name'.toList ++ ' ' :: rest')) :
    name = name' := by
  have hwords := congrArg (List.takeWhile (· ≠ ' ')) (List.append_cancel_left heq)
  rw [takeWhile_word h, takeWhile_word h'] at hwords
  exact String.toList_inj.mp hwords

/-- The two openings differ before the name. -/
theorem opening_ne {rest rest' : List Char} :
    "Scale-up: group ".toList ++ rest ≠ "Scale-up: setting group ".toList ++ rest' := fun h => by
  have hletter := congrArg (fun cs => cs[10]?) h
  cases hletter

/-- **A message names one group only** of those whose names have no blanks in them. -/
theorem Announces.unique {message name name' : String} (h : Announces message name)
    (h' : Announces message name') (hname : ' ' ∉ name.toList) (hname' : ' ' ∉ name'.toList) :
    name = name' := by
  -- after one opening there is one name, and the two openings are not those of one message
  obtain ⟨rest, hw | hw⟩ := h.words
  · obtain ⟨rest', hw' | hw'⟩ := h'.words
    · exact name_unique hname hname' (hw.symm.trans hw')
    · exact absurd (hw.symm.trans hw') opening_ne
  · obtain ⟨rest', hw' | hw'⟩ := h'.words
    · exact absurd (hw'.symm.trans hw) opening_ne
    · exact name_unique hname hname' (hw.symm.trans hw')

namespace ScaledGroups

/-- **The message raises the flag of the group,** which was not raised before. -/
def Marks (g : ScaledGroups) (message name : String) : Prop :=
  g.flags.get? name = some false ∧ (g.observe message).flags.get? name = some true

theorem get?_observe (g : ScaledGroups) (message name : String) :
    (g.observe message).flags.get? name =
      (g.flags.get? name).map (· || namesGroup message name) :=
  Dictionary.get?_map _ _

theorem marks_iff {g : ScaledGroups} {message name : String} :
    g.Marks message name ↔ g.flags.get? name = some false ∧ Announces message name := by
  rw [Marks, get?_observe, ← namesGroup_iff]
  refine and_congr_right fun h => ?_
  rw [h, Option.map_some, Bool.false_or, Option.some_inj]

/-- **A message marks only the group that it names.** -/
structure MarksOnly (g : ScaledGroups) (message : String) : Prop where
  /-- The groups are the same as before, -/
  keys : (g.observe message).flags.keys = g.flags.keys
  /-- and a flag that was raised remains so. -/
  raised (name : String) : g.isScaled name = true → (g.observe message).isScaled name = true
  /-- A group is marked if it was not before, and the message begins with its announcement; -/
  marks_iff (name : String) :
    g.Marks message name ↔ g.flags.get? name = some false ∧ Announces message name
  /-- no two groups are. -/
  single (name name' : String) : g.Marks message name → g.Marks message name' → name = name'
  /-- A message that names a group marks it, if it is expected, and changes the flag of no other. -/
  named (name : String) : ' ' ∉ name.toList → Announces message name →
    (name ∈ g.flags.keys → (g.observe message).isScaled name = true) ∧
      ∀ other, other ≠ name → (g.observe message).flags.get? other = g.flags.get? other

theorem isScaled_observe {g : ScaledGroups} {message name : String} :
    (g.observe message).isScaled name = true ↔
      g.isScaled name = true ∨ name ∈ g.flags.keys ∧ Announces message name := by
  rw [isScaled, isScaled, get?_observe, Dictionary.mem_keys_iff, ← namesGroup_iff]
  cases g.flags.get? name <;> simp

/-- **Of groups without blanks in their names a message marks only the one that it names.** -/
theorem observe_marksOnly {g : ScaledGroups} (hnames : ∀ name ∈ g.flags.keys, ' ' ∉ name.toList)
    (message : String) : g.MarksOnly message where
  keys := List.map_map
  raised name h := isScaled_observe.mpr (Or.inl h)
  marks_iff name := marks_iff
  single name name' h h' := by
    have hkey : ∀ n, g.Marks message n → n ∈ g.flags.keys := fun n hn =>
      Dictionary.mem_keys_iff.mpr (by rw [hn.1, Option.isSome_some])
    exact (marks_iff.mp h).2.unique (marks_iff.mp h').2 (hnames _ (hkey name h))
      (hnames _ (hkey name' h'))
  named name hname h := by
    refine ⟨fun hmem => isScaled_observe.mpr (Or.inr ⟨hmem, h⟩), fun other hother => ?_⟩
    rw [get?_observe]
    cases hflag : g.flags.get? other with
    | none => rfl
    | some scaled =>
      have hexpected : other ∈ g.flags.keys :=
        Dictionary.mem_keys_iff.mpr (by rw [hflag, Option.isSome_some])
      have hother' : namesGroup message other = false :=
        Bool.eq_false_iff.mpr fun hn => hother
          ((namesGroup_iff.mp hn).unique h (hnames other hexpected) hname)
      rw [Option.map_some, hother', Bool.or_false]

/-- Three groups, the name of each of which begins with that of the one before, and one that is
marked already. -/
theorem observe_marksOnly_nested :
    let g : ScaledGroups :=
      ⟨.ofList [("pool", false), ("pool-a", false), ("pool-ab", false), ("size", true)]⟩
    (∀ name ∈ g.flags.keys, ' ' ∉ name.toList) ∧
      g.MarksOnly "Scale-up: setting group pool-a size to 3" := by
  intro g
  have hnames : ∀ name ∈ g.flags.keys, ' ' ∉ name.toList := by decide
  exact ⟨hnames, observe_marksOnly hnames _⟩

end ScaledGroups

end ClusterWait
