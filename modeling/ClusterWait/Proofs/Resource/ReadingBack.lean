import ClusterWait.Proofs.Json.Settled
import ClusterWait.Proofs.Resource.Timestamps
import ClusterWait.Resource.Metadata

/-! # Reading back what was written

What a record holds apart from texts, truth values and other records are its *leaves*: timestamps,
integers and documents that are kept as they are. `Leaf.Sound` is what is true of all leaves that were
read, `Leaf.Dated` and `Leaf.Whole` are what timestamps need to be read back, and to be read back as they
are.

`ReadsBack` says that a decoder and an encoder fit together: what is written is read back exactly if its
leaves are dated, and then with fractions of seconds cut. It holds of the values that members have, of
lists of what it holds of, and it is put together for a record from the members: a `Writing` is the
members of a record as they are written, and `lenient_fields`, `required_record`, `withDefault_record`,
`orAbsent_record` and `nullable_record` say what each kind of member is read from. `Plain` is said of
values without leaves, which are read back in any case. -/

namespace ClusterWait

/-! ### Leaves -/

/-- **What a record holds** apart from texts, truth values and other records. -/
inductive Leaf where
  | time (t : Timestamp)
  | number (bits : Nat) (n : Int)
  | document (v : Json)

namespace Leaf

/-- **A leaf that can be held:** a timestamp that can be told, an integer that has room in its bits, a
settled document that is not null. -/
def Sound : Leaf → Prop
  | time t => t.Told
  | number bits n => -(Nat.pow 2 (bits - 1) : Int) ≤ n ∧ n < Nat.pow 2 (bits - 1)
  | document v => v.Settled ∧ v ≠ .null

/-- A timestamp has a year that is not below zero. -/
def Dated : Leaf → Prop
  | time t => 0 ≤ t.year
  | _ => True

/-- A timestamp has whole seconds. -/
def Whole : Leaf → Prop
  | time t => t.nanosecond = 0
  | _ => True

end Leaf

/-- The leaves of a value that may be absent. -/
def within {α : Type} (leaves : α → List Leaf) (v : Option α) : List Leaf := (v.map leaves).getD []

/-! ### Decoders and encoders that fit together -/

/-- **The value is recovered exactly if the leaves are dated.** -/
def Recovers {β : Type} (found : Option β) (leaves : List Leaf) (v : β) : Prop :=
  ∀ u, found = some u ↔ (∀ l ∈ leaves, l.Dated) ∧ u = v

section Recovers
variable {α β : Type} {found : Option α} {xs ys : List Leaf} {v : α} {w : β}

/-- Something is recovered as it is, if its leaves are dated in any case. -/
theorem Recovers.of_dated (h : ∀ l ∈ xs, l.Dated) : Recovers (some v) xs v := fun _ =>
  ⟨fun hu => ⟨h, (Option.some.inj hu).symm⟩, fun hu => congrArg some hu.2.symm⟩

theorem Recovers.map (h : Recovers found xs v) (f : α → β) : Recovers (found.map f) xs (f v) := by
  intro u
  rw [Option.map_eq_some_iff]
  constructor
  · rintro ⟨v', hv, rfl⟩
    obtain ⟨hdated, rfl⟩ := (h v').mp hv
    exact ⟨hdated, rfl⟩
  · rintro ⟨hdated, rfl⟩
    exact ⟨v, (h v).mpr ⟨hdated, rfl⟩, rfl⟩

/-- The last part. -/
theorem Recovers.last (h : Recovers found xs v) (f : α → β) :
    Recovers (found >>= fun v => some (f v)) xs (f v) := by
  have hmap := h.map f
  rwa [Option.map_eq_bind] at hmap

/-- **One part after another.** -/
theorem Recovers.bind {f : α → Option β} (h : Recovers found xs v) (hf : Recovers (f v) ys w) :
    Recovers (found >>= f) (xs ++ ys) w := by
  intro u
  rw [bind_eq_some, List.forall_mem_append]
  constructor
  · rintro ⟨v', hv, hu⟩
    obtain ⟨hxs, rfl⟩ := (h v').mp hv
    obtain ⟨hys, rfl⟩ := (hf u).mp hu
    exact ⟨⟨hxs, hys⟩, rfl⟩
  · rintro ⟨⟨hxs, hys⟩, rfl⟩
    exact ⟨v, (h v).mpr ⟨hxs, rfl⟩, (hf _).mpr ⟨hys, rfl⟩⟩

end Recovers

/-- **What is written is read back.** -/
structure ReadsBack {α : Type} (decode : Decoder α) (encode : α → Json) (truncated : α → α)
    (leaves : α → List Leaf) : Prop where
  /-- It is read back exactly if all is dated, and then with whole seconds. -/
  reads : ∀ x, (∀ l ∈ leaves x, l.Sound) → Recovers (decode (encode x)) (leaves x) (truncated x)
  /-- It is not null, which would be its absence. -/
  ne_null : ∀ x, (∀ l ∈ leaves x, l.Sound) → encode x ≠ .null
  /-- Fractions of seconds are not written. -/
  writes : ∀ x, encode (truncated x) = encode x
  /-- What is read can be held. -/
  sound : ∀ j x, j ≠ .null → decode j = some x → ∀ l ∈ leaves x, l.Sound
  /-- Whole seconds are not cut. -/
  whole : ∀ x, (∀ l ∈ leaves x, l.Whole) → truncated x = x

/-- **All that is written is read back as it is.** -/
structure Plain {α : Type} (decode : Decoder α) (encode : α → Json) : Prop where
  reads : ∀ x, decode (encode x) = some x
  ne_null : ∀ x, encode x ≠ .null

/-- What is read of a member that may be missing or null. -/
def Decoder.ofMember {α : Type} (value : Decoder α) : Option Json → Option (Option α)
  | none => some none
  | some j => value.orNull j

section Optional
variable {α : Type} {decode : Decoder α} {encode : α → Json} {truncated : α → α}
  {leaves : α → List Leaf}

theorem orNull_of_ne_null {j : Json} (h : j ≠ .null) : decode.orNull j = (decode j).map some := by
  cases j <;> first | rfl | exact absurd rfl h

/-- A value that may be absent is read back as it is. -/
theorem Plain.optional (h : Plain decode encode) (v : Option α) :
    decode.ofMember (v.map encode) = some v := by
  cases v with
  | none => rfl
  | some x =>
    rw [Option.map_some, Decoder.ofMember, orNull_of_ne_null (h.ne_null x), h.reads x]
    rfl

theorem within_some (x : α) : within leaves (some x) = leaves x := rfl

namespace ReadsBack

variable (h : ReadsBack decode encode truncated leaves)
include h

/-- A value that may be absent is read back exactly if all in it is dated. -/
theorem optional {v : Option α} (hs : ∀ l ∈ within leaves v, l.Sound) :
    Recovers (decode.ofMember (v.map encode)) (within leaves v) (v.map truncated) := by
  cases v with
  | none => exact .of_dated nofun
  | some x =>
    rw [within_some] at hs ⊢
    rw [Option.map_some, Decoder.ofMember, orNull_of_ne_null (h.ne_null x hs)]
    exact (h.reads x hs).map some

theorem optional_writes (v : Option α) : (v.map truncated).map encode = v.map encode := by
  cases v with
  | none => rfl
  | some x => exact congrArg some (h.writes x)

theorem optional_whole {v : Option α} (hw : ∀ l ∈ within leaves v, l.Whole) :
    v.map truncated = v := by
  cases v with
  | none => rfl
  | some x => exact congrArg some (h.whole x hw)

/-- What is read of a value that may be null can be held. -/
theorem sound_of_orNull {j : Json} {v : Option α} (hj : decode.orNull j = some v) :
    ∀ l ∈ within leaves v, l.Sound := by
  by_cases hnull : j = .null
  · subst hnull
    cases hj
    nofun
  · rw [orNull_of_ne_null hnull, Option.map_eq_some_iff] at hj
    obtain ⟨x, hx, rfl⟩ := hj
    exact h.sound j x hnull hx

/-! ### Lists -/

theorem mapM_reads {xs : List α} (hs : ∀ l ∈ xs.flatMap leaves, l.Sound) :
    Recovers ((xs.map encode).mapM decode) (xs.flatMap leaves) (xs.map truncated) := by
  induction xs with
  | nil => exact .of_dated nofun
  | cons x xs ih =>
    rw [List.flatMap_cons, List.forall_mem_append] at hs
    rw [List.map_cons, List.mapM_cons, List.map_cons, List.flatMap_cons]
    exact (h.reads x hs.1).bind ((ih hs.2).last (truncated x :: ·))

/-- **A list of values.** -/
theorem list (hnull : decode .null = none) : ReadsBack decode.list
    (fun xs => .arr (xs.map encode)) (List.map truncated) (List.flatMap leaves) where
  reads _ hs := h.mapM_reads hs
  ne_null _ _ := nofun
  writes xs := by
    rw [List.map_map]
    exact congrArg Json.arr (List.map_congr_left fun x _ => h.writes x)
  sound j xs _ hj := by
    cases j with
    | arr items =>
      intro l hl
      obtain ⟨x, hx, hl⟩ := List.mem_flatMap.mp hl
      obtain ⟨item, -, hitem⟩ := exists_of_mem_mapM_eq_some hj hx
      refine h.sound item x (fun hitem' => ?_) hitem l hl
      rw [hitem', hnull] at hitem
      cases hitem
    | _ => cases hj
  whole xs hw := by
    have hid : xs.map truncated = xs.map id := List.map_congr_left fun x hx =>
      h.whole x fun l hl => hw l (List.mem_flatMap.mpr ⟨x, hx, hl⟩)
    rw [hid, List.map_id]

end ReadsBack

/-- A value without timestamps, that may be absent. -/
theorem ReadsBack.optional_id (h : ReadsBack decode encode id leaves) {v : Option α}
    (hs : ∀ l ∈ within leaves v, l.Sound) :
    Recovers (decode.ofMember (v.map encode)) (within leaves v) v := by
  have hv := h.optional hs
  rwa [Option.map_id, id] at hv

theorem Plain.list (h : Plain decode encode) :
    Plain decode.list fun xs => .arr (xs.map encode) where
  reads xs := by
    have hitems : (xs.map encode).mapM decode = some xs := by
      rw [mapM_eq_some_iff, List.forall₂_map_left_iff, List.forall₂_same]
      exact fun x _ => h.reads x
    exact hitems
  ne_null _ := nofun

end Optional

/-! ### The values of members -/

-- Where a record is read, `simp` has to leave the binds as they are (`-Option.bind_eq_bind`): what
-- follows a part is simplified under what is known of that part otherwise, and so once more for each.
@[simp] theorem some_bind {α β : Type} (x : α) (f : α → Option β) : (some x >>= f) = f x := rfl

theorem plain_text : Plain Decoder.text .str := ⟨fun _ => rfl, nofun⟩

theorem plain_flag : Plain Decoder.flag .bool := ⟨fun _ => rfl, nofun⟩

@[simp] theorem text_str (s : String) : Decoder.text (.str s) = some s := rfl

@[simp] theorem ofMember_some_str (s : String) :
    Decoder.text.ofMember (some (.str s)) = some (some s) := rfl

@[simp] theorem ofMember_text (v : Option String) :
    Decoder.text.ofMember (v.map Json.str) = some v := plain_text.optional v

@[simp] theorem ofMember_flag (v : Option Bool) :
    Decoder.flag.ofMember (v.map Json.bool) = some v := plain_flag.optional v

theorem plain_texts : Plain Decoder.text.list Json.ofTexts := plain_text.list

@[simp] theorem ofMember_texts (v : Option (List String)) :
    Decoder.text.list.ofMember (v.map Json.ofTexts) = some v := plain_texts.optional v

/-- Labels are in order. -/
theorem plain_labels : Plain Decoder.text.dictionary Json.ofLabels where
  reads d := by
    have hitems : (d.entries.map fun e => (e.1, Json.str e.2)).mapM
        (fun f => (Decoder.text f.2).map fun v => (f.1, v)) = some d.entries := by
      rw [mapM_eq_some_iff, List.forall₂_map_left_iff, List.forall₂_same]
      exact fun e _ => rfl
    rw [Json.ofLabels, Decoder.dictionary, hitems, Option.map_some, Dictionary.ofList_entries]
  ne_null _ := nofun

@[simp] theorem ofMember_labels (v : Option (Dictionary String)) :
    Decoder.text.dictionary.ofMember (v.map Json.ofLabels) = some v := plain_labels.optional v

theorem readsBack_timestamp :
    ReadsBack Timestamp.decode Timestamp.encode Timestamp.truncated fun t => [.time t] where
  reads t hs := by
    have htold : t.Told := hs _ List.mem_cons_self
    have hdecode : Timestamp.decode t.encode = Timestamp.read? t.render := by
      rw [Timestamp.decode, Timestamp.encode, Json.text?, Option.bind_some]
    rw [hdecode]
    by_cases h₀ : 0 ≤ t.year
    · rw [Timestamp.read?_render_of_nonneg htold h₀]
      exact .of_dated (List.forall_mem_singleton.mpr h₀)
    · rw [Timestamp.read?_render_of_neg htold (Int.not_le.mp h₀)]
      exact fun u => ⟨nofun, fun hu => absurd (hu.1 _ List.mem_cons_self) h₀⟩
  ne_null _ _ := nofun
  writes t := congrArg Json.str t.render_truncated
  sound j t _ hj := by
    obtain ⟨s, -, hs⟩ := Option.bind_eq_some_iff.mp hj
    exact List.forall_mem_singleton.mpr (Timestamp.told_of_read? hs)
  whole t hw := by
    have hzero : t.nanosecond = 0 := hw _ List.mem_cons_self
    rw [Timestamp.truncated, ← hzero]

theorem readsBack_int (bits : Nat) :
    ReadsBack (Decoder.int bits) Json.ofInt id fun n => [.number bits n] where
  reads n hs := by
    have hrange : -(Nat.pow 2 (bits - 1) : Int) ≤ n ∧ n < Nat.pow 2 (bits - 1) :=
      hs _ List.mem_cons_self
    have hread : Decoder.int bits (Json.ofInt n) = some n :=
      Option.filter_eq_some_iff.mpr ⟨rfl, decide_eq_true hrange⟩
    rw [hread]
    exact .of_dated (List.forall_mem_singleton.mpr trivial)
  ne_null _ _ := nofun
  writes _ := rfl
  sound j n _ hj := by
    have hrange : -(Nat.pow 2 (bits - 1) : Int) ≤ n ∧ n < Nat.pow 2 (bits - 1) :=
      of_decide_eq_true (Option.filter_eq_some_iff.mp hj).2
    exact List.forall_mem_singleton.mpr hrange
  whole _ _ := rfl

/-- A document that is kept as it is. -/
theorem readsBack_any : ReadsBack Decoder.any id id fun v => [.document v] where
  reads v hs := by
    have hsettled : v.settled? = some v := (hs _ List.mem_cons_self).1
    have hread : Decoder.any (id v) = some v := hsettled
    rw [hread]
    exact .of_dated (List.forall_mem_singleton.mpr trivial)
  ne_null _ hs := (hs _ List.mem_cons_self).2
  writes _ := rfl
  sound j v hnull hj := by
    have hj : j.settled? = some v := hj
    refine List.forall_mem_singleton.mpr ⟨Json.settled?_of_settled? hj, ?_⟩
    rintro rfl
    exact hnull (Json.eq_null_of_settled? hj)
  whole _ _ := rfl

theorem recovers_document {v : Option Json}
    (hs : ∀ l ∈ within (fun v => [.document v]) v, l.Sound) :
    Recovers (Decoder.any.ofMember v) (within (fun v => [.document v]) v) v := by
  have hv := readsBack_any.optional_id hs
  rwa [Option.map_id, id] at hv

/-! ### The members of a written record -/

/-- **The members of a record as they are written,** some of them absent. No key is there twice. -/
structure Writing where
  members : List (String × Option Json)
  distinct : (members.map Prod.fst).Nodup

/-- The member of a key, if it is present. -/
@[simp] def member (key : String) : List (String × Option Json) → Option Json
  | [] => none
  | (k, v) :: rest => if k = key then v else member key rest

/-- The members that are present. -/
def present (fs : List (String × Option Json)) : List (String × Json) :=
  fs.filterMap fun f => f.2.map fun v => (f.1, v)

section Present
variable {fs : List (String × Option Json)} {key : String}

theorem present_cons (k : String) (v : Option Json) :
    present ((k, v) :: fs) = (v.map fun j => (k, j)).toList ++ present fs := by
  cases v <;> rfl

theorem occurrences_of_notMem (h : key ∉ fs.map Prod.fst) : Json.occurrences key (present fs) = [] := by
  induction fs with
  | nil => rfl
  | cons f rest ih =>
    obtain ⟨k, v⟩ := f
    rw [List.map_cons, List.mem_cons, not_or] at h
    have hk : k ≠ key := fun hk => h.1 hk.symm
    rw [present_cons]
    cases v with
    | none => exact ih h.2
    | some j =>
      rw [Option.map_some, Option.toList_some, List.singleton_append, Json.occurrences, if_neg hk]
      exact ih h.2

/-- **Keys that are distinct occur at most once.** -/
theorem occurrences_present (hn : (fs.map Prod.fst).Nodup) (key : String) :
    Json.occurrences key (present fs) = (member key fs).toList := by
  induction fs with
  | nil => rfl
  | cons f rest ih =>
    obtain ⟨k, v⟩ := f
    obtain ⟨hk, hrest⟩ := List.nodup_cons.mp hn
    rw [present_cons, member]
    by_cases heq : k = key
    · subst heq
      rw [if_pos rfl]
      cases v with
      | none => exact occurrences_of_notMem hk
      | some j =>
        rw [Option.map_some, Option.toList_some, List.singleton_append, Json.occurrences, if_pos rfl,
          occurrences_of_notMem hk]
        rfl
    · rw [if_neg heq]
      cases v with
      | none => exact ih hrest
      | some j =>
        rw [Option.map_some, Option.toList_some, List.singleton_append, Json.occurrences, if_neg heq]
        exact ih hrest

theorem lookup_eq_head? (fields : List (String × Json)) :
    Json.lookup key fields = (Json.occurrences key fields).head? := by
  induction fields with
  | nil => rfl
  | cons f rest ih =>
    obtain ⟨k, v⟩ := f
    rw [Json.lookup, Json.occurrences]
    split
    · rfl
    · exact ih

end Present

namespace Writing

def fields (w : Writing) : List (String × Json) := present w.members

def record (w : Writing) : Members := ⟨w.fields, false⟩

section Members
variable {α : Type} (w : Writing) (value : Decoder α) (key : String)

theorem occurrences_fields : Json.occurrences key w.fields = (member key w.members).toList :=
  occurrences_present w.distinct key

theorem lookup_fields : Json.lookup key w.fields = member key w.members := by
  rw [lookup_eq_head?, occurrences_fields]
  cases member key w.members <;> rfl

/-- **A member of a lenient record.** -/
@[simp] theorem lenient_fields : value.lenient key w.fields = value.ofMember (member key w.members) := by
  rw [Decoder.lenient, occurrences_fields]
  cases member key w.members with
  | none => rfl
  | some j =>
    rw [Option.toList_some, List.mapM_cons, List.mapM_nil, Decoder.ofMember]
    cases value.orNull j <;> rfl

/-! The members of a strict record, by how they are read. -/

@[simp] theorem required_record : w.record.required key value = (member key w.members >>= value) :=
  congrArg (· >>= value) (w.lookup_fields key)

@[simp] theorem withDefault_record (default : α) :
    w.record.withDefault key default value = (member key w.members).elim (some default) value := by
  rw [Members.withDefault, record, lookup_fields]
  cases member key w.members <;> rfl

@[simp] theorem orAbsent_record :
    w.record.orAbsent key value = value.ofMember (member key w.members) := by
  rw [Members.orAbsent, withDefault_record]
  cases member key w.members <;> rfl

@[simp] theorem nullable_record :
    w.record.nullable key value = value.ofMember (member key w.members) :=
  w.orAbsent_record value key

end Members

/-- **A lenient record is read** from the members that were written. -/
theorem object_ofFields {α : Type} {read : List (String × Json) → Option α}
    {fs : List (String × Option Json)} (hn : (fs.map Prod.fst).Nodup) :
    Decoder.object read (Json.ofFields fs) = read (fields ⟨fs, hn⟩) := rfl

/-- **A strict record is read** from the members that were written. -/
theorem of?_ofFields {keys : List String} {fs : List (String × Option Json)}
    (hn : (fs.map Prod.fst).Nodup) : Members.of? keys (Json.ofFields fs) = some (record ⟨fs, hn⟩) := by
  have hall : (keys.all fun key => (Json.occurrences key (present fs)).length ≤ 1) = true := by
    rw [List.all_eq_true]
    intro key _
    rw [occurrences_present hn]
    cases member key fs <;> rfl
  exact if_pos hall

end Writing

/-! ### The members of a record that is read -/

section Read
variable {α : Type} {decode : Decoder α} {encode : α → Json} {truncated : α → α}
  {leaves : α → List Leaf} (h : ReadsBack decode encode truncated leaves) {key : String}
include h

theorem ReadsBack.sound_of_lenient {fields : List (String × Json)} {v : Option α}
    (hv : decode.lenient key fields = some v) : ∀ l ∈ within leaves v, l.Sound := by
  obtain ⟨found, hfound, rfl⟩ := Option.map_eq_some_iff.mp hv
  cases hlast : found.getLast? with
  | none => nofun
  | some u =>
    obtain ⟨j, -, hj⟩ := exists_of_mem_mapM_eq_some hfound (List.mem_of_getLast? hlast)
    exact h.sound_of_orNull hj

variable {m : Members}

theorem ReadsBack.sound_of_required (hnull : decode .null = none) {x : α}
    (hx : m.required key decode = some x) : ∀ l ∈ leaves x, l.Sound := by
  obtain ⟨j, -, hj⟩ := Option.bind_eq_some_iff.mp hx
  refine h.sound j x (fun hj' => ?_) hj
  rw [hj', hnull] at hj
  cases hj

theorem ReadsBack.sound_of_withDefault (hnull : decode .null = none) {default x : α}
    (hdefault : ∀ l ∈ leaves default, l.Sound) (hx : m.withDefault key default decode = some x) :
    ∀ l ∈ leaves x, l.Sound := by
  unfold Members.withDefault at hx
  split at hx
  · cases hx
    exact hdefault
  · rename_i j _
    refine h.sound j x (fun hj' => ?_) hx
    rw [hj', hnull] at hx
    cases hx

theorem ReadsBack.sound_of_orAbsent {v : Option α} (hv : m.orAbsent key decode = some v) :
    ∀ l ∈ within leaves v, l.Sound := by
  unfold Members.orAbsent Members.withDefault at hv
  split at hv
  · cases hv
    intro l hl
    cases hl
  · exact h.sound_of_orNull hv

theorem ReadsBack.sound_of_nullable {v : Option α} (hv : m.nullable key decode = some v) :
    ∀ l ∈ within leaves v, l.Sound := by
  unfold Members.nullable at hv
  split at hv
  · obtain ⟨j, -, hj⟩ := Option.bind_eq_some_iff.mp hv
    exact h.sound_of_orNull hj
  · exact h.sound_of_orAbsent hv

end Read

end ClusterWait
