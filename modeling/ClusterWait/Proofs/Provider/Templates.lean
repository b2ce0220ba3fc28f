import ClusterWait.Cluster.TestSet
import ClusterWait.Proofs.Json.Settled
import ClusterWait.Proofs.Reading

/-! # Other types of machine

A provider that names the type of a machine writes it under one key of the document that describes the
machine. To ask for another type is to set that member (`withInstanceType_eq_ok_iff`), so that nothing
else is changed (`Retyped`), the zone least of all, which stands under another key
(`zone_eq_of_retyped`), and the type that is set last is the one that counts
(`withInstanceType_withInstanceType`).

The other types that may be tried are those of a table. `alternatives_change_type_only` says what this
comes to for the sets of a test. -/

namespace ClusterWait

namespace Json

variable {key : String} {value : Json} {document document' : Json} {fields : List (String × Json)}

/-! ### Setting a member -/

theorem lookup_insert {k : String} :
    lookup k (insert key value fields) = if key = k then some value else lookup k fields := by
  have hfind (fields : List (String × Json)) : lookup k fields = Dictionary.find? k fields := by
    induction fields with
    | nil => rfl
    | cons f rest ih =>
      obtain ⟨k', v⟩ := f
      rw [lookup, Dictionary.find?, ih]
  rw [hfind, hfind, insert_eq_insertEntry, Dictionary.find?_insertEntry]

/-- What is set last counts. -/
theorem insert_insert {value' : Json} :
    insert key value' (insert key value fields) = insert key value' fields := by
  have hself : ¬ key < key := String.lt_irrefl key
  induction fields with
  | nil => rw [insert, insert, insert, if_neg hself, if_pos rfl]
  | cons f rest ih =>
    obtain ⟨k, v⟩ := f
    rw [insert, insert]
    by_cases hlt : key < k
    · rw [if_pos hlt, if_pos hlt, insert, if_neg hself, if_pos rfl]
    · rw [if_neg hlt, if_neg hlt]
      by_cases heq : key = k
      · rw [if_pos heq, if_pos heq, insert, if_neg hself, if_pos rfl]
      · rw [if_neg heq, if_neg heq, insert, if_neg hlt, if_neg heq, ih]

theorem set?_eq_some_iff : document.set? key value = some document' ↔
    ∃ fields, document = .obj fields ∧ document' = .obj (insert key value fields) := by
  cases document <;> simp [set?, eq_comm]

theorem set?_eq_none_iff : document.set? key value = none ↔ ¬ ∃ fields, document = .obj fields := by
  cases document <;> simp [set?]

/-- A path that begins with another key leads to what it led to. -/
theorem pointer?_set? {path : String} {step : List Char} {steps : List (List Char)}
    (h : document.set? key value = some document') (hpath : steps? path.toList = some (step :: steps))
    (hstep : key ≠ String.ofList (unescapeStep step)) :
    pointer? path document' = pointer? path document := by
  obtain ⟨fields, rfl, rfl⟩ := set?_eq_some_iff.mp h
  have hchild : child? (unescapeStep step) (.obj (insert key value fields)) =
      child? (unescapeStep step) (.obj fields) := by
    rw [child?, child?, lookup_insert, if_neg hstep]
  simp only [pointer?, hpath, Option.bind_some, List.foldl_cons, hchild]

theorem Settled.set? (h : document.Settled) (hv : value.Settled)
    (hset : document.set? key value = some document') : document'.Settled := by
  obtain ⟨fields, rfl, rfl⟩ := set?_eq_some_iff.mp hset
  have hfields : settledFields? [] fields = some fields := by
    have h : settled? (.obj fields) = some (.obj fields) := h
    rw [settled?, Option.map_eq_some_iff] at h
    obtain ⟨fields', h, heq⟩ := h
    cases heq
    exact h
  have hnil : SettledFields [] := ⟨.nil, List.forall_mem_nil _⟩
  exact .obj ((settledFields_of_settledFields? hfields hnil).insert hv)

end Json

namespace Provider

variable {p : Provider} {key : String} {base spec : Json} {s t : String}

/-! ### Another type -/

/-- **The second document is the first with another type of machine:** of what is found under keys only
the type has changed. -/
structure Retyped (key : String) (base : Json) (t : String) (spec : Json) : Prop where
  type : spec.get? key = some (.str t)
  other : ∀ k, k ≠ key → spec.get? k = base.get? k
  settled : base.Settled → spec.Settled

theorem withInstanceType_eq_ok_iff (hp : p.typeKey? = some key) :
    p.withInstanceType base t = .ok spec ↔ base.set? key (.str t) = some spec := by
  rw [withInstanceType, hp]
  cases h : base.set? key (.str t) <;> simp [h]

theorem withInstanceType_eq_error_iff (hp : p.typeKey? = some key) {e : ProviderError} :
    p.withInstanceType base t = .error e ↔ e = .notAnObject ∧ ¬ ∃ fields, base = .obj fields := by
  have hnone : base.set? key (.str t) = none ↔ ¬ ∃ fields, base = .obj fields := Json.set?_eq_none_iff
  rw [withInstanceType, hp, ← hnone]
  cases h : base.set? key (.str t) <;> simp [h, eq_comm]

theorem retyped_of_withInstanceType (hp : p.typeKey? = some key)
    (h : p.withInstanceType base t = .ok spec) : Retyped key base t spec := by
  have hset := (withInstanceType_eq_ok_iff hp).mp h
  have htype : Json.Settled (.str t) := rfl
  obtain ⟨fields, rfl, rfl⟩ := Json.set?_eq_some_iff.mp hset
  refine ⟨?_, fun k hk => ?_, fun hsettled => hsettled.set? htype hset⟩
  · rw [Json.get?, Json.lookup_insert, if_pos rfl]
  · rw [Json.get?, Json.get?, Json.lookup_insert, if_neg hk.symm]

/-- **The type that is asked for last counts,** for documents that are no objects too. -/
theorem withInstanceType_withInstanceType (hp : p.typeKey? = some key) (base : Json) (s t : String) :
    (p.withInstanceType base s >>= fun spec => p.withInstanceType spec t) =
      p.withInstanceType base t := by
  rw [withInstanceType, withInstanceType, hp]
  cases base with
  | obj fields =>
    show p.withInstanceType (.obj (Json.insert key (.str s) fields)) t = _
    rw [withInstanceType, hp]
    simp only [Json.set?, Json.insert_insert]
  | _ => rfl

/-! ### Zones -/

/-- The zone is not under the key of the type, nor under a part of it. -/
theorem zonePath?_apart (hp : p.typeKey? = some key) : ∃ path step steps, p.zonePath? = some path ∧
    Json.steps? path.toList = some (step :: steps) ∧
      key ≠ String.ofList (Json.unescapeStep step) := by
  cases p with
  | aws =>
    cases hp
    exact ⟨_, "placement".toList, ["availabilityZone".toList], rfl, by decide, by decide⟩
  | azure =>
    cases hp
    exact ⟨_, "zone".toList, [], rfl, by decide, by decide⟩
  | gcp =>
    cases hp
    exact ⟨_, "zone".toList, [], rfl, by decide, by decide⟩
  | vsphere => cases hp

theorem zone_eq_of_withInstanceType (hp : p.typeKey? = some key)
    (h : p.withInstanceType base t = .ok spec) : p.zone spec = p.zone base := by
  obtain ⟨path, step, steps, hzone, hpath, hstep⟩ := zonePath?_apart hp
  have hset := (withInstanceType_eq_ok_iff hp).mp h
  simp only [zone, hzone, Option.bind_some, Json.pointer?_set? hset hpath hstep]

/-- **The provider replaces the type of machine:** of objects only (`refused`), nothing but the type
(`retyped`), whatever it was (`again`), and in the same zone (`zone`). -/
structure Retypes (p : Provider) (key : String) : Prop where
  refused : ∀ base t, p.withInstanceType base t = .error .notAnObject ↔ ¬ ∃ fields, base = .obj fields
  retyped : ∀ fields t, ∃ spec, p.withInstanceType (.obj fields) t = .ok spec ∧
    Retyped key (.obj fields) t spec
  again : ∀ base s t, (p.withInstanceType base s >>= fun spec => p.withInstanceType spec t) =
    p.withInstanceType base t
  zone : ∀ base t spec, p.withInstanceType base t = .ok spec → p.zone spec = p.zone base

theorem retypes (hp : p.typeKey? = some key) : p.Retypes key where
  refused base t := by rw [withInstanceType_eq_error_iff hp, and_iff_right rfl]
  retyped fields t := by
    have h : p.withInstanceType (.obj fields) t = .ok (.obj (Json.insert key (.str t) fields)) :=
      (withInstanceType_eq_ok_iff hp).mpr rfl
    exact ⟨_, h, retyped_of_withInstanceType hp h⟩
  again := withInstanceType_withInstanceType hp
  zone base t spec h := zone_eq_of_withInstanceType hp h

end Provider

/-! ### Alternatives -/

namespace TestSet

variable {p : Provider} {key : String} {types : List String} {x y : TestSet} {ts : List TestSet}

/-- **The second set is the first with another type of machine.** -/
structure Retyped (p : Provider) (key : String) (x : TestSet) (t : String) (y : TestSet) : Prop where
  name : y.name = x.name
  replicas : y.replicas = x.replicas
  labels : y.labels = x.labels
  taints : y.taints = x.taints
  spec : ∃ base spec, x.providerSpec.value = some base ∧ y.providerSpec.value = some spec ∧
    Provider.Retyped key base t spec ∧ p.zone spec = p.zone base

theorem withInstanceType_eq_ok_iff {t : String} : x.withInstanceType p t = .ok y ↔
    ∃ spec, p.withInstanceType (x.providerSpec.value.getD .null) t = .ok spec ∧
      y = { x with providerSpec := ⟨some spec⟩ } := by
  rw [withInstanceType, bind_eq_ok]
  refine exists_congr fun spec => and_congr_right fun _ => ?_
  exact ⟨fun h => (Except.ok.inj h).symm, fun h => h ▸ rfl⟩

theorem retyped_of_withInstanceType (hp : p.typeKey? = some key) {fields : List (String × Json)}
    (hx : x.providerSpec.value = some (.obj fields)) {t : String} (h : x.withInstanceType p t = .ok y) :
    Retyped p key x t y := by
  obtain ⟨spec, hspec, rfl⟩ := withInstanceType_eq_ok_iff.mp h
  rw [hx, Option.getD_some] at hspec
  exact ⟨rfl, rfl, rfl, rfl, _, spec, hx, rfl, Provider.retyped_of_withInstanceType hp hspec,
    Provider.zone_eq_of_withInstanceType hp hspec⟩

/-- Another type of a set with another type is another type of the set. -/
theorem withInstanceType_withInstanceType (hp : p.typeKey? = some key) {s : String}
    (h : x.withInstanceType p s = .ok y) (t : String) : y.withInstanceType p t = x.withInstanceType p t := by
  obtain ⟨spec, hspec, rfl⟩ := withInstanceType_eq_ok_iff.mp h
  have hlast := Provider.withInstanceType_withInstanceType hp (x.providerSpec.value.getD .null) s t
  rw [hspec] at hlast
  have hlast : p.withInstanceType spec t = _ := hlast
  rw [withInstanceType, withInstanceType, Option.getD_some, hlast]

theorem alternatives_eq (ht : p.alternativeInstanceTypes = .ok types) (x : TestSet) :
    x.alternatives p = types.mapM (x.withInstanceType p) := by
  rw [alternatives, ht]
  rfl

theorem exists_of_mem_alternatives (h : x.alternatives p = .ok ts) (hy : y ∈ ts) :
    ∃ t, x.withInstanceType p t = .ok y := by
  rw [alternatives, bind_eq_ok] at h
  obtain ⟨types, -, h⟩ := h
  obtain ⟨t, -, ht⟩ := exists_of_forall₂ (mapM_eq_ok_iff.mp h).flip hy
  exact ⟨t, ht⟩

/-- **The alternatives of an alternative are those of the set.** -/
theorem alternatives_of_mem (hp : p.typeKey? = some key) (h : x.alternatives p = .ok ts)
    (hy : y ∈ ts) : y.alternatives p = .ok ts := by
  obtain ⟨s, hs⟩ := exists_of_mem_alternatives h hy
  have hsame : y.withInstanceType p = x.withInstanceType p :=
    funext (withInstanceType_withInstanceType hp hs)
  rw [alternatives, hsame]
  exact h

/-- A set whose description of a machine is no object has no alternatives. -/
theorem alternatives_eq_error (hp : p.typeKey? = some key) {t : String}
    (ht : p.alternativeInstanceTypes = .ok (t :: types))
    (hx : ¬ ∃ fields, x.providerSpec.value = some (.obj fields)) :
    x.alternatives p = .error .notAnObject := by
  have hbase : ¬ ∃ fields, x.providerSpec.value.getD .null = .obj fields := by
    rintro ⟨fields, h⟩
    cases hvalue : x.providerSpec.value with
    | none => rw [hvalue] at h; cases h
    | some base => rw [hvalue] at h; exact hx ⟨fields, hvalue.trans (congrArg some h)⟩
  have hfirst : x.withInstanceType p t = .error .notAnObject := by
    rw [withInstanceType, (Provider.withInstanceType_eq_error_iff hp).mpr ⟨rfl, hbase⟩]
    rfl
  rw [alternatives_eq ht, List.mapM_cons, hfirst]
  rfl

/-- **The provider offers other types of machine:** one set for each type, in the order of the table
(`varied`), the same ones for each of these sets (`again`), and none at all for a set whose description
of a machine is no object or is missing (`refused`). -/
structure Offers (p : Provider) (key : String) (types : List String) : Prop where
  table : p.alternativeInstanceTypes = .ok types
  varied : ∀ (x : TestSet) fields, x.providerSpec.value = some (.obj fields) →
    ∃ ts, x.alternatives p = .ok ts ∧ List.Forall₂ (Retyped p key x) types ts
  again : ∀ (x y : TestSet) ts, x.alternatives p = .ok ts → y ∈ ts → y.alternatives p = .ok ts
  refused : ∀ x : TestSet, (¬ ∃ fields, x.providerSpec.value = some (.obj fields)) →
    x.alternatives p = .error .notAnObject

theorem offers (hp : p.typeKey? = some key) {t : String}
    (ht : p.alternativeInstanceTypes = .ok (t :: types)) : Offers p key (t :: types) where
  table := ht
  varied x fields hx := by
    have hone : ∀ s ∈ t :: types, ∃ y, x.withInstanceType p s = .ok y := by
      intro s _
      obtain ⟨spec, hspec, -⟩ := (Provider.retypes hp).retyped fields s
      have hbase : x.providerSpec.value.getD .null = .obj fields := by rw [hx, Option.getD_some]
      exact ⟨_, withInstanceType_eq_ok_iff.mpr ⟨spec, hbase ▸ hspec, rfl⟩⟩
    obtain ⟨ts, hts⟩ := exists_mapM_eq_ok hone
    exact ⟨ts, (alternatives_eq ht x).trans hts,
      (mapM_eq_ok_iff.mp hts).imp fun s y hy => retyped_of_withInstanceType hp hx hy⟩
  again x y ts h hy := alternatives_of_mem hp h hy
  refused x hx := alternatives_eq_error hp ht hx

end TestSet

/-- **Other types of machine change the type and nothing else.** Two providers offer other types, three
replace a type, and a set has no alternatives of the two that offer none. -/
theorem alternatives_change_type_only :
    (TestSet.Offers .aws "instanceType" ["c5.xlarge", "c5a.xlarge", "m5.xlarge"] ∧
      TestSet.Offers .azure "vmSize" ["Standard_F4s_v2", "Standard_D4as_v5", "Standard_D4as_v4"]) ∧
    (Provider.Retypes .aws "instanceType" ∧ Provider.Retypes .azure "vmSize" ∧
      Provider.Retypes .gcp "machineType") ∧
    ∀ (x : TestSet) (p : Provider), p = .gcp ∨ p = .vsphere →
      x.alternatives p = .error (.unsupported p "alternative instance types") := by
  refine ⟨⟨TestSet.offers rfl rfl, TestSet.offers rfl rfl⟩,
    ⟨Provider.retypes rfl, Provider.retypes rfl, Provider.retypes rfl⟩, ?_⟩
  rintro x p (rfl | rfl)
  · rfl
  · rfl

end ClusterWait
