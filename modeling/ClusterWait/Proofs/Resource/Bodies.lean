import ClusterWait.Cluster.TestSet
import ClusterWait.Proofs.Json.Legible
import ClusterWait.Proofs.Resource.Records

/-! # Sets in the text of a request

The document of a test's set stands in a request as a text. If something in it is not read back from
there, this is in the document of the provider, as nothing else is free in it.

* `TestSet.legible_encode`: all of the document is legible if that of the provider is.
* `MachineSet.legible_of_tells`: conversely, if the set is read of the text then so is its template, and
  so on to the inside, up to the document of the provider.
* `TestSet.received_iff` puts this together: the set is read back from the text exactly if the document of
  the provider is legible. -/

namespace ClusterWait

open Json (Legible Tells)

/-! ### Written records -/

section Written
variable {depth : Nat} {fs : List (String × Option Json)}

theorem keys_present (hsorted : (fs.map Prod.fst).Pairwise (· < ·)) :
    (present fs).Pairwise fun a b => a.1 < b.1 := by
  rw [List.pairwise_map] at hsorted
  refine hsorted.filterMap _ fun a a' hlt b hb b' hb' => ?_
  obtain ⟨v, -, rfl⟩ := Option.map_eq_some_iff.mp hb
  obtain ⟨v', -, rfl⟩ := Option.map_eq_some_iff.mp hb'
  exact hlt

/-- **A written record is legible** if its members are. -/
theorem legible_ofFields (hsorted : (fs.map Prod.fst).Pairwise (· < ·))
    (h : ∀ f ∈ fs, ∀ v ∈ f.2, v.Legible depth) : (Json.ofFields fs).Legible (depth + 1) := by
  refine .obj (keys_present hsorted) fun f hf => ?_
  obtain ⟨m, hm, hmap⟩ := List.mem_filterMap.mp hf
  obtain ⟨v, hv, rfl⟩ := Option.map_eq_some_iff.mp hmap
  exact h m hm v hv

theorem exists_lookup_of_tells {fields fields' : List (String × Json)} {key : String} {v : Json}
    (h : Json.TellsFields depth fields fields') (hv : Json.lookup key fields = some v) :
    ∃ v', Json.lookup key fields' = some v' ∧ Tells depth v v' := by
  induction h with
  | nil => cases hv
  | @cons f f' rest rest' hf _ ih =>
    obtain ⟨k, u⟩ := f
    obtain ⟨k', u'⟩ := f'
    obtain ⟨rfl, hu⟩ := hf
    rw [Json.lookup] at hv ⊢
    split
    · rename_i heq
      rw [if_pos heq] at hv
      cases hv
      exact ⟨u', rfl, hu⟩
    · rename_i hne
      rw [if_neg hne] at hv
      exact ih hv

/-- **What is told of a written record** has what is told of each of its members. -/
theorem exists_member_of_tells {told : Json} (hsorted : (fs.map Prod.fst).Pairwise (· < ·))
    (h : Tells (depth + 1) (.ofFields fs) told) : ∃ fields', told = .obj fields' ∧
      ∀ key v, member key fs = some v →
        ∃ v', Json.lookup key fields' = some v' ∧ Tells depth v v' := by
  obtain ⟨d, fields', hd, rfl, hfields⟩ := h.obj (keys_present hsorted)
  obtain rfl := Nat.succ.inj hd
  refine ⟨fields', rfl, fun key v hv => exists_lookup_of_tells hfields ?_⟩
  have hnodup : (fs.map Prod.fst).Nodup := hsorted.imp fun hlt => String.ne_of_lt hlt
  have hlookup := Writing.lookup_fields ⟨fs, hnodup⟩ key
  exact hlookup.trans hv

end Written

/-! ### Records that are legible -/

section Legible
variable {depth : Nat}

@[simp] theorem legible_str (s : String) : (Json.str s).Legible depth := .str s

@[simp] theorem legible_ofLabels (labels : Dictionary String) :
    (Json.ofLabels labels).Legible (depth + 1) := by
  refine .obj ?_ fun f hf => ?_
  · rw [List.pairwise_map]
    exact labels.sorted
  · obtain ⟨e, -, rfl⟩ := List.mem_map.mp hf
    exact .str e.2

@[simp] theorem Taint.legible_encode (t : Taint) : t.encode.Legible (depth + 1) := by
  refine legible_ofFields (by simp only [List.map]; decide) ?_
  simp [Timestamp.encode]

theorem ProviderSpec.legible_encode {s : ProviderSpec} (h : ∀ v ∈ s.value, v.Legible depth) :
    s.encode.Legible (depth + 1) := by
  refine legible_ofFields (by simp only [List.map]; decide) ?_
  simpa using h

theorem MachineSpec.legible_encode {s : MachineSpec}
    (h : ∀ v ∈ s.providerSpec.value, v.Legible (depth + 1)) : s.encode.Legible (depth + 3) := by
  have hprovider := ProviderSpec.legible_encode h
  have htaints : (Json.arr (s.taints.map Taint.encode)).Legible (depth + 2) := by
    refine .arr fun v hv => ?_
    obtain ⟨t, -, rfl⟩ := List.mem_map.mp hv
    exact t.legible_encode
  refine legible_ofFields (by simp only [List.map]; decide) ?_
  simp [hprovider, htaints]

theorem MachineTemplate.legible_encode {t : MachineTemplate}
    (h : ∀ v ∈ t.spec.providerSpec.value, v.Legible (depth + 1)) : t.encode.Legible (depth + 4) := by
  have hspec := MachineSpec.legible_encode h
  have hmetadata : t.metadata.encode.Legible (depth + 3) := by
    refine legible_ofFields (by simp only [List.map]; decide) ?_
    simp
  refine legible_ofFields (by simp only [List.map]; decide) ?_
  simp [hmetadata, hspec]

theorem legible_ofInt {n : Int} (h : (Leaf.number 32 n).Sound) : (Json.ofInt n).Legible depth := by
  obtain ⟨hmin, hmax⟩ := h
  refine .num (Json.Number.legible_int ?_ ?_)
  · exact Int.le_trans (by decide) hmin
  · exact Int.lt_trans hmax (by decide)

theorem TestSet.legible_encode {t : TestSet} (inNamespace : String)
    (hreplicas : (Leaf.number 32 t.replicas).Sound)
    (h : ∀ v ∈ t.providerSpec.value, v.Legible (depth + 1)) :
    (t.toMachineSet inNamespace).encode.Legible (depth + 6) := by
  have htemplate : (t.toMachineSet inNamespace).spec.template.encode.Legible (depth + 4) :=
    MachineTemplate.legible_encode h
  have hselector : (t.toMachineSet inNamespace).spec.selector.encode.Legible (depth + 4) := by
    refine legible_ofFields (by simp only [List.map]; decide) ?_
    simp [toMachineSet]
  have hspec : (t.toMachineSet inNamespace).spec.encode.Legible (depth + 5) := by
    refine legible_ofFields (by simp only [List.map]; decide) ?_
    simpa [toMachineSet, legible_ofInt hreplicas] using And.intro hselector htemplate
  have hmetadata : (t.toMachineSet inNamespace).metadata.encode.Legible (depth + 5) := by
    refine legible_ofFields (by simp only [List.map]; decide) ?_
    simp [toMachineSet]
  refine legible_ofFields (by simp only [List.map]; decide) ?_
  simp [hmetadata, hspec, show (t.toMachineSet inNamespace).status = none from rfl]

end Legible

/-! ### Records that are told -/

section Told
variable {depth : Nat} {told : Json}

theorem fields_of_of? {keys : List String} {fields : List (String × Json)} {m : Members}
    (h : Members.of? keys (.obj fields) = some m) : m.fields = fields := by
  rw [Members.of?] at h
  split at h
  · cases h
    rfl
  · cases h

/-- **The document of a provider that is told is legible.** -/
theorem ProviderSpec.legible_of_tells {s : ProviderSpec} (h : Tells (depth + 1) s.encode told)
    (hs : decode told = some s) : ∀ v ∈ s.value, v.Legible depth := by
  intro v hv
  have hv : s.value = some v := hv
  obtain ⟨fields, rfl, hmember⟩ := exists_member_of_tells (by simp only [List.map]; decide) h
  obtain ⟨v', hlookup, htells⟩ := hmember "value" v (by simpa using hv)
  simp only [decode, bind_eq_some] at hs
  obtain ⟨m, hm, value, hvalue, hs⟩ := hs
  cases hs
  rw [Members.orAbsent, Members.withDefault, fields_of_of? hm, hlookup] at hvalue
  obtain rfl : value = some v := hv
  have hsettled : v'.settled? = some v' := Json.settled?_of_settled? htells
  have hv' : v' = v := by
    by_cases hnull : v' = .null
    · subst hnull
      cases hvalue
    · simp only [orNull_of_ne_null hnull, Decoder.any, hsettled] at hvalue
      cases hvalue
      rfl
  rw [hv'] at htells
  exact .of_tells htells

theorem MachineSpec.legible_of_tells {s : MachineSpec} (h : Tells (depth + 2) s.encode told)
    (hs : decode told = some s) : ∀ v ∈ s.providerSpec.value, v.Legible depth := by
  obtain ⟨fields, rfl, hmember⟩ := exists_member_of_tells (by simp only [List.map]; decide) h
  obtain ⟨v', hlookup, htells⟩ := hmember "providerSpec" s.providerSpec.encode (by simp)
  simp only [decode, bind_eq_some] at hs
  obtain ⟨m, hm, provider, hprovider, _, -, _, -, hs⟩ := hs
  cases hs
  rw [Members.withDefault, fields_of_of? hm, hlookup] at hprovider
  exact ProviderSpec.legible_of_tells htells hprovider

theorem MachineTemplate.legible_of_tells {t : MachineTemplate}
    (h : Tells (depth + 3) t.encode told) (ht : decode told = some t) :
    ∀ v ∈ t.spec.providerSpec.value, v.Legible depth := by
  obtain ⟨fields, rfl, hmember⟩ := exists_member_of_tells (by simp only [List.map]; decide) h
  obtain ⟨v', hlookup, htells⟩ := hmember "spec" t.spec.encode (by simp)
  simp only [decode, bind_eq_some] at ht
  obtain ⟨m, hm, _, -, spec, hspec, ht⟩ := ht
  cases ht
  rw [Members.withDefault, fields_of_of? hm, hlookup] at hspec
  exact MachineSpec.legible_of_tells htells hspec

theorem MachineSetSpec.legible_of_tells {s : MachineSetSpec}
    (h : Tells (depth + 4) s.encode told) (hs : decode told = some s) :
    ∀ v ∈ s.template.spec.providerSpec.value, v.Legible depth := by
  obtain ⟨fields, rfl, hmember⟩ := exists_member_of_tells (by simp only [List.map]; decide) h
  obtain ⟨v', hlookup, htells⟩ := hmember "template" s.template.encode (by simp)
  simp only [decode, bind_eq_some] at hs
  obtain ⟨m, hm, _, -, _, -, template, htemplate, hs⟩ := hs
  cases hs
  rw [Members.withDefault, fields_of_of? hm, hlookup] at htemplate
  exact MachineTemplate.legible_of_tells htells htemplate

theorem MachineSet.legible_of_tells {x : MachineSet} (h : Tells (depth + 5) x.encode told)
    (hx : decode told = some x) : ∀ v ∈ x.spec.template.spec.providerSpec.value, v.Legible depth := by
  obtain ⟨fields, rfl, hmember⟩ := exists_member_of_tells (by simp only [List.map]; decide) h
  obtain ⟨v', hlookup, htells⟩ := hmember "spec" x.spec.encode (by simp)
  simp only [decode, bind_eq_some] at hx
  obtain ⟨m, hm, _, -, spec, hspec, _, -, hx⟩ := hx
  cases hx
  rw [Members.required, fields_of_of? hm, hlookup] at hspec
  exact MachineSetSpec.legible_of_tells htells hspec

end Told

/-! ### The body of a request -/

/-- **The set of a description is read back from the text** that a request carries exactly if the document
of the provider is legible inside the five levels around it. -/
theorem TestSet.received_iff {t : TestSet} (collection : Collection) (inNamespace : String)
    (hreplicas : (Leaf.number 32 t.replicas).Sound)
    (hdecode : MachineSet.decode (t.toMachineSet inNamespace).encode =
      some (t.toMachineSet inNamespace)) :
    (Request.create collection (t.toMachineSet inNamespace).encode).received?.bind MachineSet.decode =
        some (t.toMachineSet inNamespace) ↔
      ∀ v ∈ t.providerSpec.value, v.Legible 122 := by
  have hreceived : (Request.create collection (t.toMachineSet inNamespace).encode).received? =
      Json.parse? (t.toMachineSet inNamespace).encode.render := by
    rw [Request.received?, Request.body?, Option.bind_some]
  have hdepth : Json.maxDepth = 122 + 5 := rfl
  rw [hreceived]
  constructor
  · intro h
    obtain ⟨told, htold, hx⟩ := Option.bind_eq_some_iff.mp h
    rw [Json.parse?_render, hdepth] at htold
    exact MachineSet.legible_of_tells htold hx
  · intro h
    have hlegible : (t.toMachineSet inNamespace).encode.Legible (121 + 6) :=
      TestSet.legible_encode inNamespace hreplicas h
    rw [Json.parse?_render_eq_self_iff.mpr hlegible]
    exact hdecode

end ClusterWait
