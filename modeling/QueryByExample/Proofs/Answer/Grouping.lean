import QueryByExample.Proofs.Answer.Order
/-!
# Merging as grouping

Merged objects are the groups of an equivalent two-step process: first the objects are grouped by
the identity of the object that opened each group, then every group is merged on its own. Merging in
one pass looks at the identities of entries that keep changing, so the equality rests on the fact
that taking up fields never changes an identity.

## Main definitions

- `Group`: an object and those that joined it.
- `Group.scan`: the groups of a list of objects.
- `Group.merged`: the members of a group merged in order.

## Main statements

- `Group.merged_spec`: what merging the members of a group keeps.
- `mergeEntities_eq_groups`: merging is grouping.
-/

namespace QueryByExample

/-- The objects of one entity: the one that came first and those that joined it, in order. -/
structure Group where
  opener : Entity
  joined : List Entity

namespace Group

/-- All objects of a group, in order. -/
def members (g : Group) : List Entity := g.opener :: g.joined

/-- The objects of a group merged into its opener, in order. -/
def merged (g : Group) : Entity := g.joined.foldl Entity.merge g.opener

/-- The group with one more object. -/
def extend (g : Group) (e : Entity) : Group := { g with joined := g.joined ++ [e] }

/-- An object joins the first group whose opener has its identity; otherwise it opens a group. -/
def place (groups : List Group) (e : Entity) : List Group :=
  match groups.findIdx? (·.opener.sameEntity e) with
  | some index => groups.modify index (·.extend e)
  | none => groups ++ [⟨e, []⟩]

/-- The groups of some objects, in the order in which they were opened. -/
def scan (entities : List Entity) : List Group := entities.foldl place []

theorem members_extend (g : Group) (e : Entity) : (g.extend e).members = g.members ++ [e] := rfl

theorem merged_extend (g : Group) (e : Entity) : (g.extend e).merged = g.merged.merge e := by
  simp [merged, extend]

theorem scan_concat (entities : List Entity) (e : Entity) :
    scan (entities ++ [e]) = place (scan entities) e := by
  simp [scan]

/-- A group after a step is an old one, an old one that the object joined, or the new one. -/
theorem mem_place_cases {groups : List Group} {e : Entity} {g : Group} (h : g ∈ place groups e) :
    g ∈ groups ∨ (∃ old ∈ groups, old.opener.sameEntity e = true ∧ g = old.extend e) ∨
      g = ⟨e, []⟩ := by
  unfold place at h
  split at h
  · next index first =>
    rcases Position.mem_or_of_mem_modify h with hmem | ⟨old, hold, rfl⟩
    · exact Or.inl hmem
    · have same := Position.prop_of_findIdx? first hold
      exact Or.inr (Or.inl ⟨old, List.mem_of_getElem? hold, same, rfl⟩)
  · rcases List.mem_append.1 h with hmem | hmem
    · exact Or.inl hmem
    · exact Or.inr (Or.inr (List.mem_singleton.1 hmem))

/-- The members of a group are objects of the list, in its order. -/
theorem sublist_of_mem_scan {entities : List Entity} {g : Group} (h : g ∈ scan entities) :
    g.members.Sublist entities := by
  induction entities using List.reverseRecOn generalizing g with
  | nil => cases h
  | append_singleton entities e ih =>
    rw [scan_concat] at h
    rcases mem_place_cases h with hmem | ⟨old, hmem, -, rfl⟩ | rfl
    · exact (ih hmem).trans (List.sublist_append_left _ _)
    · rw [members_extend]
      exact (ih hmem).append (List.Sublist.refl _)
    · exact List.sublist_append_right _ _

/-- Every object that joined a group has the identity of its opener. -/
theorem sameEntity_of_mem_scan {entities : List Entity} {g : Group} (h : g ∈ scan entities) :
    ∀ e ∈ g.joined, g.opener.sameEntity e = true := by
  induction entities using List.reverseRecOn generalizing g with
  | nil => cases h
  | append_singleton entities e ih =>
    rw [scan_concat] at h
    rcases mem_place_cases h with hmem | ⟨old, hmem, hsame, rfl⟩ | rfl
    · exact ih hmem
    · intro e' he'
      rcases List.mem_append.1 he' with he' | he'
      · exact ih hmem e' he'
      · rw [List.mem_singleton.1 he']
        exact hsame
    · intro e' he'
      cases he'

variable {slot : Template.Slot}

/-- Merging the members of a group keeps the identity of its opener and conforms to the slot of the
members; on its own it gives one entry. -/
theorem merged_spec {g : Group}
    (hmembers : ∀ e ∈ g.members, Template.Admits Instance.Single slot e.toInstance)
    (hsame : ∀ e ∈ g.joined, g.opener.sameEntity e = true) :
    Template.Admits Instance.Gathered slot g.merged.toInstance ∧
      g.merged.anchorValue? = g.opener.anchorValue? ∧ mergeEntities g.members = [g.merged] := by
  obtain ⟨opener, joined⟩ := g
  induction joined using List.reverseRecOn with
  | nil =>
    have hopener := hmembers opener List.mem_cons_self
    exact ⟨hopener.mono fun _ _ => Instance.Single.gathered, rfl, rfl⟩
  | append_singleton joined e ih =>
    have hsub : members ⟨opener, joined⟩ ⊆ members ⟨opener, joined ++ [e]⟩ :=
      List.subset_append_left (opener :: joined) [e]
    obtain ⟨hadmits, hidentity, hentry⟩ := ih (fun e' he' => hmembers e' (hsub he'))
      fun e' he' => hsame e' (List.mem_append_left _ he')
    have he : Template.Admits Instance.Single slot e.toInstance := hmembers e (by simp [members])
    -- the merged object still has the identity by which the next one is taken up
    have hnext : (Group.merged ⟨opener, joined⟩).sameEntity e = true := by
      rw [Entity.sameEntity, Instance.sameEntity_congr_left (y := opener.toInstance) hidentity]
      exact hsame e (by simp)
    have hmerged : Group.merged ⟨opener, joined ++ [e]⟩ =
        (Group.merged ⟨opener, joined⟩).merge e := merged_extend ⟨opener, joined⟩ e
    rw [hmerged]
    refine ⟨?_, ?_, ?_⟩
    · rw [Entity.merge_toInstance]
      exact Template.admits_takeUp he hadmits hnext
    · exact (hadmits.anchorValue?_takeUp he hnext).trans hidentity
    · have hstep : mergeEntities (opener :: joined ++ [e]) =
          e.addTo (mergeEntities (opener :: joined)) := by
        simp [mergeEntities]
      calc mergeEntities (members ⟨opener, joined ++ [e]⟩)
          = e.addTo (mergeEntities (opener :: joined)) := hstep
        _ = e.addTo [Group.merged ⟨opener, joined⟩] := by rw [← hentry]; rfl
        _ = [(Group.merged ⟨opener, joined⟩).merge e] := by simp [Entity.addTo, hnext]

/-- One step of merging is one step of grouping, since merged objects have the identities of the
openers of their groups. -/
theorem map_place {groups : List Group} {e : Entity}
    (h : ∀ g ∈ groups, g.merged.anchorValue? = g.opener.anchorValue?) :
    (place groups e).map (·.merged.toInstance) =
      Instance.join e.toInstance (groups.map (·.merged.toInstance)) := by
  have hfirst : groups.findIdx? (·.opener.sameEntity e) =
      (groups.map (·.merged.toInstance)).findIdx? (·.sameEntity e.toInstance) := by
    refine Position.findIdx?_eq_of_forall₂ (List.forall₂_map_right_iff.2 ?_)
    exact List.forall₂_same.2 fun g hg => (Instance.sameEntity_congr_left (h g hg)).symm
  unfold place Instance.join
  rw [← hfirst]
  cases groups.findIdx? (·.opener.sameEntity e) with
  | some index =>
    refine List.ext_getElem? fun i => ?_
    by_cases hi : index = i
    · subst hi
      simp [Function.comp_def, merged_extend]
    · simp [hi]
  | none => simp [merged]

theorem map_scan {entities : List Entity}
    (h : ∀ e ∈ entities, Template.Admits Instance.Single slot e.toInstance) :
    (scan entities).map (·.merged.toInstance) =
      Instance.joinAll (entities.map Entity.toInstance) := by
  induction entities using List.reverseRecOn with
  | nil => rfl
  | append_singleton entities e ih =>
    have hentities : ∀ e ∈ entities, Template.Admits Instance.Single slot e.toInstance :=
      fun e he => h e (List.mem_append_left _ he)
    rw [scan_concat, map_place fun g hg => ?_, ih hentities]
    · simp
    · have hmembers := fun e he => hentities e ((sublist_of_mem_scan hg).subset he)
      exact (merged_spec hmembers (sameEntity_of_mem_scan hg)).2.1

/-- Merging conforming objects gives their groups, each merged on its own. -/
theorem mergeEntities_eq_map_merged {entities : List Entity}
    (h : ∀ e ∈ entities, Template.Admits Instance.Single slot e.toInstance) :
    mergeEntities entities = (scan entities).map merged := by
  refine List.map_injective_iff.2 Entity.toInstance_injective ?_
  rw [mergeEntities_toInstance, ← map_scan h, List.map_map]
  rfl

end Group

/-- Merging is grouping by identity: the merged objects are the groups, each merged on its own. An
entry has the identity of the object that opened its group, no two entries have the same one, and
what an entry is depends on nothing but the members of its group. -/
theorem mergeEntities_eq_groups {document : Json} (hdocument : document.WellFormed)
    {compiled : CompiledQuery} (h : (compile document).outcome = .ok compiled)
    (options : DecodeOptions) (rows : List Row) :
    let decoded := rows.map (decodeRow options compiled.template)
    mergeEntities decoded = (Group.scan decoded).map Group.merged ∧
      (∀ g ∈ Group.scan decoded, g.members.Sublist decoded ∧
        mergeEntities g.members = [g.merged] ∧
        g.merged.anchorValue? = g.opener.anchorValue?) ∧
      (mergeEntities decoded).Pairwise fun e f =>
        e.sameEntity f = false ∧ f.sameEntity e = false := by
  intro decoded
  have hitems : ∀ y ∈ decoded.map Entity.toInstance, Template.Admits Instance.Single
      (.node compiled.template.label compiled.template.fields) y :=
    Template.admits_of_mem_decoded (Template.sound_of_compile hdocument h)
  have hdecoded : ∀ e ∈ decoded, Template.Admits Instance.Single
      (.node compiled.template.label compiled.template.fields) e.toInstance :=
    fun e he => hitems _ (List.mem_map_of_mem he)
  refine ⟨Group.mergeEntities_eq_map_merged hdecoded, fun g hg => ?_, ?_⟩
  · have hmembers := Group.sublist_of_mem_scan hg
    obtain ⟨-, hidentity, hentry⟩ := Group.merged_spec
      (fun e he => hdecoded e (hmembers.subset he)) (Group.sameEntity_of_mem_scan hg)
    exact ⟨hmembers, hentry, hidentity⟩
  · -- entries keep apart in both directions, since equality of identities goes both ways
    obtain ⟨hadmits, hapart⟩ := Template.admits_joinAll hitems
    rw [← mergeEntities_toInstance] at hadmits hapart
    refine (List.pairwise_map.1 hapart).imp_of_mem fun he hf hne => ⟨hne, ?_⟩
    refine Bool.eq_false_iff.2 fun hsame => Bool.eq_false_iff.1 hne ?_
    exact Instance.sameEntity_symm (hadmits _ (List.mem_map_of_mem hf)).wellFormed
      (hadmits _ (List.mem_map_of_mem he)).wellFormed hsame

theorem mergeEntities_eq_groups_places :
    Places.document.WellFormed ∧ (compile Places.document).outcome = .ok Places.compiled ∧
      let decoded := Places.rows.map (decodeRow ⟨.shown, .plain⟩ Places.compiled.template)
      mergeEntities decoded = (Group.scan decoded).map Group.merged ∧
        (∀ g ∈ Group.scan decoded, g.members.Sublist decoded ∧
          mergeEntities g.members = [g.merged] ∧
          g.merged.anchorValue? = g.opener.anchorValue?) ∧
        (mergeEntities decoded).Pairwise fun e f =>
          e.sameEntity f = false ∧ f.sameEntity e = false :=
  ⟨Places.wellFormed_document, Places.outcome_document,
    mergeEntities_eq_groups Places.wellFormed_document Places.outcome_document _ _⟩

end QueryByExample
