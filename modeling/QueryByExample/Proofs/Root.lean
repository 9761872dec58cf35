import QueryByExample.Proofs.Compile
import QueryByExample.Proofs.Modifiers
/-!
# Root entries

The place of a root entry does not matter, and neither do entries that are no part of a request.
Taking the modifiers out of a document one after the other leaves its other entries as they were.

## Main definitions

- `Modifiers.extract`: the modifiers of a document, taken out of it one by one.

## Main statements

- `Modifiers.extract_eq`: what is taken out are the modifiers, what is left are the other entries.
- `compile_root_entries`: documents with the same root entries in any order compile alike.
-/

namespace QueryByExample

/-! ### Extraction -/

theorem Traced.bind_assoc {ε α β γ : Type} (t : Traced ε α) (next : α → Traced ε β)
    (last : β → Traced ε γ) : t >>= next >>= last = t >>= fun a => next a >>= last := by
  obtain ⟨events, outcome⟩ := t
  cases outcome with
  | error fault => rfl
  | ok a =>
    change andThen (andThen _ next) last = andThen _ fun a => andThen (next a) last
    cases hnext : (next a).outcome with
    | error fault => simp [andThen, hnext]
    | ok b => simp [andThen, hnext]

namespace Modifiers

/-- Take the entries of some keys out of a document, one after the other, and apply them. -/
def extractKeys (m : Modifiers) : List String → List (String × Json) →
    Traced Error (Modifiers × List (String × Json))
  | [], document => return (m, document)
  | key :: rest, document =>
    match Fields.find? key document with
    | none => extractKeys m rest document
    | some value =>
      let document := document.eraseP fun entry => entry.1 == key
      match Setting.read key value with
      | .ok (some setting) => extractKeys (m.apply setting) rest document
      | .ok none => do
        Traced.report [.unknownModifier key]
        extractKeys m rest document
      | .error fault => .ofExcept (.error fault)

/-- The modifiers of a document, and what is left when they are taken out of it. -/
def extract (document : List (String × Json)) :
    Traced Error (Modifiers × List (String × Json)) :=
  extractKeys {} ((Fields.names document).filter isKey) document

theorem find?_append_of_kept {kept : List (String × Json)}
    (h : ∀ entry ∈ kept, isKey entry.1 = false) {key : String} (hkey : isKey key = true)
    (value : Json) (rest : List (String × Json)) :
    Fields.find? key (kept ++ (key, value) :: rest) = some value := by
  have hnone : Fields.find? key kept = none := by
    rw [Fields.find?_eq_none_iff]
    intro hmem
    obtain ⟨entry, hentry, rfl⟩ := List.mem_map.1 hmem
    rw [h entry hentry] at hkey
    cases hkey
  rw [Fields.find?_append, hnone]
  simp [Fields.find?]

theorem eraseP_append_of_kept {kept : List (String × Json)}
    (h : ∀ entry ∈ kept, isKey entry.1 = false) {key : String} (hkey : isKey key = true)
    (value : Json) (rest : List (String × Json)) :
    (kept ++ (key, value) :: rest).eraseP (fun entry => entry.1 == key) = kept ++ rest := by
  rw [List.eraseP_append_right]
  · simp
  · intro entry hentry heq
    rw [← eq_of_beq heq, h entry hentry] at hkey
    cases hkey

/-- While modifiers are taken out, the entries before them that are none stay where they are. -/
theorem extractKeys_eq (m : Modifiers) {kept : List (String × Json)}
    (h : ∀ entry ∈ kept, isKey entry.1 = false) (entries : List (String × Json)) :
    extractKeys m ((Fields.names entries).filter isKey) (kept ++ entries) =
      addEntries m entries >>= fun m => pure (m, kept ++ otherEntries entries) := by
  induction entries generalizing m kept with
  | nil => rfl
  | cons entry rest ih =>
    obtain ⟨key, value⟩ := entry
    by_cases hkey : isKey key = true
    · have hkeys : (Fields.names ((key, value) :: rest)).filter isKey =
          key :: (Fields.names rest).filter isKey := by simp [Fields.names, hkey]
      have hrest : otherEntries ((key, value) :: rest) = otherEntries rest := by
        simp [otherEntries, hkey]
      rw [hkeys, extractKeys, find?_append_of_kept h hkey, hrest, addEntries, if_pos hkey]
      dsimp only
      rw [eraseP_append_of_kept h hkey]
      cases Setting.read key value with
      | error fault => rfl
      | ok setting? =>
        cases setting? with
        | none =>
          dsimp only
          rw [ih m h, Traced.bind_assoc]
        | some setting => exact ih _ h
    · have hkept : ∀ entry ∈ kept ++ [(key, value)], isKey entry.1 = false := by
        intro entry hentry
        rcases List.mem_append.1 hentry with hentry | hentry
        · exact h entry hentry
        · rw [List.mem_singleton.1 hentry]
          exact Bool.eq_false_iff.2 hkey
      have hkeys : (Fields.names ((key, value) :: rest)).filter isKey =
          (Fields.names rest).filter isKey := by simp [Fields.names, hkey]
      have hrest : otherEntries ((key, value) :: rest) = (key, value) :: otherEntries rest := by
        simp [otherEntries, hkey]
      rw [hkeys, hrest, addEntries, if_neg hkey, List.append_cons, ih m hkept, ← List.append_cons]

/-- Taking the modifiers out of a document gives its modifiers and leaves its other entries. -/
theorem extract_eq (document : List (String × Json)) :
    extract document =
      ofEntries document >>= fun m => pure (m, otherEntries document) := by
  have hkept : ∀ entry ∈ ([] : List (String × Json)), isKey entry.1 = false := by simp
  exact extractKeys_eq {} hkept document

/-! ### Order -/

variable {entries entries' extra : List (String × Json)}

theorem ofEntries_perm (distinct : Fields.Distinct entries') (h : entries'.Perm (entries ++ extra))
    (hextra : ∀ entry ∈ extra, entry.1 ∉ keys) {m : Modifiers} :
    (ofEntries entries').outcome = .ok m ↔ (ofEntries entries).outcome = .ok m := by
  have haccepts : ∀ entry ∈ extra, accepts entry.1 entry.2 = true := by
    intro entry hentry
    exact accepts_of_not_mem_keys (hextra entry hentry) entry.2
  have happly : entries'.foldl applyEntry {} = entries.foldl applyEntry {} := by
    rw [foldl_applyEntry_perm distinct h, List.foldl_append,
      foldl_applyEntry_of_not_mem_keys hextra]
  rw [ofEntries_eq_ok_iff, ofEntries_eq_ok_iff, happly]
  refine and_congr_left fun _ => ⟨fun hall entry hentry => ?_, fun hall entry hentry => ?_⟩
  · exact hall entry (h.mem_iff.2 (List.mem_append_left _ hentry))
  · rcases List.mem_append.1 (h.mem_iff.1 hentry) with hentry | hentry
    · exact hall entry hentry
    · exact haccepts entry hentry

end Modifiers

namespace Prototype

/-- The keys under which a document holds its prototype and its context. -/
def rootKeys : List String := ["@graph", "proto", "@context"]

theorem locate_congr {entries entries' : List (String × Json)}
    (h : ∀ name ∈ rootKeys, Fields.find? name entries' = Fields.find? name entries) :
    locate (Modifiers.otherEntries entries') = locate (Modifiers.otherEntries entries) := by
  rw [locate_otherEntries, locate_otherEntries, locate, locate, h "@graph" (by simp [rootKeys]),
    h "proto" (by simp [rootKeys]), h "@context" (by simp [rootKeys])]

end Prototype

/-- The place of root entries does not matter. A document whose entries are put in another order,
among others that are no part of a request, fails to compile as well or has the same compiled form.
Taking the modifiers out of a document leaves the entries whose keys do not start with `$`, in their
order. -/
theorem compile_root_entries (entries : List (String × Json)) :
    (∀ entries' extra : List (String × Json), Fields.Distinct entries' →
      entries'.Perm (entries ++ extra) →
      (∀ entry ∈ extra, entry.1 ∉ Prototype.rootKeys ∧ entry.1 ∉ Modifiers.keys) →
      (∃ error error', (compile (.object entries)).outcome = .error error ∧
        (compile (.object entries')).outcome = .error error') ∨
      ∃ compiled, (compile (.object entries)).outcome = .ok compiled ∧
        (compile (.object entries')).outcome = .ok compiled) ∧
    ∀ m rest, (Modifiers.extract entries).outcome = .ok (m, rest) ↔
      (Modifiers.ofEntries entries).outcome = .ok m ∧
        rest = entries.filter fun entry => entry.1.toList.head? != some '$' := by
  constructor
  · intro entries' extra distinct hperm hextra
    have hmodifiers := fun m => @Modifiers.ofEntries_perm entries entries' extra distinct hperm
      (fun entry hentry => (hextra entry hentry).2) m
    have hlocate : Prototype.locate (Modifiers.otherEntries entries') =
        Prototype.locate (Modifiers.otherEntries entries) := by
      apply Prototype.locate_congr
      intro name hname
      have hnone : Fields.find? name extra = none := by
        rw [Fields.find?_eq_none_iff]
        intro hmem
        obtain ⟨entry, hentry, rfl⟩ := List.mem_map.1 hmem
        exact (hextra entry hentry).1 hname
      rw [← Fields.find?_perm distinct hperm.symm, Fields.find?_append, hnone, Option.or_none]
    rw [outcome_compile_object, outcome_compile_object, hlocate]
    cases hm : (Modifiers.ofEntries entries).outcome with
    | error fault =>
      cases hm' : (Modifiers.ofEntries entries').outcome with
      | error fault' => exact Or.inl ⟨_, _, rfl, rfl⟩
      | ok m =>
        rw [(hmodifiers m).1 hm'] at hm
        cases hm
    | ok m =>
      -- both documents have the same modifiers, so the steps that follow are the same
      rw [(hmodifiers m).2 hm]
      generalize (Except.mapError Prototype.Error.modifier (.ok m)).bind _ = outcome
      cases outcome with
      | error fault => exact Or.inl ⟨fault, fault, rfl, rfl⟩
      | ok compiled => exact Or.inr ⟨compiled, rfl, rfl⟩
  · intro m rest
    rw [Modifiers.extract_eq, Traced.bind_eq_ok_iff]
    constructor
    · rintro ⟨m', hm, hrest⟩
      obtain ⟨rfl, rfl⟩ := Prod.mk.inj (Except.ok.inj hrest)
      exact ⟨hm, rfl⟩
    · rintro ⟨hm, rfl⟩
      exact ⟨m, hm, rfl⟩

namespace Towns

/-- A town, its label in the language of the document and the number of its inhabitants. -/
def prototype : String × Json :=
  ("proto", .object [("id", .string "?town"), ("name", .string "$rdfs:label$lang"),
    ("people", .string "$dbo:population$required")])

def first : List (String × Json) := [prototype, ("$lang", .string "it")]

def second : List (String × Json) := [("$limit", .number (.integer 3))]

/-- An entry without meaning and a key that is no modifier. -/
def extra : List (String × Json) := [("note", .null), ("$colour", .string "red")]

end Towns

theorem compile_root_entries_towns :
    (Fields.Distinct (Towns.second ++ Towns.extra ++ Towns.first) ∧
      (Towns.second ++ Towns.extra ++ Towns.first).Perm
        (Towns.first ++ Towns.second ++ Towns.extra) ∧
      ∀ entry ∈ Towns.extra, entry.1 ∉ Prototype.rootKeys ∧ entry.1 ∉ Modifiers.keys) ∧
    ((∃ error error',
        (compile (.object (Towns.first ++ Towns.second))).outcome = .error error ∧
        (compile (.object (Towns.second ++ Towns.extra ++ Towns.first))).outcome =
          .error error') ∨
      ∃ compiled,
        (compile (.object (Towns.first ++ Towns.second))).outcome = .ok compiled ∧
        (compile (.object (Towns.second ++ Towns.extra ++ Towns.first))).outcome =
          .ok compiled) := by
  have hdistinct : Fields.Distinct (Towns.second ++ Towns.extra ++ Towns.first) := by
    unfold Fields.Distinct
    decide
  have hperm : (Towns.second ++ Towns.extra ++ Towns.first).Perm
      (Towns.first ++ Towns.second ++ Towns.extra) := by
    rw [List.append_assoc Towns.first]
    exact List.perm_append_comm
  have hextra : ∀ entry ∈ Towns.extra,
      entry.1 ∉ Prototype.rootKeys ∧ entry.1 ∉ Modifiers.keys := by
    simp only [Towns.extra, List.forall_mem_cons]
    decide
  exact ⟨⟨hdistinct, hperm, hextra⟩,
    (compile_root_entries (Towns.first ++ Towns.second)).1 _ _ hdistinct hperm hextra⟩

end QueryByExample
