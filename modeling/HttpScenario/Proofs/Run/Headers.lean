import Mathlib.Data.List.Forall2
import HttpScenario.Proofs.Run.History
import HttpScenario.Proofs.Schema.Reading
import HttpScenario.Scenario.Form

/-! The headers of a request. A step sends its own, and those of the configuration whose names are
the names of none of its own in any case; in which order either of them is looked at makes no
difference. -/

namespace HttpScenario

variable {σ : Type}

open Execution

namespace Text

/-- The same letter, be it capital or small; what is no Latin letter is only the same as itself. -/
def SameLetter (c d : Char) : Prop :=
  c = d ∨ ('A' ≤ c ∧ c ≤ 'Z' ∧ d.toNat = c.toNat + 32) ∨
    ('A' ≤ d ∧ d ≤ 'Z' ∧ c.toNat = d.toNat + 32)

def EqualButCase (a b : String) : Prop := List.Forall₂ SameLetter a.toList b.toList

theorem toNat_toLower (c : Char) :
    c.toLower.toNat = if 'A' ≤ c ∧ c ≤ 'Z' then c.toNat + 32 else c.toNat := by
  by_cases hupper : 'A' ≤ c ∧ c ≤ 'Z'
  · have hlower : c.toLower.toNat = (c.val + ('a'.val - 'A'.val)).toNat :=
      congrArg Char.toNat (dif_pos hupper)
    have hle : c.toNat ≤ 90 := hupper.2
    have hsum : (c.val + ('a'.val - 'A'.val)).toNat = (c.toNat + 32) % 2 ^ 32 :=
      UInt32.toNat_add c.val 32
    rw [if_pos hupper]
    omega
  · rw [if_neg hupper]
    exact congrArg Char.toNat (dif_neg hupper)

theorem toLower_eq_toLower_iff {c d : Char} : c.toLower = d.toLower ↔ SameLetter c d := by
  have hA : ∀ e : Char, 'A' ≤ e ↔ 65 ≤ e.toNat := fun e => Iff.rfl
  have hZ : ∀ e : Char, e ≤ 'Z' ↔ e.toNat ≤ 90 := fun e => Iff.rfl
  rw [SameLetter, ← Char.toNat_inj, ← Char.toNat_inj, toNat_toLower, toNat_toLower]
  simp only [hA, hZ]
  split <;> split <;> omega

theorem sameName_iff {a b : String} : sameName a b = true ↔ EqualButCase a b := by
  rw [sameName, beq_iff_eq, asciiLower, asciiLower, String.ofList_inj, EqualButCase,
    ← List.forall₂_eq_eq_eq, List.forall₂_map_left_iff, List.forall₂_map_right_iff]
  simp only [toLower_eq_toLower_iff]

theorem sameName_self (name : String) : sameName name name = true := beq_self_eq_true _

end Text

/-- The headers that come of those of a configuration and those of a step. -/
structure Merged (defaults own : Fields String) (fill : String → String) (headers : Fields String) :
    Prop where
  distinct : headers.names.Nodup
  mem_iff : ∀ name value, (name, value) ∈ headers ↔
    (∃ text, (name, text) ∈ own ∧ value = fill text) ∨
      (∃ text, (name, text) ∈ defaults ∧ value = fill text) ∧
        ∀ other ∈ own.names, ¬Text.EqualButCase other name
  replaced : ∀ name ∈ headers.names, ∀ other ∈ own.names, Text.EqualButCase other name →
    name ∈ own.names
  kept : ∀ name ∈ defaults.names, (∀ other ∈ own.names, ¬Text.EqualButCase other name) →
    name ∈ headers.names

section Merging

variable {defaults own others more : Fields String} {fill : String → String}

def undisputed (defaults own : Fields String) : Fields String :=
  defaults.filter fun entry => !own.any fun other => Text.sameName other.1 entry.1

theorem mem_undisputed {entry : String × String} : entry ∈ undisputed defaults own ↔
    entry ∈ defaults ∧ ∀ other ∈ own.names, ¬Text.EqualButCase other entry.1 := by
  have hany : (own.any fun other => Text.sameName other.1 entry.1) = false ↔
      ∀ other ∈ own.names, ¬Text.EqualButCase other entry.1 := by
    simp only [Fields.names, List.forall_mem_map, List.any_eq_false, Text.sameName_iff]
  rw [undisputed, List.mem_filter, Bool.not_eq_true', hany]

theorem nodup_names_undisputed_append (hdefaults : defaults.names.Nodup)
    (hown : own.names.Nodup) : (Fields.names (undisputed defaults own ++ own)).Nodup := by
  have hnodup : (Fields.names (undisputed defaults own)).Nodup :=
    hdefaults.sublist (List.filter_sublist.map Prod.fst)
  rw [Fields.names, List.map_append, List.nodup_append]
  refine ⟨hnodup, hown, ?_⟩
  rintro name hname other hother rfl
  obtain ⟨entry, hentry, rfl⟩ := List.mem_map.mp hname
  have hself : Text.EqualButCase entry.1 entry.1 := Text.sameName_iff.mp (Text.sameName_self _)
  exact (mem_undisputed.mp hentry).2 entry.1 hother hself

def filled (fill : String → String) (fields : Fields String) : Fields String :=
  fields.map fun entry => (entry.1, fill entry.2)

theorem names_filled (fields : Fields String) : (filled fill fields).names = fields.names := by
  rw [filled, Fields.names, List.map_map]
  rfl

theorem mem_filled {fields : Fields String} {name value : String} :
    (name, value) ∈ filled fill fields ↔ ∃ text, (name, text) ∈ fields ∧ value = fill text := by
  constructor
  · intro h
    obtain ⟨entry, hentry, heq⟩ := List.mem_map.mp h
    cases heq
    exact ⟨entry.2, hentry, rfl⟩
  · rintro ⟨text, htext, rfl⟩
    exact List.mem_map_of_mem htext

theorem merged_filled (hdefaults : defaults.names.Nodup) (hown : own.names.Nodup) :
    Merged defaults own fill (filled fill (undisputed defaults own ++ own)) where
  distinct := by
    rw [names_filled]
    exact nodup_names_undisputed_append hdefaults hown
  mem_iff := by
    intro name value
    rw [mem_filled]
    constructor
    · rintro ⟨text, hmem, rfl⟩
      rcases List.mem_append.mp hmem with hkept | hstep
      · obtain ⟨hdefault, hnone⟩ := mem_undisputed.mp hkept
        exact .inr ⟨⟨text, hdefault, rfl⟩, hnone⟩
      · exact .inl ⟨text, hstep, rfl⟩
    · rintro (⟨text, hstep, rfl⟩ | ⟨⟨text, hdefault, rfl⟩, hnone⟩)
      · exact ⟨text, List.mem_append_right _ hstep, rfl⟩
      · exact ⟨text, List.mem_append_left _ (mem_undisputed.mpr ⟨hdefault, hnone⟩), rfl⟩
  replaced := by
    intro name hname other hother hsame
    rw [names_filled] at hname
    obtain ⟨entry, hmem, rfl⟩ := List.mem_map.mp hname
    rcases List.mem_append.mp hmem with hkept | hstep
    · exact absurd hsame ((mem_undisputed.mp hkept).2 other hother)
    · exact List.mem_map_of_mem hstep
  kept := by
    intro name hname hnone
    rw [names_filled]
    obtain ⟨entry, hdefault, rfl⟩ := List.mem_map.mp hname
    have hkept : entry ∈ undisputed defaults own := mem_undisputed.mpr ⟨hdefault, hnone⟩
    exact List.mem_map_of_mem (List.mem_append_left _ hkept)

theorem Merged.of_perm {headers : Fields String} (h : Merged defaults own fill headers)
    (hdefaults : defaults.Perm others) (hown : own.Perm more) :
    Merged others more fill headers where
  distinct := h.distinct
  mem_iff name value := by
    simp only [h.mem_iff, hdefaults.mem_iff, hown.mem_iff, (hown.map Prod.fst).mem_iff,
      Fields.names]
  replaced := by
    simpa only [Fields.names, (hown.map Prod.fst).mem_iff] using h.replaced
  kept := by
    simpa only [Fields.names, (hown.map Prod.fst).mem_iff, (hdefaults.map Prod.fst).mem_iff]
      using h.kept

/-- No name is met twice, so nothing is replaced when the headers are put together. -/
theorem headers_eq_filled {m : Type → Type} (config : Config) (step : Step m) (context : Context)
    (hdefaults : config.headers.names.Nodup) (hown : step.headers.names.Nodup) :
    headers config step context =
      filled (Placeholder.substitute context)
        (undisputed config.headers step.headers ++ step.headers) := by
  have hnames := nodup_names_undisputed_append hdefaults hown
  rw [filled, List.map_append]
  apply Fields.merge_eq_append
  rw [← List.map_append]
  exact (names_filled _).symm ▸ hnames

end Merging

section Reading

variable {doc : Document}

theorem Document.nodup_names_of_textFields? {fields : Fields String}
    (h : doc.textFields? = some fields) : fields.names.Nodup := by
  obtain ⟨entries, -, h⟩ := Option.bind_eq_some_iff.mp h
  obtain ⟨texts, -, h⟩ := Option.bind_eq_some_iff.mp h
  cases h
  exact Fields.nodup_names_ofList texts

theorem nodup_names_of_withDefault {fields : Fields Document} {name : String}
    {headers : Fields String}
    (h : Document.withDefault fields name [] Document.textFields? = some headers) :
    headers.names.Nodup := by
  rcases Schema.of_withDefault h with rfl | ⟨doc, hread⟩
  · exact List.nodup_nil
  · exact Document.nodup_names_of_textFields? hread

theorem Config.nodup_names_headers {config : Config} (h : Config.ofDocument? doc = some config) :
    config.headers.names.Nodup := by
  iterate 3 obtain ⟨_, -, h⟩ := Option.bind_eq_some_iff.mp h
  obtain ⟨headers, hheaders, h⟩ := Option.bind_eq_some_iff.mp h
  iterate 6 obtain ⟨_, -, h⟩ := Option.bind_eq_some_iff.mp h
  cases h
  exact nodup_names_of_withDefault hheaders

theorem Step.nodup_names_headers {m : Type → Type} {step : Step m}
    (h : Step.ofDocument? doc = some step) : step.headers.names.Nodup := by
  iterate 6 obtain ⟨_, -, h⟩ := Option.bind_eq_some_iff.mp h
  obtain ⟨headers, hheaders, h⟩ := Option.bind_eq_some_iff.mp h
  iterate 2 obtain ⟨_, -, h⟩ := Option.bind_eq_some_iff.mp h
  cases h
  exact nodup_names_of_withDefault hheaders

end Reading

section Building

variable {world : World (StateM σ)} {config : Config} {registry : Registry (StateM σ)}
  {step : Step (StateM σ)} {context : Context}

theorem Yields.headers_eq {sent : Request}
    (h : Yields (Execution.request world config registry step context) (.ok sent)) :
    sent.headers = headers config step context := by
  unfold Execution.request at h
  split at h
  · cases h.of_pure
  · cases h.of_pure
  · obtain ⟨body, -, h⟩ := h.of_bind
    cases h.of_pure
    rfl

end Building

/-- Whatever the order of the headers of a configuration and of a step, a request is built for every
step with a method and a url, and its headers are those of the step and those of the configuration
that none of the step's has the name of in any case. -/
theorem headers_of_request (world : World (StateM σ)) (config : Config)
    (registry : Registry (StateM σ)) (step : Step (StateM σ)) (context : Context)
    (hdefaults : config.headers.names.Nodup) (hown : step.headers.names.Nodup)
    {defaults own : Fields String} (hdefaultsOrder : defaults.Perm config.headers)
    (hownOrder : own.Perm step.headers) (s : σ) :
    match ((request world { config with headers := defaults } registry
      { step with headers := own } context).run s).1 with
    | .ok sent =>
      Merged config.headers step.headers (Placeholder.substitute context) sent.headers
    | .error _ => ¬Sendable step := by
  have hdefaultNames : defaults.names.Nodup := (hdefaultsOrder.map Prod.fst).nodup_iff.mpr hdefaults
  have hownNames : own.names.Nodup := (hownOrder.map Prod.fst).nodup_iff.mpr hown
  split
  · rename_i sent hrun
    have hyields : Yields (request world { config with headers := defaults } registry
        { step with headers := own } context) (.ok sent) := ⟨s, hrun⟩
    rw [hyields.headers_eq, headers_eq_filled _ _ context hdefaultNames hownNames]
    exact (merged_filled hdefaultNames hownNames).of_perm hdefaultsOrder hownOrder
  · rename_i error hrun
    have hyields : Yields (request world { config with headers := defaults } registry
        { step with headers := own } context) (.error error) := ⟨s, hrun⟩
    rcases hyields.request with ⟨-, sent, hsent⟩ | ⟨hnot, -⟩
    · cases hsent
    · exact hnot

namespace Sample

def credentials : Config :=
  { Config.default with
    headers := [("Authorization", "Bearer \x7btoken\x7d"), ("X-Trace", "\x7brun\x7d"),
      ("AUTHORIZATION", "none")] }

def login : Step (StateM Nat) :=
  { Step.http "login" .post "/login" with headers := [("authorization", "Basic \x7buser\x7d")] }

end Sample

/-- The headers of the configuration are looked at from the last to the first, and those that give
way to the step's are gone. -/
theorem headers_of_sample_request :
    Sample.credentials.headers.names.Nodup ∧ Sample.login.headers.names.Nodup ∧
    ∃ sent, ((request Sample.world
        { Sample.credentials with headers := Sample.credentials.headers.reverse } Sample.registry
        Sample.login [("user", .string "kit")]).run 0).1 = .ok sent ∧
      sent.headers.names = ["X-Trace", "authorization"] ∧
      Merged Sample.credentials.headers Sample.login.headers
        (Placeholder.substitute [("user", .string "kit")]) sent.headers := by
  have hdefaults : Sample.credentials.headers.names.Nodup := by decide
  have hown : Sample.login.headers.names.Nodup := by decide
  have hmerged := headers_of_request Sample.world Sample.credentials Sample.registry Sample.login
    [("user", .string "kit")] hdefaults hown (List.reverse_perm _) (List.Perm.refl _) 0
  exact ⟨hdefaults, hown, _, rfl, by decide, hmerged⟩

end HttpScenario
