import Mathlib.Data.List.Nodup
import PadScribe.Config.Basic

/-!
# `Proofs.WrittenConfigs` — configurations as values and back

A configuration is written as a value with all its sections, and every section with all its fields. Reading takes less:
a section, the rules of a mode and every setting may be left out, and the object and the entries of its modes may have
further fields. So many values are read as the same configuration, and one of them is the one that it is written as.
Nothing is lost on the way back, whatever the sections hold, and writing what was read from any value settles it.

## Contents

* `Settings.ofJson_toJson`, `ModeBlock.ofJson_toJson`, `listsOfJson_listsToJson`, `ofJson_toJson` — what is written is
  read back
* `Settings.ofJson_sparse` — settings that are left out
* `sections`, `ofJson_sections`, `ModeBlock.ofJson_fields` — sections that are left out, and further fields
* **`read_back_settled`** — every configuration and every value
-/

namespace PadScribe

/-- Rows that are read one by one are read back, if every item is. -/
theorem mapM_read_back {α β : Type} (write : α → β) (read : β → Except ShapeError α)
    (h : ∀ a, read (write a) = .ok a) (as : List α) : (as.map write).mapM read = .ok as := by
  induction as with
  | nil => rfl
  | cons a as ih =>
      rw [List.map_cons, List.mapM_cons, h, ih]
      rfl

/-! ## What is written is read back -/

theorem Settings.ofJson_toJson (s : Settings) : Settings.ofJson s.toJson = .ok s := rfl

theorem ModeBlock.ofJson_toJson (b : ModeBlock) : ModeBlock.ofJson b.toJson = .ok b := rfl

namespace Config

theorem listsOfJson_listsToJson (lists : List (String × List Json)) :
    listsOfJson (listsToJson lists) = .ok lists :=
  mapM_read_back (fun l : String × List Json => (l.1, Json.arr l.2)) (fun f => f.2.elements.map (f.1, ·))
    (fun _ => rfl) lists

/-- **A configuration is read back** from the value that it is written as. -/
theorem ofJson_toJson (c : Config) : ofJson c.toJson = .ok c := by
  have hmodes : (c.modes.map ModeBlock.toJson).mapM ModeBlock.ofJson = .ok c.modes :=
    mapM_read_back _ _ ModeBlock.ofJson_toJson c.modes
  have hphrases := listsOfJson_listsToJson c.phraseLists
  have hmappings := listsOfJson_listsToJson c.wordMappings
  -- every section is found under its name, whatever it holds
  show (do
    let settings ← Settings.ofJson c.settings.toJson
    let modes ← (c.modes.map ModeBlock.toJson).mapM ModeBlock.ofJson
    let phraseLists ← listsOfJson (listsToJson c.phraseLists)
    let wordMappings ← listsOfJson (listsToJson c.wordMappings)
    return { settings, modes, phraseLists, wordMappings } : Except ShapeError Config) = .ok c
  rw [Settings.ofJson_toJson, hmodes, hphrases, hmappings]
  rfl

end Config

/-! ## What is left out -/

/-- The names of the settings. -/
def Settings.names : List String :=
  ["log_level", "spin_neutral_threshold", "spin_edge_threshold"]

/-- Settings that are taken over one after another, each once. -/
theorem Settings.foldlM_setField {fields : List (String × Json)} (hnames : ∀ f ∈ fields, f.1 ∈ names)
    (honce : (fields.map Prod.fst).Nodup) (s : Settings) : fields.foldlM setField s = .ok {
      logLevel := (Json.field? "log_level" fields).getD s.logLevel
      neutralThreshold := (Json.field? "spin_neutral_threshold" fields).getD s.neutralThreshold
      edgeThreshold := (Json.field? "spin_edge_threshold" fields).getD s.edgeThreshold } := by
  induction fields generalizing s with
  | nil => rfl
  | cons f rest ih =>
      obtain ⟨name, v⟩ := f
      rw [List.map_cons, List.nodup_cons] at honce
      have hrest := ih (fun f hf => hnames f (List.mem_cons_of_mem _ hf)) honce.2
      -- the name does not come again, so the setting is the last word on it
      have hgone : Json.field? name rest = none := by
        rw [Json.field?, List.lookup_eq_none_iff]
        intro f hf
        rw [bne_iff_ne]
        intro he
        exact honce.1 (List.mem_map.mpr ⟨f, hf, he.symm⟩)
      have hname : name ∈ names := hnames _ List.mem_cons_self
      rw [List.foldlM_cons]
      simp only [names, List.mem_cons, List.not_mem_nil, or_false] at hname
      rcases hname with rfl | rfl | rfl
      · refine (hrest { s with logLevel := v }).trans ?_
        rw [hgone]
        rfl
      · refine (hrest { s with neutralThreshold := v }).trans ?_
        rw [hgone]
        rfl
      · refine (hrest { s with edgeThreshold := v }).trans ?_
        rw [hgone]
        rfl

/-- **A setting that is left out** keeps its default. -/
theorem Settings.ofJson_sparse {fields : List (String × Json)} (hnames : ∀ f ∈ fields, f.1 ∈ names)
    (honce : (fields.map Prod.fst).Nodup) : Settings.ofJson (.obj fields) = .ok {
      logLevel := (Json.field? "log_level" fields).getD ({} : Settings).logLevel
      neutralThreshold := (Json.field? "spin_neutral_threshold" fields).getD ({} : Settings).neutralThreshold
      edgeThreshold := (Json.field? "spin_edge_threshold" fields).getD ({} : Settings).edgeThreshold } :=
  foldlM_setField hnames honce {}

/-- **The rules of a mode** may be left out, and its entry may have further fields. -/
theorem ModeBlock.ofJson_fields {fields others : List (String × Json)}
    (hmode : Json.field? "mode" fields = Json.field? "mode" others)
    (hrules : (Json.field? "rules" fields).getD (.arr []) = (Json.field? "rules" others).getD (.arr [])) :
    ModeBlock.ofJson (.obj fields) = ModeBlock.ofJson (.obj others) := by
  simp only [ofJson, hmode, hrules]

namespace Config

/-- The sections, each with what it holds when it is left out. -/
def sections : List (String × Json) :=
  [("settings", .obj []), ("modes", .arr []), ("phrase_list", .obj []), ("word_mapping", .obj [])]

/-- **Only the sections count**, and one that is left out is read as its default. -/
theorem ofJson_sections {fields others : List (String × Json)}
    (h : ∀ s ∈ sections, (Json.field? s.1 fields).getD s.2 = (Json.field? s.1 others).getD s.2) :
    ofJson (.obj fields) = ofJson (.obj others) := by
  simp only [sections, List.forall_mem_cons, List.not_mem_nil, false_imp_iff, implies_true, and_true] at h
  obtain ⟨hsettings, hmodes, hphrases, hmappings⟩ := h
  simp only [ofJson, hsettings, hmodes, hphrases, hmappings]

/-! ## Every configuration and every value -/

/-- **A configuration is read back as it was written, and what was read from any value is settled.** Every
configuration is read back from the value that it is written as. A value that is read as some configuration may be
replaced by what the configuration is written as: that is read as the same one, and written the same again. The value
need not be complete. Of its fields only the sections count, of those of a mode the declaration and the rules; and
sections, rules and settings that are left out are read as their defaults. -/
theorem read_back_settled :
    (∀ c : Config, ofJson c.toJson = .ok c) ∧
    (∀ (d : Json) (c : Config), ofJson d = .ok c →
      ofJson c.toJson = ofJson d ∧ (ofJson c.toJson).map toJson = .ok c.toJson) ∧
    (∀ fields others : List (String × Json),
      (∀ s ∈ sections, (Json.field? s.1 fields).getD s.2 = (Json.field? s.1 others).getD s.2) →
        ofJson (.obj fields) = ofJson (.obj others)) ∧
    (∀ fields others : List (String × Json), Json.field? "mode" fields = Json.field? "mode" others →
      (Json.field? "rules" fields).getD (.arr []) = (Json.field? "rules" others).getD (.arr []) →
        ModeBlock.ofJson (.obj fields) = ModeBlock.ofJson (.obj others)) ∧
    ∀ fields : List (String × Json), (∀ f ∈ fields, f.1 ∈ Settings.names) → (fields.map Prod.fst).Nodup →
      Settings.ofJson (.obj fields) = .ok {
        logLevel := (Json.field? "log_level" fields).getD ({} : Settings).logLevel
        neutralThreshold := (Json.field? "spin_neutral_threshold" fields).getD ({} : Settings).neutralThreshold
        edgeThreshold := (Json.field? "spin_edge_threshold" fields).getD ({} : Settings).edgeThreshold } := by
  refine ⟨ofJson_toJson, fun d c h => ⟨?_, ?_⟩, fun _ _ => ofJson_sections,
    fun _ _ => ModeBlock.ofJson_fields, fun _ => Settings.ofJson_sparse⟩
  · rw [ofJson_toJson, h]
  · rw [ofJson_toJson]
    rfl

/-- One section is left out, a further field stands in front, a mode has a note and no rules, and one setting is
given. -/
def sparse : Json :=
  .obj [("comment", .int 1), ("modes", .arr [.obj [("note", .null), ("mode", .str "[idle] -id a")]]),
    ("settings", .obj [("spin_edge_threshold", .int 1)]), ("word_mapping", .obj [("m", .arr [.str "hi -> hello"])])]

theorem read_back_settled_sparse : ∃ c, ofJson sparse = .ok c ∧
    c.toJson = .obj [
      ("settings", .obj [("log_level", .str "info"), ("spin_neutral_threshold", .real 0.08),
        ("spin_edge_threshold", .int 1)]),
      ("modes", .arr [.obj [("mode", .str "[idle] -id a"), ("rules", .arr [])]]),
      ("phrase_list", .obj []), ("word_mapping", .obj [("m", .arr [.str "hi -> hello"])])] ∧
    ofJson c.toJson = .ok c ∧ (ofJson c.toJson).map toJson = .ok c.toJson := by
  obtain ⟨-, hsettled, -⟩ := read_back_settled
  have h : ofJson sparse = .ok {
      settings := { edgeThreshold := .int 1 }
      modes := [⟨.str "[idle] -id a", []⟩]
      wordMappings := [("m", [.str "hi -> hello"])] } := rfl
  obtain ⟨hagain, hsame⟩ := hsettled sparse _ h
  exact ⟨_, h, rfl, hagain.trans h, hsame⟩

end Config

end PadScribe
