import AudioHost.Proofs.Plugin.Stems
import AudioHost.Proofs.Taxonomy.Categories

/-!
Keys in canonical form. A category text that names an analyser by its canonical form is about this
analyser just if the stem of the library is bare. Else the stem loses one more ending each time.
-/

namespace AudioHost.Taxonomy

open Identifier

theorem keyFor_canonical {id : Identifier} (h : ProperLabel id.label) :
    keyFor .vamp id.canonical.text = id.canonical.canonical.text := by
  unfold keyFor
  rw [ofText_canonical h]

theorem text_canonical_inj {id : Identifier} (h : ProperLabel id.label) :
    id.canonical.canonical.text = id.canonical.text ↔ id.canonical.canonical = id.canonical := by
  constructor
  · intro htext
    -- Both forms have the label, so each comes back from its text.
    have hagain : ProperLabel id.canonical.label := by
      rw [label_canonical]
      exact h
    have htwice := ofText_canonical hagain
    rw [htext, ofText_canonical h] at htwice
    exact (Except.ok.inj htwice).symm
  · intro heq
    rw [heq]

/-! ## The law -/

/-- A canonical form is its own canonical form just if the stem of the library is bare, which is to
have no dot but in front or to be the way up, and else it loses what stands behind the last dot. So
a key in canonical form is kept under itself, where the plugin is looked up, just if the stem is
bare. -/
theorem a_canonical_form_stays_just_if_its_stem_is_bare (id : Identifier) :
    (id.canonical.canonical = id.canonical ↔ Bare id.stem.toList) ∧
    (¬ Bare id.stem.toList → ∃ ending, '.' ∉ ending ∧
      id.canonical.library.toList = id.canonical.canonical.library.toList ++ '.' :: ending) ∧
    (ProperLabel id.label →
      (keyFor .vamp id.canonical.text = id.canonical.text ↔ Bare id.stem.toList)) := by
  refine ⟨canonical_canonical_iff id, fun hbare => ?_, fun hlabel => ?_⟩
  · obtain ⟨ending, hstem, hending⟩ := stemOf_not_bare (plain_stem id) hbare
    refine ⟨ending, hending, ?_⟩
    rw [library_canonical, library_canonical, toList_stem id.canonical, library_canonical]
    exact hstem
  · rw [keyFor_canonical hlabel, text_canonical_inj hlabel, canonical_canonical_iff]

/-- The stem of a library with one ending is bare. -/
theorem a_library_with_one_ending_keeps_its_key :
    let id : Identifier := ⟨.vamp, "/usr/lib/vamp/qm-vamp-plugins.so", "onsets"⟩
    Bare id.stem.toList ∧ ProperLabel id.label ∧ id.canonical.canonical = id.canonical ∧
      keyFor .vamp id.canonical.text = id.canonical.text := by
  intro id
  have hbare : Bare id.stem.toList := by decide +kernel
  have hlabel : ProperLabel id.label := by decide +kernel
  obtain ⟨hcanonical, _, hkey⟩ := a_canonical_form_stays_just_if_its_stem_is_bare id
  exact ⟨hbare, hlabel, hcanonical.mpr hbare, (hkey hlabel).mpr hbare⟩

/-- A library with two endings loses the second one when its canonical form is reduced again, and
the category that is given to the canonical form is not found. -/
theorem a_second_ending_is_lost :
    let id : Identifier := ⟨.vamp, "/usr/lib/vamp/qm.2.so", "onsets"⟩
    let t := (ofIndex none).readAll .vamp ["vamp:qm.2:onsets::Time"]
    id.canonical = ⟨.vamp, "qm.2", "onsets"⟩ ∧ id.canonical.canonical = ⟨.vamp, "qm", "onsets"⟩ ∧
      id.canonical.canonical ≠ id.canonical ∧ id.canonical.text = "vamp:qm.2:onsets" ∧
      t.fromEntries id = none := by
  decide +kernel

end AudioHost.Taxonomy
