import AudioHost.Plugin.Identifier
import AudioHost.Proofs.Text.Split

/-!
Identifiers with proper labels, and their texts. What can be read is the text of such an identifier,
and it names no other.
-/

namespace AudioHost

namespace PluginKind

theorem colon_not_mem_tag (kind : PluginKind) : ':' ∉ kind.tag.toList := by
  cases kind <;> decide

theorem ofTag?_tag (kind : PluginKind) : ofTag? kind.tag = some kind := by
  cases kind <;> decide

theorem ofTag?_eq_some_iff {tag : String} {kind : PluginKind} :
    ofTag? tag = some kind ↔ tag = kind.tag := by
  refine ⟨fun h => ?_, fun h => h ▸ ofTag?_tag kind⟩
  have hfound := List.find?_some h
  exact (beq_iff_eq.mp hfound).symm

end PluginKind

namespace Identifier

/-- A label is proper if it is not empty and has no colon. -/
def ProperLabel (label : String) : Prop := label ≠ "" ∧ ':' ∉ label.toList

instance (label : String) : Decidable (ProperLabel label) :=
  inferInstanceAs (Decidable (label ≠ "" ∧ ':' ∉ label.toList))

theorem checked_of_proper {label : String} (h : ProperLabel label) (kind : PluginKind)
    (library : String) : checked kind library label = .ok ⟨kind, library, label⟩ := by
  have hne : label.isEmpty = false := by simpa using h.1
  unfold checked
  rw [hne, if_neg Bool.false_ne_true, if_neg h.2]

/-- Only an identifier with a proper label passes the check, and it has the parts that it was made
from. -/
theorem checked_eq_ok {kind : PluginKind} {library label : String} {id : Identifier}
    (h : checked kind library label = .ok id) :
    ProperLabel label ∧ id = ⟨kind, library, label⟩ := by
  unfold checked at h
  split at h
  · cases h
  · next hne =>
    split at h
    · cases h
    · next hcolon =>
      cases h
      exact ⟨⟨by simpa using hne, hcolon⟩, rfl⟩

theorem toList_text (id : Identifier) : id.text.toList =
    id.kind.tag.toList ++ ':' :: (id.library.toList ++ ':' :: id.label.toList) := by
  simp [text, toString]

/-- An identifier with a proper label comes back from its text. The library may have colons, since
the label has none. -/
theorem ofText_text {id : Identifier} (h : ProperLabel id.label) : ofText id.text = .ok id := by
  have hne : id.label.toList.isEmpty = false := by simpa using h.1
  have hkind : readKind (String.ofList id.kind.tag.toList) = .ok id.kind := by
    rw [String.ofList_toList, readKind, PluginKind.ofTag?_tag]
  unfold ofText
  rw [toList_text, Text.splitFirst?_append id.kind.colon_not_mem_tag]
  dsimp only
  rw [Text.splitLast?_append h.2]
  dsimp only
  rw [hne, if_neg Bool.false_ne_true, hkind]
  simp only [Except.map, String.ofList_toList]

theorem readKind_eq_ok {tag : String} {kind : PluginKind} (h : readKind tag = .ok kind) :
    tag = kind.tag := by
  unfold readKind at h
  split at h
  · next hfound =>
    cases h
    exact PluginKind.ofTag?_eq_some_iff.mp hfound
  · cases h

/-- Only the text of an identifier with a proper label can be read as that identifier. -/
theorem text_of_ofText {s : String} {id : Identifier} (h : ofText s = .ok id) :
    id.text = s ∧ ProperLabel id.label := by
  unfold ofText at h
  rcases hfirst : Text.splitFirst? ':' s.toList with _ | ⟨tag, rest⟩
  · rw [hfirst] at h
    cases h
  rw [hfirst] at h
  dsimp only at h
  rcases hlast : Text.splitLast? ':' rest with _ | ⟨library, label⟩
  · rw [hlast] at h
    cases h
  rw [hlast] at h
  dsimp only at h
  split at h
  · cases h
  next hne =>
  rcases hkind : readKind (String.ofList tag) with e | kind
  · rw [hkind] at h
    cases h
  rw [hkind] at h
  cases h
  -- The pieces are put together again in the order in which they were cut.
  obtain ⟨hwhole, _⟩ := Text.splitFirst?_eq_some_iff.mp hfirst
  obtain ⟨rfl, hcolon⟩ := Text.splitLast?_eq_some_iff.mp hlast
  refine ⟨?_, ?_, ?_⟩
  · refine String.toList_injective ?_
    rw [toList_text, ← readKind_eq_ok hkind, hwhole]
    simp only [String.toList_ofList]
  · simpa using hne
  · rw [String.toList_ofList]
    exact hcolon

theorem ofText_eq_ok_iff {s : String} {id : Identifier} :
    ofText s = .ok id ↔ id.text = s ∧ ProperLabel id.label :=
  ⟨text_of_ofText, fun ⟨htext, hproper⟩ => htext ▸ ofText_text hproper⟩

theorem exists_checked_iff (kind : PluginKind) (library label : String) :
    (∃ id, checked kind library label = .ok id) ↔ ProperLabel label :=
  ⟨fun ⟨_, h⟩ => (checked_eq_ok h).1, fun h => ⟨_, checked_of_proper h kind library⟩⟩

/-! ## The law -/

/-- Identifiers that pass the check and texts that can be read are in bijection. A text that is read
gives an identifier with a proper label, whose text it is, and before its first colon stands the tag
of a kind. Parts pass the check just if the text of their identifier is read as this very
identifier, whatever the library is. So what can be read is the text of an identifier that passes
the check, and of only one. -/
theorem texts_pair_with_identifiers :
    (∀ s id, ofText s = .ok id → id.text = s ∧ id.label ≠ "" ∧ ':' ∉ id.label.toList ∧
      ∃ rest, Text.splitFirst? ':' s.toList = some (id.kind.tag.toList, rest)) ∧
    (∀ kind library label, (∃ id, checked kind library label = .ok id) ↔
      ofText (text ⟨kind, library, label⟩) = .ok ⟨kind, library, label⟩) ∧
    (∀ s, (∃ id, ofText s = .ok id) ↔
      ∃ kind library label id, checked kind library label = .ok id ∧ id.text = s) ∧
    ∀ id id' : Identifier, checked id.kind id.library id.label = .ok id →
      checked id'.kind id'.library id'.label = .ok id' → id.text = id'.text → id = id' := by
  refine ⟨fun s id h => ?_, fun kind library label => ?_, fun s => ⟨?_, ?_⟩, ?_⟩
  · obtain ⟨rfl, hne, hcolon⟩ := text_of_ofText h
    refine ⟨rfl, hne, hcolon, id.library.toList ++ ':' :: id.label.toList, ?_⟩
    rw [toList_text, Text.splitFirst?_append id.kind.colon_not_mem_tag]
  · rw [exists_checked_iff, ofText_eq_ok_iff]
    exact ⟨fun h => ⟨rfl, h⟩, And.right⟩
  · rintro ⟨id, h⟩
    obtain ⟨htext, hproper⟩ := text_of_ofText h
    exact ⟨id.kind, id.library, id.label, id, checked_of_proper hproper _ _, htext⟩
  · rintro ⟨kind, library, label, id, h, rfl⟩
    obtain ⟨hproper, rfl⟩ := checked_eq_ok h
    exact ⟨_, ofText_text hproper⟩
  · intro id id' h h' htext
    have hread := ofText_text (checked_eq_ok h).1
    rw [htext, ofText_text (checked_eq_ok h').1] at hread
    exact (Except.ok.inj hread).symm

/-- A library of colons only comes back from the text of its identifier. -/
theorem a_library_of_colons_is_read :
    ofText "vamp::::b" = .ok ⟨.vamp, "::", "b"⟩ ∧
      (text ⟨.vamp, "::", "b"⟩ = "vamp::::b" ∧ "b" ≠ "" ∧ ':' ∉ "b".toList) ∧
      ofText (text ⟨.vamp, "::", "b"⟩) = .ok ⟨.vamp, "::", "b"⟩ := by
  obtain ⟨hread, hchecked, _⟩ := texts_pair_with_identifiers
  have hvamp : ofText "vamp::::b" = .ok ⟨.vamp, "::", "b"⟩ := by rfl
  obtain ⟨htext, hne, hcolon, _⟩ := hread _ _ hvamp
  exact ⟨hvamp, ⟨htext, hne, hcolon⟩, (hchecked _ _ _).mp ⟨⟨.vamp, "::", "b"⟩, rfl⟩⟩

end Identifier

end AudioHost
