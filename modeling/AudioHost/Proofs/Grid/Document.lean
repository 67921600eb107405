import AudioHost.Grid.Rows
import AudioHost.Proofs.Text.Markup

/-!
The names of bins in the markup document of a grid. A name is written in quotes with entities, and a
reader that goes from the opening quote to the next one finds the name again, whatever it holds.
-/

namespace AudioHost.Grid

variable {g : Grid} {n : Nat} {name line : String}

/-! ## Lines of bins -/

theorem toList_field (name value : String) :
    (field name value).toList = ' ' :: (name.toList ++ '=' :: '"' :: (value.toList ++ ['"'])) := by
  have happend : field name value = " " ++ name ++ "=\"" ++ value ++ "\"" := rfl
  simp [happend]

/-- The line of a bin up to the opening quote of its name. -/
def binOpening (n : Nat) : String := "  <bin" ++ field "number" (toString n) ++ " name="

theorem mem_binElements (hname : g.binNames[n]? = some name) (hne : name ≠ "") :
    "  <bin" ++ field "number" (toString n) ++ field "name" (Markup.escape name) ++ "/>" ∈
      g.binElements := by
  rw [binElements, List.mem_filterMap]
  refine ⟨(name, n), List.mk_mem_zipIdx_iff_getElem?.mpr hname, ?_⟩
  simp [hne]

theorem join_map_of_mem {lines : List String} (h : line ∈ lines) (f : String → String) :
    ∃ before after, String.join (lines.map f) = before ++ f line ++ after := by
  obtain ⟨front, back, rfl⟩ := List.append_of_mem h
  refine ⟨String.join (front.map f), String.join (back.map f), ?_⟩
  rw [List.map_append, List.map_cons, String.join_append, String.join_cons, String.append_assoc]

theorem document_binElement (hline : line ∈ g.binElements) (id indent extra : String) :
    ∃ before after, g.document id indent extra = before ++ (indent ++ line ++ "\n") ++ after := by
  unfold document
  apply join_map_of_mem _ fun line => indent ++ line ++ "\n"
  simp [hline]

/-- The name of a bin stands in quotes, and its line ends right behind the closing quote. -/
theorem document_binName (hname : g.binNames[n]? = some name) (hne : name ≠ "")
    (id indent extra : String) :
    ∃ before after, g.document id indent extra = before ++ indent ++ binOpening n ++ after ∧
      ∃ rest, after.toList =
        '"' :: (Markup.encode name.toList ++ '"' :: ("/>\n".toList ++ rest)) := by
  have hline := mem_binElements hname hne
  obtain ⟨before, after, hdocument⟩ := document_binElement hline id indent extra
  refine ⟨before, "\"" ++ Markup.escape name ++ "\"/>\n" ++ after, ?_, after.toList, ?_⟩
  · rw [hdocument, ← String.toList_inj]
    simp [binOpening, toList_field]
  · simp [Markup.escape]

/-! ## The law -/

/-- A text is written without a quote or an angle bracket, and each mark in it begins one of the
five entities. What is read from left to right is the text again, so texts that differ are written
differently. In a document the name of a bin ends at its own closing quote: a reader that starts at
the opening one finds the name, and right behind it the end of the line. -/
theorem a_text_is_written_in_markup_and_read_back (text : String) :
    (∀ c ∈ ['<', '>', '"', '\''], c ∉ (Markup.escape text).toList) ∧
    (∀ before after, (Markup.escape text).toList = before ++ '&' :: after →
      ∃ entity ∈ ["amp;", "lt;", "gt;", "quot;", "apos;"], entity.toList <+: after) ∧
    Markup.decode (Markup.escape text).toList = text.toList ∧
    (∀ other, Markup.escape other = Markup.escape text → other = text) ∧
    ∀ (g : Grid) (n : Nat) (id indent extra : String), g.binNames[n]? = some text → text ≠ "" →
      ∃ before after rest, g.document id indent extra = before ++ indent ++ binOpening n ++ after ∧
        Markup.quoted? after.toList = some (text.toList, "/>\n".toList ++ rest) := by
  have hwritten : (Markup.escape text).toList = Markup.encode text.toList := String.toList_ofList
  rw [hwritten]
  refine ⟨fun c hc => ?_, fun before after hmark => ?_, Markup.decode_encode _,
    fun other h => Markup.escape_injective h, fun g n id indent extra hname hne => ?_⟩
  · simp only [List.mem_cons, List.not_mem_nil, or_false] at hc
    rcases hc with rfl | rfl | rfl | rfl <;> exact Markup.not_mem_encode rfl (by decide) _
  · obtain ⟨c, name, hname, hafter⟩ := Markup.entity_of_mark ⟨before, hmark.symm⟩
    have htexts : ∀ e ∈ Markup.entities, ∃ entity ∈ ["amp;", "lt;", "gt;", "quot;", "apos;"],
        entity.toList = e.2 ++ [';'] := by
      decide
    obtain ⟨entity, hentity, htext⟩ := htexts _ (Markup.mem_entities hname)
    rw [← htext] at hafter
    exact ⟨entity, hentity, hafter⟩
  · obtain ⟨before, after, hdocument, rest, hquoted⟩ :=
      document_binName hname hne id indent extra
    refine ⟨before, after, rest, hdocument, ?_⟩
    rw [hquoted, Markup.quoted?_encode]

/-- A name holds what looks like an entity, next to a quote. -/
theorem a_name_that_looks_written_is_read_back :
    let name := "a&lt;\""
    let g := ((empty ⟨0x40e5888000000000⟩ 10 2 true).setBinName 1 name).1
    Markup.escape name = "a&amp;lt;&quot;" ∧ '"' ∉ "a&amp;lt;&quot;".toList ∧
      (∃ entity ∈ ["amp;", "lt;", "gt;", "quot;", "apos;"],
        entity.toList <+: "amp;lt;&quot;".toList) ∧
      Markup.decode "a&amp;lt;&quot;".toList = name.toList ∧
      Markup.escape "a<\"" ≠ "a&amp;lt;&quot;" ∧ g.binNames[1]? = some name ∧
      ∃ before after rest, g.document "7" "  " "" = before ++ "  " ++ binOpening 1 ++ after ∧
        Markup.quoted? after.toList = some (name.toList, "/>\n".toList ++ rest) := by
  intro name g
  have hwritten : Markup.escape name = "a&amp;lt;&quot;" := by decide
  have hname : g.binNames[1]? = some name := rfl
  obtain ⟨hbare, hmarks, hread, hsame, hdocument⟩ := a_text_is_written_in_markup_and_read_back name
  rw [hwritten] at hbare hmarks hread hsame
  refine ⟨hwritten, hbare '"' (by decide), hmarks ['a'] _ (by decide), hread, fun h => ?_, hname,
    hdocument g 1 "7" "  " "" hname (by decide)⟩
  exact absurd (hsame _ h) (by decide)

end AudioHost.Grid
