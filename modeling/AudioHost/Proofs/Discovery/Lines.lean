import Mathlib.Data.List.Forall2
import AudioHost.Discovery.Transcript
import AudioHost.Discovery.Verdict
import AudioHost.Proofs.Text.Split
import AudioHost.Proofs.Text.Utf8

/-!
What is told in lines is read as it was told. Lines come back from their bytes, a path comes back
from its request, and a verdict comes back from its answer, but for line ends in its message.
-/

namespace AudioHost

/-! ## Lines and bytes -/

namespace Transcript

/-- A text has no line end in it. -/
def IsLine (s : String) : Prop := '\n' ∉ s.toList ∧ '\r' ∉ s.toList

theorem IsLine.no_lineFeed {s : String} (h : IsLine s) : 10 ∉ Utf8.encode s := fun hmem =>
  h.1 (Utf8.mem_of_mem_encode hmem (by decide))

theorem IsLine.no_carriageReturn {s : String} (h : IsLine s) : 13 ∉ Utf8.encode s := fun hmem =>
  h.2 (Utf8.mem_of_mem_encode hmem (by decide))

theorem cutLines_line {bytes : List UInt8} (h : 10 ∉ bytes) (done rest : List UInt8) :
    cutLines done (bytes ++ 10 :: rest) = (done.reverse ++ bytes ++ [10]) :: cutLines [] rest := by
  induction bytes generalizing done with
  | nil => simp [cutLines]
  | cons b bytes ih =>
    rw [List.mem_cons, not_or] at h
    rw [List.cons_append, cutLines, if_neg (Ne.symm h.1), ih h.2]
    simp

theorem withoutEnd_line {bytes : List UInt8} (h : 13 ∉ bytes) :
    withoutEnd (bytes ++ [10]) = bytes := by
  have hlast : bytes.getLast? ≠ some 13 := fun hlast => h (List.mem_of_getLast? hlast)
  simp [withoutEnd, hlast]

/-- Lines come back from their bytes. -/
theorem ofBytes_bytesOf {lines : List String} (h : ∀ line ∈ lines, IsLine line)
    (ending : Ending) : ofBytes (bytesOf lines) ending = ⟨lines, ending⟩ := by
  rw [ofBytes, bytesOf]
  induction lines with
  | nil => rfl
  | cons line lines ih =>
    obtain ⟨hline, hlines⟩ := List.forall_mem_cons.mp h
    rw [List.flatMap_cons, List.append_assoc, List.singleton_append,
      cutLines_line hline.no_lineFeed, List.reverse_nil, List.nil_append, ofCut,
      withoutEnd_line hline.no_carriageReturn, Utf8.decode_encode, ih hlines]
    rfl

end Transcript

namespace Verdict

/-! ## Paths -/

/-- A character neither ends a field nor a line. -/
def Plain (c : Char) : Prop := c ≠ '|' ∧ c ≠ '\n' ∧ c ≠ '\r'

instance (c : Char) : Decidable (Plain c) := inferInstanceAs (Decidable (_ ∧ _ ∧ _))

/-- A character has a code of two plain characters, or it is plain itself and no percent sign. -/
theorem codeOf_cases (c : Char) :
    (∃ a b, codeOf c = some [a, b] ∧ decoded a b = some c ∧ Plain a ∧ Plain b) ∨
      (codeOf c = none ∧ c ≠ '%' ∧ Plain c) := by
  unfold codeOf
  split
  · exact Or.inl ⟨'2', '5', rfl, rfl, by decide, by decide⟩
  · exact Or.inl ⟨'7', 'C', rfl, rfl, by decide, by decide⟩
  · exact Or.inl ⟨'0', 'A', rfl, rfl, by decide, by decide⟩
  · exact Or.inl ⟨'0', 'D', rfl, rfl, by decide, by decide⟩
  · next hpercent hbar hfeed hreturn => exact Or.inr ⟨rfl, hpercent, hbar, hfeed, hreturn⟩

/-- A character comes back from how it is written. -/
theorem decode_encodeChar (c : Char) (cs : List Char) :
    decode (encodeChar c ++ cs) = c :: decode cs := by
  rcases codeOf_cases c with ⟨a, b, hcode, hback, _, _⟩ | ⟨hcode, hpercent, _⟩
  · simp [encodeChar, hcode, decode, hback]
  · rw [encodeChar, hcode, List.singleton_append, decode]
    exact fun _ _ _ heq _ => hpercent heq

/-- A path comes back from how it is written. -/
theorem decode_encode (cs : List Char) : decode (encode cs) = cs := by
  induction cs with
  | nil => rfl
  | cons c cs ih => rw [encode, List.flatMap_cons, decode_encodeChar, ← encode, ih]

theorem plain_of_mem_encode {c : Char} {cs : List Char} (h : c ∈ encode cs) : Plain c := by
  obtain ⟨d, _, hmem⟩ := List.mem_flatMap.mp h
  rcases codeOf_cases d with ⟨a, b, hcode, _, ha, hb⟩ | ⟨hcode, _, hplain⟩
  · simp only [encodeChar, hcode, List.mem_cons, List.not_mem_nil, or_false] at hmem
    rcases hmem with rfl | rfl | rfl
    · decide
    · exact ha
    · exact hb
  · rw [encodeChar, hcode] at hmem
    rwa [List.mem_singleton.mp hmem]

theorem encode_ne_nil {cs : List Char} (h : cs ≠ []) : encode cs ≠ [] := by
  intro hnil
  have hback := decode_encode cs
  rw [hnil] at hback
  exact h hback.symm

/-- A path comes back from its request. -/
theorem ofRequest_requestLine (p : Path) : ofRequest (requestLine p) = p := by
  simp [ofRequest, requestLine, decode_encode, Path.chars]

theorem isLine_requestLine (p : Path) : Transcript.IsLine (requestLine p) := by
  rw [Transcript.IsLine, requestLine, String.toList_ofList]
  exact ⟨fun h => (plain_of_mem_encode h).2.1 rfl, fun h => (plain_of_mem_encode h).2.2 rfl⟩

theorem requestLine_ne_empty {p : Path} (h : p.text ≠ "") : requestLine p ≠ "" := by
  intro hempty
  have hback := ofRequest_requestLine p
  rw [hempty] at hback
  exact h (congrArg Path.text hback.symm)

/-! ## Answers -/

/-- The message of a verdict on one line. -/
def onOneLine (v : Verdict) : Verdict :=
  { v with message := String.ofList (oneLine v.message.toList) }

/-- What is read of a verdict that is told. -/
def received (v : Verdict) : Verdict :=
  match failureCode v.status with
  | none => .success v.path
  | some _ => v.onOneLine

theorem ne_of_mem_oneLine {c : Char} {cs : List Char} (h : c ∈ oneLine cs) :
    c ≠ '\n' ∧ c ≠ '\r' := by
  obtain ⟨d, _, rfl⟩ := List.mem_map.mp h
  split
  · decide
  · next hplain =>
    rw [not_or] at hplain
    exact ⟨hplain.2, hplain.1⟩

theorem statusOfCode_failureCode {status : Status} {code : String}
    (h : failureCode status = some code) :
    statusOfCode code.toList = status ∧ ∀ c ∈ code.toList, Plain c := by
  cases status <;> cases h <;> simp [statusOfCode, Plain]

/-- The characters of an answer that tells of a success. -/
theorem toList_line_success {v : Verdict} (h : failureCode v.status = none) :
    v.line.toList = "SUCCESS".toList ++ '|' :: (encode v.path.chars ++ '|' :: []) := by
  simp [line, h, requestLine, toString]

/-- The characters of an answer that tells of a failure. -/
theorem toList_line_failure {v : Verdict} {code : String} (h : failureCode v.status = some code) :
    v.line.toList = "FAILURE".toList ++ '|' :: (encode v.path.chars ++
      '|' :: (code.toList ++ '|' :: oneLine v.message.toList)) := by
  simp [line, h, requestLine, toString]

/-- An answer is one line. -/
theorem isLine_line (v : Verdict) : Transcript.IsLine v.line := by
  have hpath : ∀ c ∈ encode v.path.chars, c ≠ '\n' ∧ c ≠ '\r' := fun c hc =>
    (plain_of_mem_encode hc).2
  have hall : ∀ c ∈ v.line.toList, c ≠ '\n' ∧ c ≠ '\r' := by
    rcases hcode : failureCode v.status with _ | code
    · rw [toList_line_success hcode]
      simp only [List.forall_mem_append, List.forall_mem_cons]
      exact ⟨by simp, by decide, hpath, by decide, by simp⟩
    · rw [toList_line_failure hcode]
      simp only [List.forall_mem_append, List.forall_mem_cons]
      exact ⟨by simp, by decide, hpath, by decide,
        fun c hc => ((statusOfCode_failureCode hcode).2 c hc).2, by decide,
        fun c hc => ne_of_mem_oneLine hc⟩
  exact ⟨fun h => (hall _ h).1 rfl, fun h => (hall _ h).2 rfl⟩

theorem dropLineEnds_line {s : String} (h : Transcript.IsLine s) :
    dropLineEnds s.toList = s.toList := by
  -- The ends are dropped from the back, where the first character is none of them.
  have hkeep : s.toList.reverse.dropWhile (fun c => c = '\r' ∨ c = '\n') = s.toList.reverse := by
    rcases hcs : s.toList.reverse with _ | ⟨c, cs⟩
    · rfl
    · have hc : c ∈ s.toList := List.mem_reverse.mp (hcs ▸ List.mem_cons_self)
      refine List.dropWhile_cons_of_neg ?_
      simp only [decide_eq_true_eq, not_or]
      exact ⟨fun heq => h.2 (heq ▸ hc), fun heq => h.1 (heq ▸ hc)⟩
  rw [dropLineEnds, hkeep, List.reverse_reverse]

/-- A verdict comes back from its answer. -/
theorem ofLine?_line {v : Verdict} (h : v.path.text ≠ "") : ofLine? v.line = some v.received := by
  have hpath : '|' ∉ encode v.path.chars := fun hmem => (plain_of_mem_encode hmem).1 rfl
  have hne : (encode v.path.chars).isEmpty = false := by
    rw [List.isEmpty_eq_false_iff]
    exact encode_ne_nil fun hnil => h (String.toList_eq_nil_iff.mp hnil)
  have hback : (⟨String.ofList (decode (encode v.path.chars))⟩ : Path) = v.path := by
    rw [decode_encode]
    exact congrArg Path.mk String.ofList_toList
  rw [ofLine?, dropLineEnds_line (isLine_line v), received]
  -- No field before the message has a bar, so the message may have bars and stays whole.
  rcases hcode : failureCode v.status with _ | code
  · rw [toList_line_success hcode, Text.splitAtMost_append (by decide),
      Text.splitAtMost_append hpath]
    simp only [Text.splitAtMost, Text.splitFirst?, ofFields?, hne, hback, if_true,
      Bool.false_eq_true, if_false]
  · obtain ⟨hstatus, hplain⟩ := statusOfCode_failureCode hcode
    have hbar : '|' ∉ code.toList := fun hmem => (hplain _ hmem).1 rfl
    rw [toList_line_failure hcode, Text.splitAtMost_append (by decide),
      Text.splitAtMost_append hpath, Text.splitAtMost_append hbar]
    simp only [Text.splitAtMost, ofFields?, hne, hback, hstatus, Bool.false_eq_true, if_false]
    rw [if_neg (by decide), if_pos trivial]
    rfl

/-! ## The law -/

/-- All of a verdict is conveyed to whoever reads it, except that a library without an answer counts
as a success, that a success has no message, and that line ends in a message become spaces. -/
structure Conveyed (told read : Verdict) : Prop where
  path_eq : read.path = told.path
  status_eq : read.status = if told.status = .unknown then .loadable else told.status
  message_eq : read.message.toList =
    if read.status = .loadable then []
    else told.message.toList.map fun c => if c = '\r' ∨ c = '\n' then ' ' else c

theorem failureCode_eq_none_iff {status : Status} :
    failureCode status = none ↔ status = .loadable ∨ status = .unknown := by
  cases status <;> simp [failureCode]

theorem conveyed_received (v : Verdict) : Conveyed v v.received := by
  unfold received
  rcases hcode : failureCode v.status with _ | code
  · refine ⟨rfl, ?_, rfl⟩
    rcases failureCode_eq_none_iff.mp hcode with hstatus | hstatus <;> rw [hstatus] <;> rfl
  · have hfails : ¬ (v.status = .loadable ∨ v.status = .unknown) := by
      rw [← failureCode_eq_none_iff, hcode]
      exact Option.some_ne_none code
    rw [not_or] at hfails
    exact ⟨rfl, (if_neg hfails.2).symm, String.toList_ofList.trans (if_neg hfails.1).symm⟩

/-- The lines of answers, whether they are cut out of a text or out of its bytes, are read as what
the answers convey. -/
theorem ofLine?_lines {vs : List Verdict} (h : ∀ v ∈ vs, v.path.text ≠ "") (ending : Ending) :
    ((Text.lines (vs.flatMap fun v => v.line.toList ++ ['\n'])).map fun cs =>
        ofLine? (String.ofList cs)) = vs.map (fun v => some v.received) ∧
      (Transcript.ofBytes (Transcript.bytesOf (vs.map line)) ending).lines.map ofLine? =
        vs.map fun v => some v.received := by
  have hread : vs.map (fun v => ofLine? v.line) = vs.map fun v => some v.received :=
    List.map_congr_left fun v hv => ofLine?_line (h v hv)
  constructor
  · have hrows : vs.flatMap (fun v => v.line.toList ++ ['\n']) =
        (vs.map fun v => v.line.toList).flatMap fun row => row ++ ['\n'] := by
      rw [List.flatMap_map]
    have hlines : ∀ row ∈ vs.map fun v => v.line.toList, '\n' ∉ row ∧ '\r' ∉ row := by
      rintro _ hrow
      obtain ⟨v, _, rfl⟩ := List.mem_map.mp hrow
      exact isLine_line v
    rw [hrows, Text.lines_flatMap hlines, List.map_map, ← hread]
    refine List.map_congr_left fun v _ => ?_
    rw [Function.comp_apply, String.ofList_toList]
  · have hlines : ∀ told ∈ vs.map line, Transcript.IsLine told := by
      intro told hline
      obtain ⟨v, _, rfl⟩ := List.mem_map.mp hline
      exact isLine_line v
    rw [Transcript.ofBytes_bytesOf hlines, List.map_map, ← hread]
    rfl

/-- Nothing is lost on lines. The answer that tells a verdict is one line, and on a path that is not
empty it is read as what it conveys of the verdict. A request is one line without a bar, and gives
its path back. So answers that are written one on each line are read in their order, from the text
and from its bytes. -/
theorem nothing_is_lost_on_lines :
    (∀ v : Verdict, ('\n' ∉ v.line.toList ∧ '\r' ∉ v.line.toList) ∧
      (v.path.text ≠ "" → ∃ read, ofLine? v.line = some read ∧ Conveyed v read)) ∧
    (∀ p : Path, ofRequest (requestLine p) = p ∧ '|' ∉ (requestLine p).toList ∧
      '\n' ∉ (requestLine p).toList ∧ '\r' ∉ (requestLine p).toList) ∧
    ∀ (vs : List Verdict) (ending : Ending), (∀ v ∈ vs, v.path.text ≠ "") →
      ∃ reads, List.Forall₂ Conveyed vs reads ∧
        ((Text.lines (vs.flatMap fun v => v.line.toList ++ ['\n'])).map fun cs =>
          ofLine? (String.ofList cs)) = reads.map some ∧
        (Transcript.ofBytes (Transcript.bytesOf (vs.map line)) ending).lines.map ofLine? =
          reads.map some := by
  refine ⟨fun v => ⟨isLine_line v, fun hpath => ?_⟩, fun p => ?_, fun vs ending hpaths => ?_⟩
  · exact ⟨v.received, ofLine?_line hpath, conveyed_received v⟩
  · refine ⟨ofRequest_requestLine p, ?_, isLine_requestLine p⟩
    rw [requestLine, String.toList_ofList]
    exact fun hbar => (plain_of_mem_encode hbar).1 rfl
  · refine ⟨vs.map received, ?_, ?_⟩
    · rw [List.forall₂_map_right_iff, List.forall₂_same]
      exact fun v _ => conveyed_received v
    · rw [List.map_map]
      exact ofLine?_lines hpaths ending

/-- An answer about a path with every odd character is read, and the one after it, which has a
message although it tells of no failure. -/
theorem odd_answers_are_read_in_order :
    let odd : Verdict := ⟨⟨"/p/%7C|%\r\n.so"⟩, .failedElsewhere, "a|b\r\nc"⟩
    let late : Verdict := ⟨⟨" "⟩, .unknown, "late"⟩
    (∀ v ∈ [odd, late], v.path.text ≠ "") ∧
      ∃ reads : List Verdict,
        (Transcript.ofBytes (Transcript.bytesOf ([odd, late].map line)) .exited).lines.map
          ofLine? = reads.map some ∧
        reads.map (fun v => (v.path, v.status, v.message.toList)) =
          [(odd.path, .failedElsewhere, "a|b  c".toList), (late.path, .loadable, [])] := by
  intro odd late
  have hpaths : ∀ v ∈ [odd, late], v.path.text ≠ "" := by decide
  obtain ⟨reads, hconveyed, _, hbytes⟩ := nothing_is_lost_on_lines.2.2 [odd, late] .exited hpaths
  refine ⟨hpaths, reads, hbytes, ?_⟩
  rcases hconveyed with _ | ⟨hodd, _ | ⟨hlate, _ | _⟩⟩
  have hoddStatus := hodd.status_eq
  have hlateStatus := hlate.status_eq
  have hoddMessage := hodd.message_eq
  have hlateMessage := hlate.message_eq
  rw [hoddStatus] at hoddMessage
  rw [hlateStatus] at hlateMessage
  simp only [List.map_cons, List.map_nil, hodd.path_eq, hlate.path_eq, hoddStatus, hlateStatus,
    hoddMessage, hlateMessage]
  decide

end Verdict

end AudioHost
