import AppendLog.Proofs.Json.Print
import AppendLog.Proofs.Renderer.Lines
import AppendLog.Proofs.Wire.Text

/-!
# Runs line by line

Each line of an input is answered by itself, `answersTo`, whatever stands in the other lines. A run
goes on through the lines that pass and ends in one of three ways, as `Course` lists them: at the
end of the input, after the answer to a line that stops it, or in front of a line that is no text.
-/

namespace AppendLog.Renderer

variable {line : List UInt8} {lines before after : List (List UInt8)} {text : String}
  {answers : List Answer} {code : Nat}

/-! ## Lines by themselves -/

/-- A line is the UTF-8 form of a text. -/
def Holds (line : List UInt8) (text : String) : Prop := text.toUTF8 = ⟨line.toArray⟩

theorem holds_iff : Holds line text ↔ String.fromUTF8? ⟨line.toArray⟩ = some text := by
  constructor
  · intro h
    rw [← h, fromUTF8?_toUTF8]
  · intro h
    rw [String.fromUTF8?] at h
    split at h
    · cases h
      rfl
    · cases h

/-- A line is an instruction to stop. -/
def Stops (line : List UInt8) : Prop :=
  ∃ text instruction, Holds line text ∧ readLine text = .ok instruction ∧
    instruction.kind = "shutdown"

/-- A line is a text and no instruction to stop. -/
def Passes (line : List UInt8) : Prop := (∃ text, Holds line text) ∧ ¬ Stops line

/-- What a line is answered: nothing if it is blank or no text, and one answer otherwise. -/
def answersTo (line : List UInt8) : List Answer :=
  match String.fromUTF8? ⟨line.toArray⟩ with
  | none => []
  | some text => if Text.isBlank text then [] else [answerLine text]

theorem answersTo_of_holds (h : Holds line text) :
    answersTo line = if Text.isBlank text then [] else [answerLine text] := by
  rw [answersTo, holds_iff.1 h]

theorem respond_of_holds (h : Holds line text) :
    respond line = if Text.isBlank text then .nothing else .answer (answerLine text) := by
  rw [respond, holds_iff.1 h]

/-! ## The instruction to stop -/

theorem answer_eq_stopping_iff (instruction : Instruction) :
    instruction.answer = .stopping ↔ instruction.kind = "shutdown" := by
  rw [Instruction.answer]
  split
  · next h => simp [h]
  · next h =>
    rw [h]
    split <;> simp [Answer.ofFault]
  · next h =>
    rw [h]
    split <;> simp [Answer.ofFault]
  · next h => simp [h]
  · next h => exact iff_of_false (by simp) h

theorem answerLine_eq_stopping_iff (text : String) :
    answerLine text = .stopping ↔
      ∃ instruction, readLine text = .ok instruction ∧ instruction.kind = "shutdown" := by
  rw [answerLine]
  cases hread : readLine text with
  | error defect => simp
  | ok instruction => simp [answer_eq_stopping_iff]

/-- A blank line holds no instruction. -/
theorem readLine_of_isBlank (h : Text.isBlank text = true) : readLine text = .error .notJson := by
  rw [readLine, Json.parse?_of_isBlank h]

theorem stops_iff (h : Holds line text) :
    Stops line ↔ Text.isBlank text = false ∧ answerLine text = .stopping := by
  rw [answerLine_eq_stopping_iff]
  constructor
  · rintro ⟨text', instruction, h', hread, hkind⟩
    obtain rfl : text' = text := Option.some.inj ((holds_iff.1 h').symm.trans (holds_iff.1 h))
    refine ⟨?_, instruction, hread, hkind⟩
    rw [Bool.eq_false_iff]
    intro hblank
    rw [readLine_of_isBlank hblank] at hread
    cases hread
  · rintro ⟨_, instruction, hread, hkind⟩
    exact ⟨text, instruction, h, hread, hkind⟩

theorem answersTo_of_stops (h : Stops line) : answersTo line = [.stopping] := by
  obtain ⟨text, _, htext, _⟩ := id h
  obtain ⟨hblank, hanswer⟩ := (stops_iff htext).1 h
  simp [answersTo_of_holds htext, hblank, hanswer]

/-- A line that passes is answered, if at all, by something else. -/
theorem stopping_notMem_of_passes (h : Passes line) : Answer.stopping ∉ answersTo line := by
  obtain ⟨⟨text, htext⟩, hstops⟩ := h
  intro hmem
  rw [answersTo_of_holds htext] at hmem
  split at hmem
  · cases hmem
  · next hblank =>
    have hanswer := List.mem_singleton.1 hmem
    exact hstops ((stops_iff htext).2 ⟨Bool.eq_false_iff.2 hblank, hanswer.symm⟩)

/-- A line that is answered by anything else passes, whatever is wrong with it. -/
theorem passes_of_mem_answersTo {answer : Answer} (h : answer ∈ answersTo line)
    (hne : answer ≠ .stopping) : Passes line := by
  constructor
  · cases hbytes : String.fromUTF8? ⟨line.toArray⟩ with
    | none =>
      rw [answersTo, hbytes] at h
      cases h
    | some text => exact ⟨text, holds_iff.2 hbytes⟩
  · intro hstops
    rw [answersTo_of_stops hstops] at h
    exact hne (List.mem_singleton.1 h)

/-! ## One line after another -/

theorem runLines_cons_of_passes (h : Passes line) (after : List (List UInt8)) :
    runLines (line :: after) =
      ⟨answersTo line ++ (runLines after).answers, (runLines after).failed⟩ := by
  obtain ⟨text, htext⟩ := h.1
  cases hblank : Text.isBlank text with
  | true =>
    rw [answersTo_of_holds htext, runLines, respond_of_holds htext, hblank]
    rfl
  | false =>
    have hanswer : answerLine text ≠ .stopping := fun hanswer =>
      h.2 ((stops_iff htext).2 ⟨hblank, hanswer⟩)
    simp [answersTo_of_holds htext, runLines, respond_of_holds htext, hblank]

theorem runLines_cons_of_stops (h : Stops line) (after : List (List UInt8)) :
    runLines (line :: after) = ⟨answersTo line, false⟩ := by
  obtain ⟨text, _, htext, _⟩ := id h
  obtain ⟨hblank, hanswer⟩ := (stops_iff htext).1 h
  rw [answersTo_of_stops h, runLines, respond_of_holds htext, hblank, hanswer]
  rfl

theorem runLines_cons_of_failure (h : ¬ ∃ text, Holds line text) (after : List (List UInt8)) :
    runLines (line :: after) = ⟨[], true⟩ := by
  have hbytes : String.fromUTF8? ⟨line.toArray⟩ = none := by
    rw [Option.eq_none_iff_forall_ne_some]
    intro text htext
    exact h ⟨text, holds_iff.2 htext⟩
  simp [runLines, respond, hbytes]

/-- Lines that pass are answered one by one, and the run goes on after them. -/
theorem runLines_append (h : ∀ line ∈ before, Passes line) (after : List (List UInt8)) :
    runLines (before ++ after) =
      ⟨before.flatMap answersTo ++ (runLines after).answers, (runLines after).failed⟩ := by
  induction before with
  | nil => rfl
  | cons line before ih =>
    have hline := h line List.mem_cons_self
    have hbefore := ih fun other hother => h other (List.mem_cons_of_mem line hother)
    rw [List.cons_append, runLines_cons_of_passes hline, hbefore, List.flatMap_cons,
      List.append_assoc]

/-! ## The course of a run -/

/-- Lines with the answers to them and the exit code of the run. -/
inductive Course : List (List UInt8) → List Answer → Nat → Prop where
  /-- Every line passes. -/
  | through {lines : List (List UInt8)} (h : ∀ line ∈ lines, Passes line) :
    Course lines (lines.flatMap answersTo) 0
  /-- The first line that does not pass is an instruction to stop. It is answered, and nothing
  after it. -/
  | stopped {before : List (List UInt8)} {line : List UInt8} (h : ∀ line ∈ before, Passes line)
      (hline : Stops line) (after : List (List UInt8)) :
    Course (before ++ line :: after) ((before ++ [line]).flatMap answersTo) 0
  /-- The first line that does not pass is no text. -/
  | failed {before : List (List UInt8)} {line : List UInt8} (h : ∀ line ∈ before, Passes line)
      (hline : ¬ ∃ text, Holds line text) (after : List (List UInt8)) :
    Course (before ++ line :: after) (before.flatMap answersTo) 1

theorem Course.cons (h : Passes line) (hcourse : Course lines answers code) :
    Course (line :: lines) (answersTo line ++ answers) code := by
  have hmore {before : List (List UInt8)} (hbefore : ∀ other ∈ before, Passes other) :
      ∀ other ∈ line :: before, Passes other := List.forall_mem_cons.2 ⟨h, hbefore⟩
  cases hcourse with
  | through hlines => exact .through (hmore hlines)
  | stopped hbefore hline after => exact .stopped (hmore hbefore) hline after
  | failed hbefore hline after => exact .failed (hmore hbefore) hline after

theorem course_runLines (lines : List (List UInt8)) :
    Course lines (runLines lines).answers (runLines lines).exitCode := by
  induction lines with
  | nil => exact .through (List.forall_mem_nil _)
  | cons line lines ih =>
    by_cases htext : ∃ text, Holds line text
    · by_cases hstops : Stops line
      · have hcourse := Course.stopped (List.forall_mem_nil _) hstops lines
        rw [runLines_cons_of_stops hstops]
        simpa [Run.exitCode] using hcourse
      · rw [runLines_cons_of_passes ⟨htext, hstops⟩]
        exact ih.cons ⟨htext, hstops⟩
    · rw [runLines_cons_of_failure htext]
      exact .failed (List.forall_mem_nil _) htext lines

/-- Lines have one course. -/
theorem course_iff : Course lines answers code ↔
    (runLines lines).answers = answers ∧ (runLines lines).exitCode = code := by
  constructor
  · intro h
    cases h with
    | through h =>
      have hrun := runLines_append h []
      rw [List.append_nil] at hrun
      rw [hrun]
      exact ⟨List.append_nil _, rfl⟩
    | stopped h hline after =>
      rw [runLines_append h, runLines_cons_of_stops hline]
      exact ⟨by simp, rfl⟩
    | failed h hline after =>
      rw [runLines_append h, runLines_cons_of_failure hline]
      exact ⟨List.append_nil _, rfl⟩
  · rintro ⟨rfl, rfl⟩
    exact course_runLines lines

/-! ## One input after another -/

/-- A run that neither stops nor fails is one whose lines all pass. -/
theorem forall_passes_iff : (∀ line ∈ lines, Passes line) ↔
    Answer.stopping ∉ (runLines lines).answers ∧ (runLines lines).exitCode = 0 := by
  constructor
  · intro h
    obtain ⟨hanswers, hcode⟩ := course_iff.1 (.through h)
    refine ⟨?_, hcode⟩
    rw [hanswers, List.mem_flatMap]
    rintro ⟨line, hline, hmem⟩
    exact stopping_notMem_of_passes (h line hline) hmem
  · rintro ⟨hstopping, hcode⟩
    obtain ⟨answers, code, hcourse⟩ : ∃ answers code, Course lines answers code :=
      ⟨_, _, course_runLines lines⟩
    rw [(course_iff.1 hcourse).1] at hstopping
    rw [(course_iff.1 hcourse).2] at hcode
    cases hcourse with
    | through h => exact h
    | @stopped before line _ hline after =>
      rw [List.flatMap_append, List.flatMap_singleton, answersTo_of_stops hline] at hstopping
      exact absurd (List.mem_append_right _ (List.mem_singleton_self _)) hstopping
    | failed => cases hcode

/-- A run that is over does not get to what follows. -/
theorem runLines_append_of_not_passes (h : ¬ ∀ line ∈ lines, Passes line)
    (after : List (List UInt8)) : runLines (lines ++ after) = runLines lines := by
  obtain ⟨answers, code, hcourse⟩ : ∃ answers code, Course lines answers code :=
    ⟨_, _, course_runLines lines⟩
  cases hcourse with
  | through hlines => exact absurd hlines h
  | stopped hbefore hline rest =>
    rw [List.append_assoc, List.cons_append, runLines_append hbefore, runLines_append hbefore,
      runLines_cons_of_stops hline, runLines_cons_of_stops hline]
  | failed hbefore hline rest =>
    rw [List.append_assoc, List.cons_append, runLines_append hbefore, runLines_append hbefore,
      runLines_cons_of_failure hline, runLines_cons_of_failure hline]

/-! ## Answers as they are written -/

namespace Answer

theorem plain_toJson (answer : Answer) : answer.toJson.Plain := by
  have htext (text : String) : (Json.ofText text).Plain := .string text
  have hword (n : UInt64) : (Json.ofWord n).Plain := .natural n.toNat
  cases answer with
  | ready => simp [toJson, Json.plain_ofMembers, htext, Json.Plain.bool]
  | rendered request =>
    have htokens (tokens : List String) : (Json.array (tokens.map .ofText)).Plain := by
      apply Json.Plain.array
      intro item hitem
      obtain ⟨token, _, rfl⟩ := List.mem_map.1 hitem
      exact htext token
    simp [toJson, Json.plain_ofMembers, htext, htokens, Json.Plain.bool]
  | identified id =>
    have hid : id.toJson.Plain := htext id.text
    simp [toJson, Json.plain_ofMembers, htext, hid, hword, Json.Plain.bool]
  | stopping => simp [toJson, Json.plain_ofMembers, htext, Json.Plain.bool]
  | refused subject code message =>
    simp [toJson, Json.plain_ofMembers, htext, Json.Plain.bool]

theorem parse?_line (answer : Answer) : Json.parse? answer.line = some answer.toJson :=
  Json.parse?_print answer.plain_toJson

theorem newline_notMem_line (answer : Answer) : '\n' ∉ answer.line.toList := by
  intro hmem
  exact absurd (Json.visible_print answer.plain_toJson '\n' hmem) (by decide)

end Answer

/-! ## Inputs -/

/-- What a run over an input is. -/
structure LineByLine (bytes : List UInt8) : Prop where
  /-- The answers and the exit code are those of the course of its lines. -/
  course : ∀ answers code, (∃ lines, Lines bytes lines ∧ Course lines answers code) ↔
    (run bytes).answers = answers ∧ (run bytes).exitCode = code
  /-- An answer is written as one line, a JSON text of what it says. -/
  oneLine : ∀ answer ∈ (run bytes).answers,
    '\n' ∉ answer.line.toList ∧ Json.parse? answer.line = some answer.toJson
  /-- No refusal ends a run. -/
  refusal : ∀ lines, Lines bytes lines → ∀ line ∈ lines, ∀ subject code message,
    .refused subject code message ∈ answersTo line → Passes line
  /-- A run that neither stops nor fails goes on with what follows, and one that does is over. -/
  goesOn : Complete bytes → .stopping ∉ (run bytes).answers → (run bytes).exitCode = 0 →
    ∀ rest, (run (bytes ++ rest)).answers = (run bytes).answers ++ (run rest).answers ∧
      (run (bytes ++ rest)).exitCode = (run rest).exitCode
  ended : Complete bytes → .stopping ∈ (run bytes).answers ∨ (run bytes).exitCode ≠ 0 →
    ∀ rest, run (bytes ++ rest) = run bytes

theorem run_lineByLine (bytes : List UInt8) : LineByLine bytes where
  course answers code := by
    rw [run, ← course_iff]
    constructor
    · rintro ⟨lines, hlines, hcourse⟩
      rw [lines_iff.1 hlines]
      exact hcourse
    · intro hcourse
      exact ⟨_, lines_splitLines bytes, hcourse⟩
  oneLine answer _ := ⟨answer.newline_notMem_line, answer.parse?_line⟩
  refusal _ _ _ _ _ _ _ hanswer := passes_of_mem_answersTo hanswer Answer.noConfusion
  goesOn hcomplete hstopping hcode rest := by
    have hpasses := forall_passes_iff.2 ⟨hstopping, hcode⟩
    obtain ⟨hanswers, -⟩ := course_iff.1 (.through hpasses)
    rw [run, run, splitLines_append hcomplete, runLines_append hpasses, hanswers]
    exact ⟨rfl, rfl⟩
  ended hcomplete hover rest := by
    have hpasses : ¬ ∀ line ∈ splitLines bytes, Passes line := by
      rw [forall_passes_iff, not_and_or, not_not]
      exact hover
    rw [run, run, splitLines_append hcomplete, runLines_append_of_not_passes hpasses]

/-- A blank line, a line that is JSON and no instruction, an instruction to stop, and a line that is
not reached. -/
example : run ("\r\n7\n[\"shutdown\"]\n".toUTF8.data.toList ++ [0xFF, newline]) =
    ⟨[.refused "unknown" "PARSE_ERROR" LineDefect.notInstruction.message, .stopping], false⟩ := by
  decide +kernel

end AppendLog.Renderer
