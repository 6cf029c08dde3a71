import ClassScript.Proofs.Command.Reports
import ClassScript.Proofs.Json.Lossless

namespace ClassScript.Command

def messages (limit : Limit) (source : String) : List String := (limit.cut (problems source)).map Diagnostic.message

variable {limit : Limit} {source : String}

theorem messages_of_ok {program : Program} (sound : analyze limit source = .ok program) : messages limit source = [] := by
  rw [messages, analyze_ok_iff_no_problem.mp ⟨program, sound⟩, Limit.cut_nil, List.map_nil]

theorem messages_of_error {diagnostics : List Diagnostic} (refused : analyze limit source = .error diagnostics) :
    messages limit source = diagnostics.map Diagnostic.message := by
  rw [messages, eq_cut_problems_of_error refused]

theorem errors_ofSource (limit : Limit) (source : String) :
    (Program.ofSource limit source).errors = messages limit source := by
  cases verdict : analyze limit source with
  | ok program => rw [ofSource_of_ok verdict, errors_eq_nil_of_ok verdict, messages_of_ok verdict]
  | error diagnostics => rw [ofSource_of_error verdict, messages_of_error verdict]

theorem messages_eq_nil_iff : messages limit source = [] ↔ problems source = [] := by
  rw [messages, List.map_eq_nil_iff, Limit.cut_eq_nil_iff]

theorem isOk_ofSource (limit : Limit) (source : String) :
    (Program.ofSource limit source).isOk = (problems source).isEmpty := by
  rw [Program.isOk, errors_ofSource, Bool.eq_iff_iff, List.isEmpty_iff, List.isEmpty_iff, messages_eq_nil_iff]

theorem statusOf_eq_zero_iff {good : Bool} : statusOf good = 0 ↔ good = true := by cases good <;> simp [statusOf]

def member? (name : String) : Json → Option Json
  | .obj members => members.lookup name
  | _ => none

def reportMessages? (report : Json) : Option (List String) :=
  report.list? fun problem => (member? "message" problem).bind Json.str?

def programMessages? (report : Json) : Option (List String) := (member? "errors" report).bind (Json.list? Json.str?)

theorem checkReport_messages (limit : Limit) (source : String) :
    reportMessages? (checkReport limit source) = some (messages limit source) := by
  cases verdict : analyze limit source with
  | ok program =>
    rw [checkReport, verdict, messages_of_ok verdict]
    rfl
  | error diagnostics =>
    rw [checkReport, verdict, messages_of_error verdict]
    exact Json.mapM_map fun problem _ => rfl

theorem programReport_messages (limit : Limit) (source : String) :
    programMessages? (Program.ofSource limit source).toJson = some (messages limit source) := by
  rw [← errors_ofSource]
  exact Json.list?_ofList fun message _ => rfl

namespace Invocation

variable {invocation : Invocation}

theorem unlessQuiet_loud (loud : invocation.quiet = false) (text : String) : invocation.unlessQuiet text = text := by
  simp [unlessQuiet, loud]

@[simp] theorem unlessQuiet_lines_nil : invocation.unlessQuiet (lines []) = "" := by
  unfold unlessQuiet
  split <;> rfl

theorem runResponse_json (json : invocation.format = .json) (source : String) :
    invocation.runResponse source =
      ⟨statusOf (problems source).isEmpty, line (Program.ofSource invocation.limit source).toJson.pretty, ""⟩ := by
  rw [runResponse, json, isOk_ofSource]

theorem runResponse_text (text : invocation.format = .text) (source : String) :
    ∃ stdout, invocation.runResponse source = ⟨statusOf (problems source).isEmpty, stdout, invocation.unlessQuiet
      (lines ((messages invocation.limit source).map fun message => s!"error: {message}"))⟩ := by
  simp only [runResponse, text, isOk_ofSource, errors_ofSource]
  split
  · rename_i sound
    have none : messages invocation.limit source = [] := messages_eq_nil_iff.mpr (List.isEmpty_iff.mp sound)
    exact ⟨_, by rw [none, List.map_nil, unlessQuiet_lines_nil]⟩
  · exact ⟨_, rfl⟩

theorem checkResponse_json (json : invocation.format = .json) (source : String) :
    invocation.checkResponse source =
      ⟨statusOf (problems source).isEmpty, line (checkReport invocation.limit source).pretty, ""⟩ := by
  cases verdict : analyze invocation.limit source with
  | ok program =>
    have none : problems source = [] := analyze_ok_iff_no_problem.mp ⟨program, verdict⟩
    rw [checkResponse, verdict, json, none]
    rfl
  | error diagnostics =>
    have some : problems source ≠ [] := problems_ne_nil_of_error verdict
    rw [checkResponse, verdict, json, List.isEmpty_eq_false_iff.mpr some]
    rfl

theorem checkResponse_text (text : invocation.format = .text) (source : String) :
    ∃ stdout, invocation.checkResponse source = ⟨statusOf (problems source).isEmpty, stdout, invocation.unlessQuiet
      (lines ((messages invocation.limit source).map fun message => s!"{invocation.file}: {message}"))⟩ := by
  cases verdict : analyze invocation.limit source with
  | ok program =>
    have none : problems source = [] := analyze_ok_iff_no_problem.mp ⟨program, verdict⟩
    rw [checkResponse, verdict, text, none, messages_of_ok verdict, List.map_nil, unlessQuiet_lines_nil]
    exact ⟨_, rfl⟩
  | error diagnostics =>
    have some : problems source ≠ [] := problems_ne_nil_of_error verdict
    rw [checkResponse, verdict, text, List.isEmpty_eq_false_iff.mpr some, messages_of_error verdict, List.map_map]
    exact ⟨_, rfl⟩

theorem runResponse_status (invocation : Invocation) (source : String) :
    (invocation.runResponse source).status = statusOf (problems source).isEmpty := by
  cases format : invocation.format with
  | json => rw [runResponse_json format]
  | text =>
    obtain ⟨stdout, answer⟩ := runResponse_text format source
    rw [answer]

theorem checkResponse_status (invocation : Invocation) (source : String) :
    (invocation.checkResponse source).status = statusOf (problems source).isEmpty := by
  cases format : invocation.format with
  | json => rw [checkResponse_json format]
  | text =>
    obtain ⟨stdout, answer⟩ := checkResponse_text format source
    rw [answer]

theorem tokensResponse_status (invocation : Invocation) (source : String) :
    (invocation.tokensResponse source).status = statusOf (scan source).strays.isEmpty := by
  rw [tokensResponse]
  split <;> rfl

end Invocation

/-- `run` and `check` have the same status, which is zero exactly if the source is good, and `tokens` fails only with
    them. Under the same limit `run` and `check` give the same messages, whichever form is asked for: as the errors of
    the program and as the messages of the report, once the printed text is read again, or line by line. Positions may be
    larger than machine numbers, though not those in a text that fits in memory. -/
theorem verbs_agree {run check tokens : Invocation} (isRun : run.verb = .run) (isCheck : check.verb = .check)
    (isTokens : tokens.verb = .tokens) (source : String) :
    (run.respond (.ok source)).status = (check.respond (.ok source)).status ∧
    (∀ limit, (run.respond (.ok source)).status = 0 ↔ ∃ program, analyze limit source = .ok program) ∧
    ((tokens.respond (.ok source)).status = 0 ↔ (scan source).strays = []) ∧
    ((tokens.respond (.ok source)).status ≠ 0 →
      (run.respond (.ok source)).status ≠ 0 ∧ (check.respond (.ok source)).status ≠ 0) ∧
    ∀ limit, run.limit = limit → check.limit = limit →
      (run.format = .json →
        (run.respond (.ok source)).stdout = line (Program.ofSource limit source).toJson.pretty ∧
        (Json.readExact? (run.respond (.ok source)).stdout).bind programMessages? = some (messages limit source) ∧
        (Json.read? (run.respond (.ok source)).stdout).bind programMessages? = some (messages limit source)) ∧
      (check.format = .json →
        (check.respond (.ok source)).stdout = line (checkReport limit source).pretty ∧
        (Json.readExact? (check.respond (.ok source)).stdout).bind reportMessages? = some (messages limit source) ∧
        (source.utf8ByteSize < 2 ^ 63 →
          (Json.read? (check.respond (.ok source)).stdout).bind reportMessages? = some (messages limit source))) ∧
      programMessages? (Program.ofSource limit source).toJson = some (messages limit source) ∧
      reportMessages? (checkReport limit source) = some (messages limit source) ∧
      (run.format = .text → run.quiet = false → (run.respond (.ok source)).stderr =
        lines ((messages limit source).map fun message => s!"error: {message}")) ∧
      (check.format = .text → check.quiet = false → (check.respond (.ok source)).stderr =
        lines ((messages limit source).map fun message => s!"{check.file}: {message}")) := by
  have runs : run.respond (.ok source) = run.runResponse source := by rw [Invocation.respond, isRun]
  have checks : check.respond (.ok source) = check.checkResponse source := by rw [Invocation.respond, isCheck]
  have lists : tokens.respond (.ok source) = tokens.tokensResponse source := by rw [Invocation.respond, isTokens]
  rw [runs, checks, lists, Invocation.runResponse_status, Invocation.checkResponse_status,
    Invocation.tokensResponse_status]
  refine ⟨rfl, ?_, ?_, ?_, ?_⟩
  · intro limit
    rw [statusOf_eq_zero_iff, List.isEmpty_iff, analyze_ok_iff_no_problem]
  · rw [statusOf_eq_zero_iff, List.isEmpty_iff]
  · simp only [ne_eq, statusOf_eq_zero_iff, List.isEmpty_iff, problems_eq_nil_iff]
    intro stray
    exact ⟨fun sound => stray sound.1, fun sound => stray sound.1⟩
  · rintro limit rfl same
    have program := programReport_messages run.limit source
    have report := checkReport_messages run.limit source
    refine ⟨?_, ?_, program, report, ?_, ?_⟩
    · intro json
      rw [Invocation.runResponse_json json, readExact?_programReport, read?_programReport]
      exact ⟨rfl, program, program⟩
    · intro json
      rw [Invocation.checkResponse_json json, same, readExact?_checkReport]
      refine ⟨rfl, report, ?_⟩
      intro memory
      rw [read?_checkReport memory]
      exact report
    · intro text loud
      obtain ⟨stdout, answer⟩ := Invocation.runResponse_text text source
      rw [answer, Invocation.unlessQuiet_loud loud]
    · intro text loud
      obtain ⟨stdout, answer⟩ := Invocation.checkResponse_text text source
      rw [answer, Invocation.unlessQuiet_loud loud, same]

def strayInvocation (verb : Verb) (format : OutputFormat) : Invocation := ⟨verb, "shelf", some 1, format, false⟩

/-- Of two stray runs the limit lets one through, and `run` and `check` report the same one, in text and in JSON. -/
theorem verbs_agree_stray :
    ((strayInvocation .tokens .text).respond (.ok "define é#\nB $")).status ≠ 0 ∧
    ((strayInvocation .run .text).respond (.ok "define é#\nB $")).status ≠ 0 ∧
    ((strayInvocation .run .text).respond (.ok "define é#\nB $")).stderr = "error: unrecognized input 'é#' at 1:8\n" ∧
    ((strayInvocation .check .text).respond (.ok "define é#\nB $")).stderr =
      "shelf: unrecognized input 'é#' at 1:8\n" ∧
    ((strayInvocation .run .json).respond (.ok "define é#\nB $")).stdout = "\x7b\n  \"classes\": [],\n  \"instances\": [],\n" ++
      "  \"errors\": [\n    \"unrecognized input 'é#' at 1:8\"\n  ]\n\x7d\n" ∧
    (Json.read? ((strayInvocation .run .json).respond (.ok "define é#\nB $")).stdout).bind programMessages? =
      some ["unrecognized input 'é#' at 1:8"] ∧
    ((strayInvocation .check .json).respond (.ok "define é#\nB $")).stdout = "[\n  \x7b\n    \"column\": 8,\n    \"line\": 1,\n" ++
      "    \"message\": \"unrecognized input 'é#' at 1:8\",\n    \"offset\": 7,\n    \"stage\": \"lex\"\n  \x7d\n]\n" ∧
    (Json.read? ((strayInvocation .check .json).respond (.ok "define é#\nB $")).stdout).bind reportMessages? =
      some ["unrecognized input 'é#' at 1:8"] := by
  obtain ⟨_, _, clean, fails, inText⟩ := @verbs_agree (strayInvocation .run .text) (strayInvocation .check .text)
    (strayInvocation .tokens .text) rfl rfl rfl "define é#\nB $"
  obtain ⟨_, _, _, _, inJson⟩ := @verbs_agree (strayInvocation .run .json) (strayInvocation .check .json)
    (strayInvocation .tokens .json) rfl rfl rfl "define é#\nB $"
  have stray : (scan "define é#\nB $").strays ≠ [] := by decide +kernel
  have first : messages (some 1) "define é#\nB $" = ["unrecognized input 'é#' at 1:8"] := by decide +kernel
  obtain ⟨_, _, _, _, runText, checkText⟩ := inText (some 1) rfl rfl
  obtain ⟨runJson, checkJson, _⟩ := inJson (some 1) rfl rfl
  obtain ⟨runPrinted, _, runRead⟩ := runJson rfl
  obtain ⟨checkPrinted, _, checkRead⟩ := checkJson rfl
  rw [first] at runText checkText runRead checkRead
  exact ⟨mt clean.mp stray, (fails (mt clean.mp stray)).1, (runText rfl rfl).trans (by decide +kernel),
    (checkText rfl rfl).trans (by decide +kernel), runPrinted.trans (by decide +kernel), runRead,
    checkPrinted.trans (by decide +kernel), checkRead (by decide)⟩

end ClassScript.Command
