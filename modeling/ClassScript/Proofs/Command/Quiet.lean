import ClassScript.Proofs.Command.Agreement

namespace ClassScript.Command

def Options.hushed (options : Options) : Options := { options with quiet := true }

def Target.hushed (target : Target) : Target := { target with options := target.options.hushed }

def Invocation.hushed (invocation : Invocation) : Invocation := { invocation with quiet := true }

/-- Whether what follows these arguments is read apart from them: no option is left without its value, and there is no
    separator, which would make words of all that follows. -/
def Item.isSeam : List String → Bool
  | [] => true
  | argument :: rest =>
    match ofArgument argument with
    | .separator => false
    | .flag name =>
      if takesValue name then
        match rest with
        | value :: rest => isValue value && isSeam rest
        | [] => false
      else isSeam rest
    | _ => isSeam rest

theorem Item.ofArguments_append {before : List String} (seam : isSeam before = true) (after : List String) :
    ofArguments (before ++ after) = ofArguments before ++ ofArguments after := by
  fun_induction isSeam before with
  | case1 => rfl
  | case2 => cases seam
  | case3 argument name flag takes value rest ih =>
    obtain ⟨isValue, behind⟩ := Bool.and_eq_true_iff.mp seam
    simp [ofArguments, flag, takes, isValue, ih behind]
  | case4 => cases seam
  | case5 argument rest name flag free ih => simp [ofArguments, flag, free, ih seam]
  | case6 argument rest noSeparator noFlag ih =>
    rw [List.cons_append, ofArguments, ofArguments, ih seam]
    split
    · rename_i separator
      exact absurd separator noSeparator
    · rename_i flag
      exact absurd flag (noFlag _)
    · rfl

theorem Options.add?_hushed {options next : Options} {item : Item} (added : options.add? item = some next)
    (loud : next.quiet = false) : options.quiet = false ∧ options.hushed.add? item = some next.hushed := by
  unfold Options.add? at added ⊢
  split at added
  · split at added
    · cases added
    · rename_i value unset
      obtain ⟨format, named, rfl⟩ := Option.map_eq_some_iff.mp added
      exact ⟨loud, by simp [hushed, unset, named]⟩
  · split at added
    · cases added
    · cases added
      cases loud
  · cases added

theorem Target.add?_hushed {verb : Verb} {target next : Target} {item : Item} (added : target.add? verb item = some next)
    (loud : next.options.quiet = false) :
    target.options.quiet = false ∧ target.hushed.add? verb item = some next.hushed := by
  unfold Target.add? at added ⊢
  split at added
  · split at added
    · cases added
    · rename_i free
      cases added
      exact ⟨loud, if_neg free⟩
  · split at added
    · cases added
    · rename_i value free
      obtain ⟨most, number, rfl⟩ := Option.map_eq_some_iff.mp added
      exact ⟨loud, (if_neg free).trans (by rw [number]; rfl)⟩
  · cases added
    exact ⟨loud, rfl⟩
  · obtain ⟨options, more, rfl⟩ := Option.map_eq_some_iff.mp added
    obtain ⟨before, again⟩ := Options.add?_hushed more loud
    exact ⟨before, by simp [hushed, again]⟩

variable {verb : Verb} {options : Options} {target : Target} {item : Item} {items : List Item} {invocation : Invocation}

theorem readTarget_of_add? (noFlag : item ≠ .flag "help") (noLetter : item ≠ .letter 'h') :
    readTarget verb options target (item :: items) =
      (target.add? verb item).elim .misuse fun next => readTarget verb options next items := by
  rw [readTarget]
  · cases target.add? verb item <;> rfl
  · exact noFlag
  · exact noLetter

theorem readTarget_cons : readTarget verb options target (item :: items) = .invoke invocation ↔
    ∃ next, target.add? verb item = some next ∧ readTarget verb options next items = .invoke invocation := by
  by_cases flag : item = .flag "help"
  · subst flag
    have none : target.add? verb (.flag "help") = none := rfl
    simp [readTarget, none]
  by_cases letter : item = .letter 'h'
  · subst letter
    have none : target.add? verb (.letter 'h') = none := rfl
    simp [readTarget, none]
  rw [readTarget_of_add? flag letter]
  cases target.add? verb item with
  | none => simp
  | some next => simp

theorem readHelp_ne_invoke : readHelp items ≠ .invoke invocation := by
  unfold readHelp
  split
  · nofun
  · split <;> nofun
  · nofun

def Item.isCall : Item → Bool
  | .flag name => name == "help" || name == "version"
  | .letter c => c == 'h' || c == 'V'
  | _ => false

theorem readItems_call (call : item.isCall = true) : readItems options (item :: items) ≠ .invoke invocation := by
  cases item with
  | flag name =>
    simp only [Item.isCall, Bool.or_eq_true, beq_iff_eq] at call
    rcases call with rfl | rfl <;> nofun
  | letter c =>
    simp only [Item.isCall, Bool.or_eq_true, beq_iff_eq] at call
    rcases call with rfl | rfl <;> nofun
  | _ => cases call

theorem Options.add?_call (call : item.isCall = true) : options.add? item = none := by
  cases item with
  | flag name =>
    simp only [Item.isCall, Bool.or_eq_true, beq_iff_eq] at call
    rcases call with rfl | rfl <;> rfl
  | letter c => rfl
  | _ => cases call

theorem readItems_word {text : String} (noHelp : text ≠ "help") : readItems options (.word text :: items) =
    (Verb.ofName? text).elim .misuse fun verb => readTarget verb options .empty items := by
  rw [readItems]
  · cases Verb.ofName? text <;> rfl
  · exact noHelp

theorem readItems_of_add? (noCall : item.isCall = false) (noWord : ∀ text, item ≠ .word text) :
    readItems options (item :: items) = (options.add? item).elim .misuse fun next => readItems next items := by
  have noSuch (other : Item) (call : other.isCall = true) : item ≠ other := by
    rintro rfl
    rw [noCall] at call
    cases call
  rw [readItems]
  · cases options.add? item <;> rfl
  · exact noSuch (.flag "help") rfl
  · exact noSuch (.letter 'h') rfl
  · exact noSuch (.flag "version") rfl
  · exact noSuch (.letter 'V') rfl
  · exact noWord "help"
  · exact noWord

theorem readItems_cons : readItems options (item :: items) = .invoke invocation ↔
    (∃ text verb, item = .word text ∧ Verb.ofName? text = some verb ∧
      readTarget verb options .empty items = .invoke invocation) ∨
    ∃ next, options.add? item = some next ∧ readItems next items = .invoke invocation := by
  by_cases call : item.isCall = true
  · have noWord : ∀ text, item ≠ .word text := by
      rintro text rfl
      cases call
    simp [readItems_call call, Options.add?_call call, noWord]
  cases item with
  | word text =>
    have noOption : options.add? (.word text) = none := rfl
    by_cases help : text = "help"
    · subst help
      have noVerb : Verb.ofName? "help" = none := rfl
      simp [readItems, readHelp_ne_invoke, noVerb, noOption]
    · rw [readItems_word help]
      cases named : Verb.ofName? text with
      | none => simp [noOption, named]
      | some verb => simp [noOption, named]
  | _ =>
    rw [readItems_of_add? (Bool.eq_false_iff.mpr call) nofun]
    cases options.add? _ with
    | none => simp
    | some next => simp

theorem readTarget_hushed (read : readTarget verb options target items = .invoke invocation)
    (loud : invocation.quiet = false) : options.quiet = false ∧ target.options.quiet = false ∧
      readTarget verb options.hushed target items = .invoke invocation.hushed ∧
      readTarget verb options target.hushed items = .invoke invocation.hushed := by
  induction items generalizing target with
  | nil =>
    unfold readTarget at read
    split at read
    · rename_i file named
      cases read
      obtain ⟨before, behind⟩ := Bool.or_eq_false_iff.mp loud
      refine ⟨before, behind, ?_, ?_⟩
      · simp [readTarget, named, Options.hushed, Invocation.hushed]
      · simp [readTarget, Target.hushed, named, Options.hushed, Invocation.hushed]
    · cases read
  | cons item items ih =>
    obtain ⟨next, added, read⟩ := readTarget_cons.mp read
    obtain ⟨before, behind, first, second⟩ := ih read
    obtain ⟨behind, again⟩ := Target.add?_hushed added behind
    exact ⟨before, behind, readTarget_cons.mpr ⟨next, added, first⟩, readTarget_cons.mpr ⟨next.hushed, again, second⟩⟩

theorem readItems_hushed (read : readItems options items = .invoke invocation) (loud : invocation.quiet = false) :
    options.quiet = false ∧ readItems options.hushed items = .invoke invocation.hushed := by
  induction items generalizing options with
  | nil => cases read
  | cons item items ih =>
    rcases readItems_cons.mp read with ⟨text, verb, word, named, read⟩ | ⟨next, added, read⟩
    · obtain ⟨before, _, hushed, _⟩ := readTarget_hushed read loud
      exact ⟨before, readItems_cons.mpr (Or.inl ⟨text, verb, word, named, hushed⟩)⟩
    · obtain ⟨before, hushed⟩ := ih read
      obtain ⟨before, again⟩ := Options.add?_hushed added before
      exact ⟨before, readItems_cons.mpr (Or.inr ⟨next.hushed, again, hushed⟩)⟩

theorem Options.add?_quiet (loud : options.quiet = false) : options.add? (.flag "quiet") = some options.hushed := by
  simp [Options.add?, loud, Options.hushed]

theorem readTarget_insert_quiet {before after : List Item}
    (read : readTarget verb options target (before ++ after) = .invoke invocation) (loud : invocation.quiet = false) :
    readTarget verb options target (before ++ .flag "quiet" :: after) = .invoke invocation.hushed := by
  induction before generalizing target with
  | nil =>
    obtain ⟨_, behind, _, hushed⟩ := readTarget_hushed read loud
    have added : target.add? verb (.flag "quiet") = some target.hushed := by
      simp [Target.add?, Options.add?_quiet behind, Target.hushed]
    exact readTarget_cons.mpr ⟨_, added, hushed⟩
  | cons item before ih =>
    obtain ⟨next, added, read⟩ := readTarget_cons.mp read
    exact readTarget_cons.mpr ⟨next, added, ih read⟩

theorem readItems_insert_quiet {before after : List Item} (read : readItems options (before ++ after) = .invoke invocation)
    (loud : invocation.quiet = false) :
    readItems options (before ++ .flag "quiet" :: after) = .invoke invocation.hushed := by
  induction before generalizing options with
  | nil =>
    obtain ⟨before, hushed⟩ := readItems_hushed read loud
    exact readItems_cons.mpr (Or.inr ⟨_, Options.add?_quiet before, hushed⟩)
  | cons item before ih =>
    rcases readItems_cons.mp read with ⟨text, verb, word, named, read⟩ | ⟨next, added, read⟩
    · exact readItems_cons.mpr (Or.inl ⟨text, verb, word, named, readTarget_insert_quiet read loud⟩)
    · exact readItems_cons.mpr (Or.inr ⟨next, added, ih read⟩)

theorem ofArguments_insert_quiet {before after : List String} (seam : Item.isSeam before = true)
    (accepted : Request.ofArguments (before ++ after) = .invoke invocation) (loud : invocation.quiet = false) :
    Request.ofArguments (before ++ "--quiet" :: after) = .invoke invocation.hushed := by
  rw [Request.ofArguments, Item.ofArguments_append seam] at accepted ⊢
  have flag : Item.ofArgument "--quiet" = .flag "quiet" := by decide +kernel
  have first : Item.ofArguments ("--quiet" :: after) = .flag "quiet" :: Item.ofArguments after := by
    simp [Item.ofArguments, flag, Item.takesValue]
  rw [first]
  exact readItems_insert_quiet accepted loud

namespace Invocation

theorem runResponse_hushed (invocation : Invocation) (source : String) :
    invocation.hushed.runResponse source = { invocation.runResponse source with stderr := "" } := by
  cases format : invocation.format with
  | json => simp only [runResponse, hushed, format]
  | text => cases sound : (Program.ofSource invocation.limit source).isOk <;> simp [runResponse, hushed, format, sound, unlessQuiet]

theorem tokensResponse_hushed (invocation : Invocation) (source : String) :
    invocation.hushed.tokensResponse source = { invocation.tokensResponse source with stderr := "" } := by
  simp only [tokensResponse, hushed]
  split <;> rfl

theorem checkResponse_hushed (invocation : Invocation) (source : String) :
    invocation.hushed.checkResponse source =
      { status := (invocation.checkResponse source).status
        stdout := if invocation.format = .text ∧ (invocation.checkResponse source).status = 0 then ""
          else (invocation.checkResponse source).stdout
        stderr := "" } := by
  cases verdict : analyze invocation.limit source <;> cases format : invocation.format <;>
    simp [checkResponse, hushed, verdict, format, unlessQuiet]

theorem status_of_said {α : Type} {problems : List α} {invocation : Invocation} {text : α → String}
    (said : invocation.unlessQuiet (lines (problems.map text)) ≠ "") : statusOf problems.isEmpty = 1 := by
  cases problems with
  | nil => exact absurd unlessQuiet_lines_nil said
  | cons problem problems => rfl

theorem status_of_messages {invocation : Invocation} {source : String} {text : String → String}
    (said : invocation.unlessQuiet (lines ((messages invocation.limit source).map text)) ≠ "") :
    statusOf (problems source).isEmpty = 1 := by
  have same : (messages invocation.limit source).isEmpty = (problems source).isEmpty := by
    rw [Bool.eq_iff_iff, List.isEmpty_iff, List.isEmpty_iff, messages_eq_nil_iff]
  rw [← same]
  exact status_of_said said

theorem runResponse_status_of_said {invocation : Invocation} {source : String}
    (said : (invocation.runResponse source).stderr ≠ "") : (invocation.runResponse source).status = 1 := by
  cases format : invocation.format with
  | json =>
    rw [runResponse_json format] at said
    exact absurd rfl said
  | text =>
    obtain ⟨stdout, answer⟩ := runResponse_text format source
    rw [answer] at said ⊢
    exact status_of_messages said

theorem checkResponse_status_of_said {invocation : Invocation} {source : String}
    (said : (invocation.checkResponse source).stderr ≠ "") : (invocation.checkResponse source).status = 1 := by
  cases format : invocation.format with
  | json =>
    rw [checkResponse_json format] at said
    exact absurd rfl said
  | text =>
    obtain ⟨stdout, answer⟩ := checkResponse_text format source
    rw [answer] at said ⊢
    exact status_of_messages said

theorem tokensResponse_status_of_said {invocation : Invocation} {source : String}
    (said : (invocation.tokensResponse source).stderr ≠ "") : (invocation.tokensResponse source).status = 1 := by
  rw [tokensResponse_status]
  rw [tokensResponse] at said
  cases format : invocation.format with
  | json =>
    rw [format] at said
    exact absurd rfl said
  | text =>
    rw [format] at said
    exact status_of_said said

theorem respond_status_of_said {invocation : Invocation} {source : Source}
    (said : (invocation.respond source).stderr ≠ "") : (invocation.respond source).status = 1 := by
  cases source with
  | error fault => rfl
  | ok source =>
    cases verb : invocation.verb with
    | run =>
      simp only [respond, verb] at said ⊢
      exact runResponse_status_of_said said
    | check =>
      simp only [respond, verb] at said ⊢
      exact checkResponse_status_of_said said
    | tokens =>
      simp only [respond, verb] at said ⊢
      exact tokensResponse_status_of_said said

theorem respond_json_stderr {invocation : Invocation} (json : invocation.format = .json) (source : String) :
    (invocation.respond (.ok source)).stderr = "" := by
  unfold respond
  cases invocation.verb with
  | run => simp only [runResponse_json json]
  | check => simp only [checkResponse_json json]
  | tokens => simp only [tokensResponse, json]

theorem respond_hushed (invocation : Invocation) (source : Source) : invocation.hushed.respond source =
    { status := (invocation.respond source).status
      stdout := if invocation.verb = .check ∧ invocation.format = .text ∧ (invocation.respond source).status = 0 then ""
        else (invocation.respond source).stdout
      stderr := "" } := by
  cases source with
  | error fault =>
    have failed : (invocation.respond (.error fault)).status = 1 := rfl
    rw [failed, if_neg (by simp)]
    rfl
  | ok source =>
    have same : invocation.hushed.verb = invocation.verb := rfl
    cases verb : invocation.verb with
    | run => simp [respond, same, verb, runResponse_hushed]
    | check => simp [respond, same, verb, checkResponse_hushed]
    | tokens => simp [respond, same, verb, tokensResponse_hushed]

end Invocation

/-- Of two runs on the same source, one of them quiet, the quiet one has the same status and prints the same, except that
    a check in text does not say that all is well; and it has no messages. Messages are there only with status one, a
    source that cannot be read gives nothing but status and message, and in JSON a source that can be read gives no
    message. On the command line, `--quiet` may stand wherever an option is read. -/
theorem quiet_only_silences (invocation : Invocation) :
    (∀ source : Source,
      ((invocation.hushed.respond source).status = (invocation.respond source).status ∧
        (invocation.hushed.respond source).stderr = "" ∧
        (invocation.hushed.respond source).stdout =
          if invocation.verb = .check ∧ invocation.format = .text ∧ (invocation.respond source).status = 0 then ""
          else (invocation.respond source).stdout) ∧
      ((invocation.respond source).stderr ≠ "" → (invocation.respond source).status = 1) ∧
      (∀ fault, source = .error fault →
        (invocation.respond source).status = 1 ∧ (invocation.respond source).stdout = "") ∧
      (∀ text, source = .ok text → invocation.format = .json → (invocation.respond source).stderr = "")) ∧
    ∀ (before after : List String) (load : String → Source), Item.isSeam before = true → invocation.quiet = false →
      Request.ofArguments (before ++ after) = .invoke invocation →
      (Request.ofArguments (before ++ after)).respond load = invocation.respond (load invocation.file) ∧
      (Request.ofArguments (before ++ "--quiet" :: after)).respond load =
        invocation.hushed.respond (load invocation.file) := by
  refine ⟨?_, ?_⟩
  · intro source
    refine ⟨?_, Invocation.respond_status_of_said, ?_, ?_⟩
    · rw [Invocation.respond_hushed]
      exact ⟨rfl, rfl, rfl⟩
    · rintro fault rfl
      exact ⟨rfl, rfl⟩
    · rintro text rfl json
      exact Invocation.respond_json_stderr json text
  · intro before after load seam loud accepted
    rw [accepted, ofArguments_insert_quiet seam accepted loud]
    exact ⟨rfl, rfl⟩

def shelfInvocation (format : OutputFormat) : Invocation := ⟨.check, "shelf", some 2, format, false⟩

theorem quiet_only_silences_shelf :
    (((shelfInvocation .text).respond (.error .missing)).stderr ≠ "" ∧
      ((shelfInvocation .text).respond (.error .missing)).status = 1) ∧
    ((shelfInvocation .json).respond (.ok "define é#")).stderr = "" ∧
    (Item.isSeam ["check", "--max-errors", "2"] = true ∧
      Request.ofArguments ["check", "--max-errors", "2", "shelf"] = .invoke (shelfInvocation .text)) ∧
    (Request.ofArguments ["check", "--max-errors", "2", "--quiet", "shelf"]).respond (fun _ => .ok "define B") =
      ⟨0, "", ""⟩ := by
  obtain ⟨answers, arguments⟩ := quiet_only_silences (shelfInvocation .text)
  obtain ⟨_, said, _⟩ := answers (.error .missing)
  obtain ⟨_, _, _, silent⟩ := (quiet_only_silences (shelfInvocation .json)).1 (.ok "define é#")
  have spoken : ((shelfInvocation .text).respond (.error .missing)).stderr ≠ "" := by decide +kernel
  have seam : Item.isSeam ["check", "--max-errors", "2"] = true := by decide +kernel
  have accepted : Request.ofArguments ["check", "--max-errors", "2", "shelf"] = .invoke (shelfInvocation .text) := by
    decide +kernel
  have quiet := (arguments ["check", "--max-errors", "2"] ["shelf"] (fun _ => .ok "define B") seam rfl accepted).2
  exact ⟨⟨spoken, said spoken⟩, silent _ rfl rfl, ⟨seam, accepted⟩, quiet.trans (by decide +kernel)⟩

end ClassScript.Command
