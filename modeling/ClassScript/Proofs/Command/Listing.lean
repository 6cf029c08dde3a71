import ClassScript.Command.Response
import ClassScript.Proofs.Json.Lossless
import ClassScript.Proofs.Token.Line

namespace ClassScript.Command

structure Entry where
  line : Nat
  column : Nat
  kind : Kind
  image : String
  deriving DecidableEq

/-- A text cut at the first place where a character stands, which is left out. -/
def cutAt? (c : Char) (text : List Char) : Option (List Char × List Char) :=
  match text.dropWhile (· != c) with
  | [] => none
  | _ :: behind => some (text.takeWhile (· != c), behind)

def Entry.ofLine? (text : List Char) : Option Entry := do
  let (line, text) ← cutAt? ':' text
  let (column, text) ← cutAt? '\t' text
  let (name, image) ← cutAt? '\t' text
  let kind ← Kind.ofName? (String.ofList name)
  return ⟨Nat.ofDigitChars 10 line 0, Nat.ofDigitChars 10 column 0, kind, String.ofList image⟩

def Entry.ofToken (token : Token) : Entry := ⟨token.position.line, token.position.column, token.kind, token.image⟩

theorem cutAt?_append {c : Char} {before : List Char} (absent : c ∉ before) (behind : List Char) :
    cutAt? c (before ++ c :: behind) = some (before, behind) := by
  have stops : (c :: behind).head?.any (· != c) = false := by simp
  have all := all_ne_of_not_mem absent
  rw [cutAt?, dropWhile_append_of_head all stops, takeWhile_append_of_head all stops]

theorem toList_tokenText (token : Token) : (tokenText token).toList =
    Nat.toDigits 10 token.position.line ++ ':' :: (Nat.toDigits 10 token.position.column ++
      '\t' :: (token.kind.name.toList ++ '\t' :: token.image.toList)) := by
  simp [tokenText, Position.display, toString]

theorem not_mem_toDigits {c : Char} (noDigit : c.isDigit = false) (number : Nat) : c ∉ Nat.toDigits 10 number := by
  intro member
  rw [Nat.isDigit_of_mem_toDigits (by decide) (by decide) member] at noDigit
  cases noDigit

theorem not_mem_kind_name {c : Char} (noLetter : c.isAlpha = false) (kind : Kind) : c ∉ kind.name.toList := by
  have letters : kind.name.toList.all Char.isAlpha = true := by
    cases kind with
    | keyword word => cases word <;> decide
    | _ => decide
  intro member
  rw [List.all_eq_true.mp letters c member] at noLetter
  cases noLetter

theorem Entry.ofLine?_tokenText (token : Token) : Entry.ofLine? (tokenText token).toList = some (.ofToken token) := by
  have line : ':' ∉ Nat.toDigits 10 token.position.line := not_mem_toDigits rfl _
  have column : '\t' ∉ Nat.toDigits 10 token.position.column := not_mem_toDigits rfl _
  have name : '\t' ∉ token.kind.name.toList := not_mem_kind_name rfl _
  simp [toList_tokenText, Entry.ofLine?, Entry.ofToken, cutAt?_append line, cutAt?_append column, cutAt?_append name,
    Kind.ofName?_name]

theorem count_line_feed_tokenText (token : Token) : (tokenText token).toList.count '\n' = token.image.toList.count '\n' := by
  have line : '\n' ∉ Nat.toDigits 10 token.position.line := not_mem_toDigits rfl _
  have column : '\n' ∉ Nat.toDigits 10 token.position.column := not_mem_toDigits rfl _
  have name : '\n' ∉ token.kind.name.toList := not_mem_kind_name rfl _
  simp [toList_tokenText, List.count_eq_zero.mpr line, List.count_eq_zero.mpr column,
    List.count_eq_zero.mpr name]

theorem splitOn_lines (texts : List String) : (lines texts).toList.splitOn '\n' =
    texts.flatMap (fun text => text.toList.splitOn '\n') ++ [[]] := by
  induction texts with
  | nil => rfl
  | cons text texts ih =>
    have split : (lines (text :: texts)).toList = text.toList ++ '\n' :: (lines texts).toList := by
      simp [lines, line]
    rw [split, List.splitOn_append_cons_self, ih, List.flatMap_cons, List.append_assoc]

theorem length_splitOn (c : Char) (text : List Char) : (text.splitOn c).length = text.count c + 1 := by
  induction text with
  | nil => rfl
  | cons head text ih =>
    rw [List.splitOn_cons_eq_if_modifyHead, List.count_cons]
    split
    · rw [List.length_cons, ih]
    · rw [List.length_modifyHead, ih, Nat.add_zero]

theorem length_splitOn_lines (texts : List String) : ((lines texts).toList.splitOn '\n').length =
    texts.length + (texts.flatMap String.toList).count '\n' + 1 := by
  rw [splitOn_lines, List.length_append, List.length_singleton]
  congr 1
  induction texts with
  | nil => rfl
  | cons text texts ih =>
    rw [List.flatMap_cons, List.length_append, ih, length_splitOn, List.flatMap_cons, List.count_append,
      List.length_cons]
    omega

def OneLined (source : String) : Prop :=
  ∀ token ∈ (scan source).tokens, token.kind = .string → '\n' ∉ token.image.toList

theorem no_line_feed_iff_oneLined (source : String) :
    ((scan source).tokens.flatMap fun token => token.image.toList).count '\n' = 0 ↔ OneLined source := by
  rw [List.count_eq_zero]
  apply Iff.intro
  · intro plain token member _ feed
    exact plain (List.mem_flatMap.mpr ⟨token, member, feed⟩)
  · intro oneLined feed
    obtain ⟨token, member, feed⟩ := List.mem_flatMap.mp feed
    have counts := mem_scan_tokens_counts member
    have notBlank : token.kind ≠ .blank := by
      intro blank
      rw [blank] at counts
      cases counts
    by_cases string : token.kind = .string
    · exact oneLined token member string feed
    · exact (mem_scan_tokens_admits member).no_line_feed notBlank string feed

theorem splitOn_lines_of_plain {texts : List String} (plain : '\n' ∉ texts.flatMap String.toList) :
    (lines texts).toList.splitOn '\n' = texts.map String.toList ++ [[]] := by
  rw [splitOn_lines]
  congr 1
  induction texts with
  | nil => rfl
  | cons text texts ih =>
    rw [List.flatMap_cons, List.mem_append, not_or] at plain
    rw [List.flatMap_cons, List.splitOn_eq_singleton plain.1, ih plain.2, List.map_cons, List.singleton_append]

theorem count_line_feed_listing (tokens : List Token) :
    ((tokens.map tokenText).flatMap String.toList).count '\n' =
      (tokens.flatMap fun token => token.image.toList).count '\n' := by
  induction tokens with
  | nil => rfl
  | cons token tokens ih =>
    rw [List.map_cons, List.flatMap_cons, List.flatMap_cons, List.count_append, List.count_append, ih,
      count_line_feed_tokenText]

theorem tokensResponse_stdout {invocation : Invocation} (text : invocation.format = .text) (source : String) :
    (invocation.tokensResponse source).stdout = lines ((scan source).tokens.map tokenText) := by
  rw [Invocation.tokensResponse, text]

/-- The list of tokens, cut at its line feeds, has a line for each token and one more for each line feed in an image.
    So the lines are those of the tokens exactly if no string literal runs over a line end, and then each line read alone
    gives its token back, but for the offset. -/
theorem listing_lines_iff {invocation : Invocation} (lists : invocation.verb = .tokens)
    (text : invocation.format = .text) (source : String) :
    ∃ listing : List (List Char), (invocation.respond (.ok source)).stdout.toList.splitOn '\n' = listing ++ [[]] ∧
      listing.length = (scan source).tokens.length +
        ((scan source).tokens.flatMap fun token => token.image.toList).count '\n' ∧
      (listing = (scan source).tokens.map (fun token =>
        s!"{token.position.line}:{token.position.column}\t{token.kind.name}\t{token.image}".toList) ↔ OneLined source) ∧
      (OneLined source → listing.mapM Entry.ofLine? = some ((scan source).tokens.map Entry.ofToken)) := by
  have answer : invocation.respond (.ok source) = invocation.tokensResponse source := by rw [Invocation.respond, lists]
  have length := length_splitOn_lines ((scan source).tokens.map tokenText)
  rw [answer, tokensResponse_stdout text]
  rw [splitOn_lines, List.length_append, List.length_singleton, List.length_map, count_line_feed_listing] at length
  have size := Nat.add_right_cancel length
  have listed : OneLined source → ((scan source).tokens.map tokenText).flatMap (fun text => text.toList.splitOn '\n') =
      (scan source).tokens.map fun token => (tokenText token).toList := by
    intro oneLined
    have plain : '\n' ∉ ((scan source).tokens.map tokenText).flatMap String.toList := by
      rw [← List.count_eq_zero, count_line_feed_listing]
      exact (no_line_feed_iff_oneLined source).mpr oneLined
    have cut := splitOn_lines_of_plain plain
    rw [splitOn_lines, List.map_map] at cut
    exact List.append_cancel_right cut
  refine ⟨_, splitOn_lines _, size, ⟨?_, listed⟩, ?_⟩
  · intro same
    rw [← no_line_feed_iff_oneLined]
    rw [same, List.length_map] at size
    omega
  · intro oneLined
    rw [listed oneLined]
    exact Json.mapM_map fun token _ => Entry.ofLine?_tokenText token

def listInvocation : Invocation := ⟨.tokens, "-", none, .text, false⟩

theorem listing_lines_iff_tab :
    (listInvocation.verb = .tokens ∧ listInvocation.format = .text) ∧ OneLined "define\n\"\t7\"" ∧
    ∃ listing : List (List Char),
      (listInvocation.respond (.ok "define\n\"\t7\"")).stdout.toList.splitOn '\n' = listing ++ [[]] ∧
      listing = ["1:1\tDefine\tdefine".toList, "2:1\tStringLiteral\t\"\t7\"".toList] ∧
      listing.mapM Entry.ofLine? = some [⟨1, 1, .keyword .define, "define"⟩, ⟨2, 1, .string, "\"\t7\""⟩] := by
  have tokens : (scan "define\n\"\t7\"").tokens =
      [⟨.keyword .define, "define", ⟨0, 1, 1⟩⟩, ⟨.string, "\"\t7\"", ⟨7, 2, 1⟩⟩] := by decide +kernel
  have oneLined : OneLined "define\n\"\t7\"" := by simp [OneLined, tokens]
  obtain ⟨listing, split, _, same, read⟩ := @listing_lines_iff listInvocation rfl rfl "define\n\"\t7\""
  have lines := same.mpr oneLined
  have entries := read oneLined
  rw [tokens] at lines entries
  exact ⟨⟨rfl, rfl⟩, oneLined, listing, split, lines.trans (by decide +kernel), entries⟩

/-- A literal over two lines takes two lines of the list. -/
theorem not_every_token_on_one_line : ¬ ∀ (invocation : Invocation) (source : String), invocation.verb = .tokens →
    invocation.format = .text → (invocation.respond (.ok source)).stdout.toList.splitOn '\n' =
      (scan source).tokens.map (fun token =>
        s!"{token.position.line}:{token.position.column}\t{token.kind.name}\t{token.image}".toList) ++ [[]] := by
  intro all
  have listed := all listInvocation "\"a\nb\"" rfl rfl
  revert listed
  decide +kernel

end ClassScript.Command
