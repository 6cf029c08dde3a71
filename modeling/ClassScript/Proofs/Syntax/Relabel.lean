import ClassScript.Proofs.Syntax.Viable

namespace ClassScript

variable {f : Token → Token} {Mid Tree : Type}

def DefaultClause.map (f : Token → Token) (clause : DefaultClause) : DefaultClause :=
  ⟨f clause.has, f clause.default, f clause.literal⟩

def FieldDecl.map (f : Token → Token) (decl : FieldDecl) : FieldDecl :=
  ⟨f decl.owner, f decl.has, f decl.field, f decl.name, decl.default?.map (DefaultClause.map f)⟩

def ClassDecl.map (f : Token → Token) (decl : ClassDecl) : ClassDecl :=
  ⟨f decl.define, f decl.name, decl.fields.map (FieldDecl.map f)⟩

def Failure.map (f : Token → Token) (failure : Failure) : Failure := { failure with rest := failure.rest.map f }

def Outcome.map (f : Token → Token) : Outcome → Outcome
  | .ok decl => .ok (decl.map f)
  | .error failure => .error (failure.map f)

/-- An error with another token found and, as its place, that token's or else the end of the input. -/
def SyntaxError.map (f : Token → Token) (stop : Position) (error : SyntaxError) : SyntaxError where
  rule := error.rule
  expected := error.expected
  found? := error.found?.map f
  position := (error.found?.map f).elim stop Token.position

def mapReading (f : Token → Token) (g : Mid → Tree) :
    Except Failure (Mid × List Token) → Except Failure (Tree × List Token)
  | .ok (tree, rest) => .ok (g tree, rest.map f)
  | .error failure => .error (failure.map f)

theorem bind_map {Other : Type} {g : Mid → Mid} {h : Tree → Other} {first changed : Except Failure (Mid × List Token)}
    {next : Mid × List Token → Except Failure (Tree × List Token)}
    {later : Mid × List Token → Except Failure (Other × List Token)} (here : changed = mapReading f g first)
    (behind : ∀ mid rest, first = .ok (mid, rest) → later (g mid, rest.map f) = mapReading f h (next (mid, rest))) :
    (changed >>= later) = mapReading f h (first >>= next) := by
  rw [here]
  cases first with
  | error failure => rfl
  | ok found => exact behind found.1 found.2 rfl

section

variable (keeps : ∀ token, (f token).kind = token.kind)

include keeps

theorem nextIs_map (kind : Kind) (tokens : List Token) : nextIs kind (tokens.map f) = nextIs kind tokens := by
  cases tokens with
  | nil => rfl
  | cons token tokens => simp [keeps token]

theorem take_map (rule : Rule) (kind : Kind) (tokens : List Token) :
    take rule kind (tokens.map f) = mapReading f f (take rule kind tokens) := by
  cases tokens with
  | nil => rfl
  | cons token tokens =>
    simp only [take, List.map_cons, keeps token]
    split <;> rfl

theorem DefaultClause.read_map (tokens : List Token) :
    DefaultClause.read (tokens.map f) = mapReading f (DefaultClause.map f) (DefaultClause.read tokens) := by
  refine bind_map (take_map keeps _ _ tokens) fun has rest _ => ?_
  refine bind_map (take_map keeps _ _ rest) fun default rest _ => ?_
  exact bind_map (take_map keeps _ _ rest) fun literal rest _ => rfl

theorem DefaultClause.read?_map (tokens : List Token) :
    DefaultClause.read? (tokens.map f) =
      mapReading f (Option.map (DefaultClause.map f)) (DefaultClause.read? tokens) := by
  unfold DefaultClause.read?
  rw [nextIs_map keeps]
  split
  · exact bind_map (DefaultClause.read_map keeps tokens) fun clause rest _ => rfl
  · rfl

theorem FieldDecl.read_map (tokens : List Token) :
    FieldDecl.read (tokens.map f) = mapReading f (FieldDecl.map f) (FieldDecl.read tokens) := by
  refine bind_map (take_map keeps _ _ tokens) fun owner rest _ => ?_
  refine bind_map (take_map keeps _ _ rest) fun has rest _ => ?_
  refine bind_map (take_map keeps _ _ rest) fun field rest _ => ?_
  refine bind_map (take_map keeps _ _ rest) fun name rest _ => ?_
  exact bind_map (DefaultClause.read?_map keeps rest) fun default? rest _ => rfl

theorem FieldDecl.readAll_map (tokens : List Token) :
    FieldDecl.readAll (tokens.map f) = mapReading f (List.map (FieldDecl.map f)) (FieldDecl.readAll tokens) := by
  -- On the number of tokens: a declaration that was read has used some up.
  induction length : tokens.length using Nat.strongRecOn generalizing tokens with
  | ind n ih =>
    rw [FieldDecl.readAll_eq]
    simp only [nextIs_map keeps, FieldDecl.read_map keeps]
    split
    · refine bind_map rfl fun decl rest ran => ?_
      have shorter : rest.length < n := length ▸ FieldDecl.read_length ran
      exact bind_map (ih _ shorter rest rfl) fun later rest _ => rfl
    · rfl

theorem ClassDecl.read_map (tokens : List Token) :
    ClassDecl.read (tokens.map f) = mapReading f (ClassDecl.map f) (ClassDecl.read tokens) := by
  refine bind_map (take_map keeps _ _ tokens) fun define rest _ => ?_
  refine bind_map (take_map keeps _ _ rest) fun name rest _ => ?_
  exact bind_map (FieldDecl.readAll_map keeps rest) fun fields rest _ => rfl

theorem readStatement_map (tokens : List Token) :
    readStatement (tokens.map f) = mapReading f (ClassDecl.map f) (readStatement tokens) := by
  unfold readStatement
  rw [nextIs_map keeps]
  split
  · exact ClassDecl.read_map keeps tokens
  · rfl

theorem resume_map (tokens : List Token) : resume (tokens.map f) = (resume tokens).map f := by
  have same : ((fun token => token.kind != .keyword .define) ∘ f) = fun token => token.kind != .keyword .define := by
    funext token
    simp [keeps token]
  rw [resume, List.dropWhile_map, same, resume]

theorem Run.map {limit : Limit} {tokens : List Token} {found : List Outcome} (run : Run limit tokens found) :
    Run limit (tokens.map f) (found.map (Outcome.map f)) := by
  induction run with
  | done limit => exact .done limit
  | keep ran later ih =>
    refine .keep ?_ ih
    rw [readStatement_map keeps, ran]
    rfl
  | halt unread ran last =>
    refine .halt (by simp [unread]) ?_ last
    rw [readStatement_map keeps, ran]
    rfl
  | skip unread ran more later ih =>
    refine .skip (by simp [unread]) ?_ more ?_
    · rw [readStatement_map keeps, ran]
      rfl
    · rw [← resume_map keeps] at ih
      exact ih

theorem outcomes_map (limit : Limit) (tokens : List Token) :
    outcomes limit (tokens.map f) = (outcomes limit tokens).map (Outcome.map f) :=
  ((outcomes_run limit tokens).map keeps).eq_outcomes.symm

end

theorem Outcome.class?_map (f : Token → Token) (outcome : Outcome) :
    (outcome.map f).class? = outcome.class?.map (ClassDecl.map f) := by
  cases outcome <;> rfl

theorem Outcome.failure?_map (f : Token → Token) (outcome : Outcome) :
    (outcome.map f).failure? = outcome.failure?.map (Failure.map f) := by
  cases outcome <;> rfl

theorem Failure.report_map (f : Token → Token) (stop other : Position) (failure : Failure) :
    (failure.map f).report stop = (failure.report other).map f stop := by
  obtain ⟨rule, expected, rest⟩ := failure
  cases rest <;> rfl

theorem parse_map (keeps : ∀ token, (f token).kind = token.kind) (limit : Limit) (tokens : List Token) :
    parse limit (tokens.map f) =
      { classes := (parse limit tokens).classes.map (ClassDecl.map f)
        errors := (parse limit tokens).errors.map (SyntaxError.map f (endPosition (tokens.map f))) } := by
  simp only [parse, outcomes_map keeps, List.filterMap_map, Function.comp_def, Outcome.class?_map,
    Outcome.failure?_map, ← List.map_filterMap, List.map_map, Failure.report_map f _ (endPosition tokens)]

def Token.bare (token : Token) : Token := .sample token.kind

def SyntaxError.kinds (error : SyntaxError) : Rule × Kind × Option Kind :=
  (error.rule, error.expected, error.found?.map Token.kind)

structure SameShape (one other : Parse) : Prop where
  classes : one.classes.map (ClassDecl.map Token.bare) = other.classes.map (ClassDecl.map Token.bare)
  errors : one.errors.map SyntaxError.kinds = other.errors.map SyntaxError.kinds

theorem SyntaxError.kinds_map (keeps : ∀ token, (f token).kind = token.kind) (stop : Position) (error : SyntaxError) :
    (error.map f stop).kinds = error.kinds := by
  simp [SyntaxError.map, SyntaxError.kinds, Function.comp_def, keeps]

theorem sameShape_of_kinds {tokens other : List Token} (kinds : other.map Token.kind = tokens.map Token.kind)
    (limit : Limit) : SameShape (parse limit other) (parse limit tokens) := by
  have bare (tokens : List Token) : tokens.map Token.bare = (tokens.map Token.kind).map Token.sample := by
    rw [List.map_map]
    rfl
  have keeps (token : Token) : token.bare.kind = token.kind := rfl
  -- with kinds alone left the two lists are one
  have same : parse limit (other.map Token.bare) = parse limit (tokens.map Token.bare) := by
    rw [bare other, bare tokens, kinds]
  rw [parse_map keeps, parse_map keeps] at same
  obtain ⟨classes, errors⟩ := Parse.mk.inj same
  have plain := congrArg (List.map SyntaxError.kinds) errors
  simp only [List.map_map, Function.comp_def, SyntaxError.kinds_map keeps] at plain
  exact ⟨classes, plain⟩

/-- Changing images and places of tokens at will changes those of the trees and errors in the same way and nothing else.
    So what the parser does follows from the kinds. -/
theorem parse_sees_kinds_alone (keeps : ∀ token, (f token).kind = token.kind) (limit : Limit) (tokens : List Token) :
    parse limit (tokens.map f) =
      { classes := (parse limit tokens).classes.map (ClassDecl.map f)
        errors := (parse limit tokens).errors.map (SyntaxError.map f (endPosition (tokens.map f))) } ∧
    ∀ other : List Token, other.map Token.kind = tokens.map Token.kind →
      SameShape (parse limit other) (parse limit tokens) :=
  ⟨parse_map keeps limit tokens, fun _ kinds => sameShape_of_kinds kinds limit⟩

def Token.blot (token : Token) : Token := ⟨token.kind, "é\n", ⟨3, 2, 1⟩⟩

def openTokens : List Token :=
  [⟨.keyword .define, "define", .start⟩, ⟨.identifier, "Shelf", ⟨7, 1, 8⟩⟩, ⟨.keyword .define, "define", ⟨13, 2, 1⟩⟩]

theorem parse_sees_kinds_alone_blot :
    (∀ token : Token, token.blot.kind = token.kind) ∧
    parse (some 1) (openTokens.map Token.blot) =
      ⟨[⟨⟨.keyword .define, "é\n", ⟨3, 2, 1⟩⟩, ⟨.identifier, "é\n", ⟨3, 2, 1⟩⟩, []⟩],
        [⟨.classDefinition, .identifier, none, ⟨6, 3, 1⟩⟩]⟩ ∧
    [shelfDecl.define, shelfDecl.name, shelfDecl.define].map Token.kind = openTokens.map Token.kind ∧
    SameShape (parse (some 1) [shelfDecl.define, shelfDecl.name, shelfDecl.define]) (parse (some 1) openTokens) := by
  have keeps (token : Token) : token.blot.kind = token.kind := rfl
  obtain ⟨changed, alike⟩ := parse_sees_kinds_alone keeps (some 1) openTokens
  have kinds : [shelfDecl.define, shelfDecl.name, shelfDecl.define].map Token.kind = openTokens.map Token.kind := by
    decide
  exact ⟨keeps, changed.trans (by decide +kernel), kinds, alike _ kinds⟩

end ClassScript
