import ClassScript.Syntax.Reading

namespace ClassScript

/-- How many problems a stage reports at most; without a number, all. A limit of zero acts as one, so that a failing
    source never passes for a good one. -/
abbrev Limit := Option Nat

namespace Limit

def cut {α : Type} (limit : Limit) (problems : List α) : List α :=
  limit.elim problems fun most => problems.take (max most 1)

def isLast (limit : Limit) : Bool := limit.any (· ≤ 1)

def lower (limit : Limit) : Limit := limit.map (· - 1)

end Limit

abbrev Outcome := Except Failure ClassDecl

def resume (tokens : List Token) : List Token := tokens.dropWhile fun token => token.kind != .keyword .define

def nextOutcome (tokens : List Token) : Outcome × List Token :=
  match readStatement tokens with
  | .ok (decl, rest) => (.ok decl, rest)
  | .error failure => (.error failure, resume failure.rest)

theorem resume_suffix (tokens : List Token) : resume tokens <:+ tokens := List.dropWhile_suffix _

theorem resume_length_le (tokens : List Token) : (resume tokens).length ≤ tokens.length :=
  (resume_suffix tokens).length_le

theorem nextOutcome_length (token : Token) (tokens : List Token) :
    (nextOutcome (token :: tokens)).2.length < (token :: tokens).length := by
  unfold nextOutcome readStatement
  by_cases kind : token.kind = .keyword .define
  · simp only [nextIs, List.head?_cons, Option.any_some, kind, beq_self_eq_true, if_true]
    have left := ClassDecl.read_leaves kind tokens
    cases ran : ClassDecl.read (token :: tokens) with
    | ok result =>
      rw [ran] at left
      have shorter : result.2.length ≤ tokens.length := left.length_le
      simp only [List.length_cons]
      omega
    | error failure =>
      rw [ran] at left
      have shorter : failure.rest.length ≤ tokens.length := left.length_le
      have further := resume_length_le failure.rest
      simp only [List.length_cons]
      omega
  · have further := resume_length_le tokens
    have skipped : resume (token :: tokens) = resume tokens := by simp [resume, kind]
    simp only [nextIs, List.head?_cons, Option.any_some, beq_eq_false_iff_ne.mpr kind, Bool.false_eq_true, if_false,
      skipped, List.length_cons]
    omega

def outcomes (limit : Limit) : List Token → List Outcome
  | [] => []
  | token :: tokens =>
    let step := nextOutcome (token :: tokens)
    match step.1 with
    | .ok decl => .ok decl :: outcomes limit step.2
    | .error failure => .error failure :: if limit.isLast then [] else outcomes limit.lower step.2
termination_by tokens => tokens.length
decreasing_by all_goals exact nextOutcome_length token tokens

structure Parse where
  classes : List ClassDecl
  errors : List SyntaxError
  deriving DecidableEq

def Outcome.class? : Outcome → Option ClassDecl
  | .ok decl => some decl
  | .error _ => none

def Outcome.failure? : Outcome → Option Failure
  | .ok _ => none
  | .error failure => some failure

/-- Errors at the end of the input are placed behind the last token. -/
def parse (limit : Limit) (tokens : List Token) : Parse where
  classes := (outcomes limit tokens).filterMap Outcome.class?
  errors := ((outcomes limit tokens).filterMap Outcome.failure?).map (Failure.report (endPosition tokens))

end ClassScript
