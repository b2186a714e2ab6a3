import HrPipeline.Database.Error

/-!
# Errors of effects

An effect that already exists is told apart from one that failed, since only the latter is worth
another attempt.
-/

namespace HrPipeline

/-- A failure with the contexts in which it was passed on. -/
inductive Failure where
  | cause (text : String)
  | within (context : String) (inner : Failure)
deriving DecidableEq

/-- The outermost description of a failure. -/
def Failure.message : Failure → String
  | .cause text => text
  | .within context _ => context

/-- Why an effect was not applied. -/
inductive EffectError where
  /-- The effect is already there, under this unique key. -/
  | duplicate (key : String)
  /-- The effect could not be applied. -/
  | failed (failure : Failure)
deriving DecidableEq

namespace EffectError

/-- The wording of an effect's error. -/
def message : EffectError → String
  | .duplicate key => "duplicate effect on " ++ key
  | .failed failure => failure.message

/-- The name of the kind of an effect's error. -/
def kind : EffectError → String
  | .duplicate _ => "DuplicateEffect"
  | .failed _ => "Failed"

/-- Whether the effect was there already. -/
def isDuplicate : EffectError → Bool
  | .duplicate _ => true
  | .failed _ => false

/-- A database error seen as the error of an effect with a unique key of its own: only a violation
of that key means that the effect is there. -/
def ofDatabase (error : DatabaseError) (key : String) : EffectError :=
  if error.violatesUnique key then .duplicate key else .failed (.cause error.message)

end EffectError
end HrPipeline
