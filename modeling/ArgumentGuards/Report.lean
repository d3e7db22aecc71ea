import ArgumentGuards.Location

/-!
# Error reports

Every stage has errors of its own. What they have in common is a report: how severe the error is,
what happened, which component noticed it, and where. A report is shown on one line, in a short
form for users and in a long form for developers.
-/

namespace ArgumentGuards

/-- How severe an error is. -/
inductive Level where
  | info
  | warning
  /-- Bad input or an interrupted run. -/
  | error
  /-- A defect: a tree that should have been refused earlier. -/
  | critical
  deriving DecidableEq, Repr

/-- The word for a level. -/
def Level.render : Level → String
  | .info => "INFO"
  | .warning => "WARNING"
  | .error => "ERROR"
  | .critical => "CRITICAL"

/-- What all errors have in common. -/
structure Report where
  level : Level
  message : String
  /-- The component that noticed the error. -/
  issuer : String
  location : Option Location := none
  span : Option Span := none
  deriving DecidableEq, Repr

namespace Report

/-- The parts of a line. -/
def line (parts : List String) : String := String.intercalate " | " ("NULLGUARD" :: parts)

/-- The line for users. -/
def short (r : Report) : String :=
  line [r.level.render, (r.location.map Location.render).getD "unknown location", r.message]

/-- The line for developers. -/
def full (r : Report) : String :=
  line [r.level.render, (r.location.map Location.render).getD "unknown", r.issuer,
    (r.span.map Span.render).getD "span:none", r.message]

end Report

end ArgumentGuards
