import FormCheck.Check.Number

namespace FormCheck

/-!
# Components of dates and times

Years lie between bounds that the settings give; months, days, hours, minutes
and seconds lie within their natural bounds, which may be narrowed.
-/

namespace Check

/-- No year before this one is ever accepted. -/
def earliestYear : Int := 1900

/-- Store a year. The bounds default to those of the settings. -/
def year (environment : Environment) (value key lower upper : Value) :
    Check Unit := do
  let lower := lower.orDefault environment.settings.minimalYear
  let upper ←
    match upper with
    | .null => environment.lastYear
    | upper => pure upper
  let lower ← (Value.int earliestYear).greaterOf lower
  integerRange environment value key lower upper

/-- Store a month. -/
def month (environment : Environment) (value key lower upper : Value) :
    Check Unit :=
  clampedRange environment value key lower upper 1 12

/-- Store a day of a month. -/
def day (environment : Environment) (value key lower upper : Value) :
    Check Unit :=
  clampedRange environment value key lower upper 1 31

/-- Store an hour. -/
def hour (environment : Environment) (value key lower upper : Value) :
    Check Unit :=
  clampedRange environment value key lower upper 0 23

/-- Store a minute. -/
def minute (environment : Environment) (value key lower upper : Value) :
    Check Unit :=
  clampedRange environment value key lower upper 0 59

/-- Store a second. -/
def second (environment : Environment) (value key lower upper : Value) :
    Check Unit :=
  clampedRange environment value key lower upper 0 59

end Check

end FormCheck
