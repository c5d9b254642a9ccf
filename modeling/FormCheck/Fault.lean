namespace FormCheck

/-!
# Faults

A fault stops a computation. Bad user input is meant to end as a recorded error
instead; a fault says that a plan, a plans file, an argument of a capability or
a capability itself is wrong.
-/

/--
The causes that stop a computation.

Up to `noSuchOperation` a value of the wrong kind was called, compared, used as a
key, read or asked for something. Up to `nonexistent` the kind is right, but not
the value: a key or a member is not there, an integer has more digits than may be
written, a text is no numeral, an entry is no pair, a day, a character or a
severity does not exist. A number may be too large for the place that it was put
in, or for the memory. A capability may itself be at fault, with a message of its
own. A plan is malformed, or names an unknown capability, at a step if one is to
blame. The program data that a form trusts may come back changed. The others are
about files and about the fields of a response.
-/
inductive Fault where
  | wrongArity
  | unordered
  | unhashable
  | notIterable
  | notIndexable
  | notNumeric
  | notText
  | notEntries
  | noSuchOperation
  | missingKey
  | emptySequence
  | tooManyDigits
  | notNumeral
  | notPair
  | nonexistent
  | tooLarge
  | outOfMemory
  | broken (message : String)
  | malformedPlan (message : String) (step : Option Int)
  | unknownCapability (method : String) (step : Option Int) (message : String)
  | alteredProgram
  | unreadable (problem : String)
  | noSuchFile
  | directory
  | longPath
  | illFormedResponse
deriving Repr, DecidableEq

namespace Fault

/-- The class of a fault as callers and log lines name it. -/
def label : Fault → String
  | .wrongArity | .unordered | .unhashable | .notIterable | .notIndexable
  | .notNumeric | .notText | .notEntries => "TypeError"
  | .noSuchOperation => "AttributeError"
  | .missingKey => "KeyError"
  | .emptySequence => "IndexError"
  | .tooManyDigits | .notNumeral | .notPair | .nonexistent => "ValueError"
  | .tooLarge => "OverflowError"
  | .outOfMemory => "MemoryError"
  | .broken _ => "RuntimeError"
  | .malformedPlan _ _ => "PlanDefinitionError"
  | .unknownCapability _ _ _ => "UnknownCapabilityError"
  | .alteredProgram => "ProgramIntegrityError"
  | .unreadable _ => "YAMLError"
  | .noSuchFile => "FileNotFoundError"
  | .directory => "IsADirectoryError"
  | .longPath => "OSError"
  | .illFormedResponse => "ValidationError"

/-- What a fault says about itself, which is nothing without memory. -/
def message : Fault → String
  | .wrongArity => "wrong number of arguments"
  | .unordered => "values that have no order were compared"
  | .unhashable => "a list, mapping or set cannot be a key"
  | .notIterable => "the value has no members"
  | .notIndexable => "the value has no positions or keys"
  | .notNumeric => "the value is not a number"
  | .notText => "the value is not a text"
  | .notEntries => "the value is not a mapping"
  | .noSuchOperation => "the value has no such operation"
  | .missingKey => "the mapping does not hold the key"
  | .emptySequence => "the sequence is empty"
  | .tooManyDigits => "the integer has too many decimal digits"
  | .notNumeral => "the text writes no number"
  | .notPair => "the entry is not a pair"
  | .nonexistent => "no such day, character or severity exists"
  | .tooLarge => "the number is too large"
  | .outOfMemory => ""
  | .broken message => message
  | .malformedPlan message _ => message
  | .unknownCapability _ _ message => message
  | .alteredProgram =>
      "Program data mismatch: feedback form has been altered or corrupted. " ++
        "Please refresh the page and try again."
  | .unreadable problem => problem
  | .noSuchFile => "the file does not exist"
  | .directory => "the file is a directory"
  | .longPath => "the path is too long"
  | .illFormedResponse => "the fields of the response have wrong types"

end Fault

end FormCheck
