/-!
# Faults of patterns

The reader of patterns stops at the first fault it meets.
-/

namespace ValuePipeline.Pattern

inductive ParseError where
  | classUnclosed
  | classRangeReversed
  | classRangeEnds
  | classEscape
  | endOfPattern
  | unknownEscape
  | badNumber
  | badHex
  | backReference
  | lookAround
  | badFlags
  | groupUnclosed
  | groupUnopened
  | badGroupName
  | repeatedGroupName
  | nothingToRepeat
  | badRepetition
  | unknownClass
  | unknownBoundary
  | notText
  | tooDeep
  | tooLarge
  deriving DecidableEq, Repr

end ValuePipeline.Pattern
