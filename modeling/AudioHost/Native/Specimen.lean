/-!
Specimen libraries: small plugin libraries whose contents are known.
-/

namespace AudioHost

inductive Specimen where
  /-- Two amplifiers. -/
  | amplifiers
  /-- A delay that is listed twice. -/
  | repeatedDelay
  /-- An onset detector, a tempo tracker, and an analyser that cannot be made. -/
  | analysers
  /-- An analyser that is listed twice. -/
  | repeatedAnalyser
  /-- A library that exports nothing. -/
  | bare
  /-- A file that is no library. -/
  | unloadable
deriving DecidableEq, Repr

end AudioHost
