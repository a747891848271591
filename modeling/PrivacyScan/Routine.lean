import PrivacyScan.Pattern.Parser

/-!
Calls that are routine and not worth a finding: log messages of the system itself, and database
statements that touch no data.
-/

namespace PrivacyScan.Routine

def logPatterns : List Pattern :=
  [r"file content truncated:", r"permission denied:", r"error reading file",
    r"database connection established", r"health check passed", r"failed to get redis info",
    r"fetched \d+ results", r"storing workspace result", r"worker started",
    r"task.*completed"].map Pattern.ofTextIgnoringCase

def isLogMessage (snippet : String) : Bool := logPatterns.any (·.occursIn (Text.lower snippet))

def statementPatterns : List Pattern :=
  [r"select.*count\(\*\)", r"select.*version\(\)", r"savepoint|rollback|commit",
    r"vacuum|analyze"].map Pattern.ofTextIgnoringCase

def isStatement (snippet : String) : Bool :=
  statementPatterns.any (·.occursIn (Text.lower snippet))

end PrivacyScan.Routine
