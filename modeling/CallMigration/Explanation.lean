import CallMigration.Finding
import CallMigration.Settings

/-!
# Explanation

What the program says about its check.
-/

namespace CallMigration

/-- What the check is about and which flags it takes. -/
def explanation : String :=
  "name: " ++ Finding.check ++ "\ndescription: " ++ Finding.checkSummary ++ "\nflags:\n"
    ++ "  " ++ Settings.prefixKey
    ++ "=<p1,p2,...>  only inline APIs whose id starts with a prefix\n"
    ++ "  " ++ Settings.skipCommentsKey
    ++ "=<bool>  leave call sites with comments alone (default true)\n"
    ++ "  " ++ Settings.checkFixCompilesKey
    ++ "=<bool>  decline fixes that do not compile (default false)\n"

end CallMigration
