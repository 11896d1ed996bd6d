/-!
# PackageModel.Style

Colours and weights of text on a terminal.
-/

namespace PackageModel.Style

/-- The text in red. -/
def red (s : String) : String := "\x1b[31m" ++ s ++ "\x1b[39m"

/-- The text in green. -/
def green (s : String) : String := "\x1b[32m" ++ s ++ "\x1b[39m"

/-- The text in bold. -/
def bold (s : String) : String := "\x1b[1m" ++ s ++ "\x1b[0m"

end PackageModel.Style
