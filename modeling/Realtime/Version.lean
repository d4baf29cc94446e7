import Realtime.Error

/-!
# The version of the library
-/

namespace Realtime.Version

/-- Changes with what is no longer compatible. -/
def major : String := "0"

/-- Changes with what is new. -/
def minor : String := "1"

/-- Changes with what is mended. -/
def patch : String := "0"

/-- The version as one text. -/
def text : String :=
  ".".intercalate [major, minor, patch]

/-- Refuses every version but the library's own. -/
def check (expected : String) : Except Error Unit :=
  if expected = text then .ok () else .error (.versionMismatch expected text)

end Realtime.Version
