/-!
# Byte strings
-/

namespace Realtime

/-- A string of bytes, as it travels on the wire. -/
abbrev Bytes := List UInt8

end Realtime
