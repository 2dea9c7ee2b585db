/-! Versions, as the service shows them. -/

namespace Masking

/-- The version of the engine. -/
def engineVersion : String := "0.3.0"

/-- The version of the server. -/
def serverVersion : String := "0.3.0"

end Masking
