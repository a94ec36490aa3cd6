/-! The version of this library. -/

namespace RemoteRecords

def version : String := "0.4.0"

end RemoteRecords
