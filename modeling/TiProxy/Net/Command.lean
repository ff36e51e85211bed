/-!
# Command bytes

The first byte of a client request names its command (`pkg/proxy/net/command.go`:
`type Command byte` and the `iota` block).  A command is a byte and any byte may
stand first in a packet, so the model keeps `UInt8` and names the values the
modelled code compares with.
-/

namespace TiProxy
namespace Net

/-- `ComQuit`. -/
def ComQuit : UInt8 := 1

/-- `ComInitDB`. -/
def ComInitDB : UInt8 := 2

/-- `ComQuery`. -/
def ComQuery : UInt8 := 3

/-- `ComFieldList`. -/
def ComFieldList : UInt8 := 4

/-- `ComStatistics`. -/
def ComStatistics : UInt8 := 9

/-- `ComProcessInfo`. -/
def ComProcessInfo : UInt8 := 10

/-- `ComChangeUser`. -/
def ComChangeUser : UInt8 := 17

/-- `ComStmtPrepare`. -/
def ComStmtPrepare : UInt8 := 22

/-- `ComStmtExecute`. -/
def ComStmtExecute : UInt8 := 23

/-- `ComStmtSendLongData`. -/
def ComStmtSendLongData : UInt8 := 24

/-- `ComStmtClose`. -/
def ComStmtClose : UInt8 := 25

/-- `ComStmtReset`. -/
def ComStmtReset : UInt8 := 26

/-- `ComSetOption`. -/
def ComSetOption : UInt8 := 27

/-- `ComStmtFetch`. -/
def ComStmtFetch : UInt8 := 28

/-- `ComResetConnection`. -/
def ComResetConnection : UInt8 := 31

end Net
end TiProxy
