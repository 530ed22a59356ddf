import TfortisPack.DeviceMonitor.Phases

/-!
# Discovery

The answer to a find request is built in the receive buffer and sent with the
length of the request.
-/

namespace TfortisPack.DeviceMonitor

open TfortisPack.Library

/-! ## What is sent -/

def ClientAction.datagram : ClientAction → Option (List UInt8)
  | .sent _ bytes => some bytes
  | _ => none

section Fill

variable {platform : Platform} {client : Client}

end Fill

/-! ## The answer -/

section Answer

variable {platform : Platform}

end Answer

/-- Both checks read `passFlag` behind the call. -/
def readsAfter : Platform where
  macRead := .afterCall
  md5Read := .afterCall
  charSigned := false

/-- A call on an idle device; the callbacks find nothing to fill in. -/
def sampleCall (received : Option Datagram) : Call where
  received := received
  json := plainJson
  config := ⟨[]⟩
  stack := Vector.replicate 32 0
  settingsHost := { protoLines := 1, locationTestFlag := false }
  heap := none
  fill := fun _ searchOutMsg => searchOutMsg
  behind := fun _ => none

end TfortisPack.DeviceMonitor
