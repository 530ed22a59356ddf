import TfortisPack.DeviceMonitor.Discovery
import TfortisPack.DeviceMonitor.SettingsText

/-!
# Progress of the main loop

Every datagram should be done with after a few calls of `client_handler`.  The
fill phase reads twice as many callbacks as there are, and `SETTINGS` is not
left when a command does not return or the memory for the commands is missing.
-/

namespace TfortisPack.DeviceMonitor

open TfortisPack.Library

/-- The daemon with what it has done since the last call that waited. -/
structure Progress where
  client : Option Client
  /-- The calls since the daemon waited, that one included. -/
  calls : Nat
  actions : List ClientAction

/-- The daemon after `CLIENT_SATE_INIT`. -/
def Progress.started : Progress where
  client := some Client.initial.init
  calls := 0
  actions := []

/-- A datagram arrives that the arrays hold, and it is no find request. -/
def Receivable (received : Option Datagram) : Prop :=
  ∃ datagram, received = some datagram ∧ datagram.bytes.length < 1550 ∧
    datagram.bytes.head? ≠ some requestFindDevice ∧
    (datagram.bytes.head? = some requestSetConfig → datagram.bytes.length ≤ 1069)

/-- No call that waits receives a find request or a datagram too long for the
arrays, and a text that passes both checks gets its memory and runs. -/
def Handled (platform : Platform) (before : Progress) (call : Call) : Prop :=
  ∀ client, before.client = some client →
    (client.state = .wait → Receivable call.received) ∧
      (client.state = .settings → ∀ text, client.verdict platform call = .executed text →
        call.heap ≠ none ∧ TextRuns call.settingsHost text)

/-- How many calls each phase has behind it; the fill phase is not reached. -/
def Within (state : ClientState) (calls : Nat) : Prop :=
  match state with
  | .wait => calls ≤ 4
  | .settings => calls = 1
  | .send => calls = 2
  | .reload => calls = 3
  | _ => False

section Step

variable {platform : Platform} {client next : Client} {call : Call}

end Step

end TfortisPack.DeviceMonitor
