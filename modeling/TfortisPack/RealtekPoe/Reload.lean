import TfortisPack.RealtekPoe.Configuration

/-!
# Reloading the configuration

The method `reload` runs `config_load` over the table in effect and then `poe_port_setup`, which
sends every port its settings and its enable bit.  The table is cleared before the packages
are loaded.
-/

namespace TfortisPack.RealtekPoe

open TfortisPack.Library

/-! ## The port setup -/

/-- The commands with one port and one argument. -/
def portCommand (cmdId : UInt8) (port : Nat) (argument : UInt8) : Request :=
  ⟨[cmdId, 0x00, UInt8.ofNat port, argument], by simp⟩

def poeCmdPortDisconnectType (port : Nat) (type : UInt8) : Request :=
  portCommand 0x0F port type

def poeCmdPortDetectionType (port : Nat) (type : UInt8) : Request :=
  portCommand 0x09 port type

def poeCmdPortPowerBudget (port : Nat) (budget : UInt8) : Request :=
  portCommand 0x13 port budget

/-- `config.ports[0..port_count-1]`. -/
def Config.portList (config : Config) : List ConfiguredPort :=
  (List.ofFn config.ports).take config.portCount.val

/-- The first loop of `poe_port_setup` for one port. -/
def budgetRequests (entry : ConfiguredPort × Nat) : List Request :=
  if !entry.1.enable || entry.1.powerBudget == 0 then []
  else
    [poeCmdPortDisconnectType entry.2 2, poeCmdPortDetectionType entry.2 3,
      poeCmdPortPowerBudget entry.2 entry.1.powerBudget]

/-- The commands of `poe_port_setup`; `stack` is for `poet_setup`. -/
def poePortSetupRequests (config : Config) (stack : Slots) : List Request :=
  config.portList.zipIdx.flatMap budgetRequests ++
    poetSetupRequests config.portList stack ++
    config.portList.zipIdx.map fun entry => poeCmdPortEnable entry.2 entry.1.enable

def poePortSetup (map : DialectMap) (config : Config) (poe : Poe) (stack : Slots) :
    Poe × List Action :=
  queueAll map poe (poePortSetupRequests config stack)

/-- `ubus_poe_reload_cb`, given what `uci_load` delivers for the two packages. -/
def ubusPoeReloadCb (map : DialectMap) (config : Config) (poe : Poe)
    (poePackage portPackage : Option UciPackage) (stack : Slots) :
    Config × Poe × List Action :=
  let loaded := configLoad config poePackage portPackage
  (loaded.1, poePortSetup map loaded.1 poe stack)

/-! ## Commands that disable a port -/

section PortCount

variable (config : Config)

end PortCount

/-- The commands that a reload queues. -/
theorem ubusPoeReloadCb_queues (map : DialectMap) (config : Config) (poe : Poe)
    (poePackage portPackage : Option UciPackage) (stack : Slots) :
    (ubusPoeReloadCb map config poe poePackage portPackage stack).2.1.cmdPending.map Cmd.cmd =
      poe.cmdPending.map Cmd.cmd ++
        framesOf map poe.cmdSeq
          (poePortSetupRequests
            (ubusPoeReloadCb map config poe poePackage portPackage stack).1 stack) := by
  apply queueAll_frames

end TfortisPack.RealtekPoe
