import Mathlib.Logic.Function.Basic
import TfortisPack.Library.Runs

/-!
# Trees and ports of a bridge (`mstp.c`)

A bridge has a list of trees, one for each spanning tree instance, and a list of
ports.  There is a record for each tree and each port (`per_tree_port_t`); it
hangs in the list of the tree and in the list of the port.  The commands of
`mstpctl` add and delete trees, and the kernel adds and deletes ports.  Any
`calloc` on the way may fail.

An address stands for one object; the address of a freed one does not come back.
The priorities, the timers and the state machines, which a command starts at its
end and which leave the lists and the tables alone, are left out.
-/

namespace TfortisPack.Mstpd

open Library

def maxVid : Nat := 4094

def maxFid : Nat := 4095

def maxMstid : Nat := 4094

def maxImplementationMstis : Nat := 63

/-! ## Data -/

/-- `per_tree_port_t`, with the address of its port. -/
structure PerTreePort where
  address : Nat
  port : Nat
  MSTID : Nat
  deriving DecidableEq, Repr

structure Tree where
  MSTID : Nat
  ports : List PerTreePort
  deriving DecidableEq, Repr

structure Port where
  address : Nat
  trees : List PerTreePort
  deriving DecidableEq, Repr

/-- `heap` is the number of calls of `calloc`, `digest` the digest of the configuration. -/
structure Bridge (δ : Type) where
  trees : List Tree
  ports : List Port
  vid2fid : Nat → Nat
  fid2mstid : Nat → Nat
  digest : δ
  heap : Nat

/-! ## Lists -/

/-- `list_add` behind the first entry that `isPlace` holds of. -/
def listAdd {α : Type} (isPlace : α → Bool) (new : α) : List α → List α
  | [] => []
  | entry :: entries =>
      if isPlace entry then entry :: new :: entries else entry :: listAdd isPlace new entries

/-- `list_del` of the record at this address. -/
def listDel (address : Nat) (entries : List PerTreePort) : List PerTreePort :=
  entries.filter fun ptp => ptp.address ≠ address

/-- The record leaves the list of its tree. -/
def delFromTrees (trees : List Tree) (ptp : PerTreePort) : List Tree :=
  trees.map fun tree => { tree with ports := listDel ptp.address tree.ports }

/-- The record leaves the list of its port. -/
def delFromPorts (ports : List Port) (ptp : PerTreePort) : List Port :=
  ports.map fun prt => { prt with trees := listDel ptp.address prt.trees }

section Bridge

variable {δ : Type} (hmacMd5 : List Nat → δ) (calloc : Nat → Bool)

/-! ## The digest -/

/-- The tree of each VLAN, between two zeros. -/
def vid2mstid (vid2fid fid2mstid : Nat → Nat) : List Nat :=
  0 :: ((List.range' 1 maxVid).map fun vid => fid2mstid (vid2fid vid)) ++ [0]

def RecalcConfigDigest (br : Bridge δ) : Bridge δ :=
  { br with digest := hmacMd5 (vid2mstid br.vid2fid br.fid2mstid) }

/-! ## Ports -/

/-- `MSTP_IN_bridge_create`, where the tree is created at the first address. -/
def mstpInBridgeCreate (digest : δ) : Bool × Bridge δ :=
  let br := RecalcConfigDigest hmacMd5 ⟨[], [], fun _ => 0, fun _ => 0, digest, 0⟩
  if calloc 0 then (true, { br with trees := [⟨0, []⟩], heap := 1 }) else (false, br)

/-- The trees, the list of the new port and the number of calls of `calloc`. -/
structure NewPort where
  trees : List Tree
  ptps : List PerTreePort
  heap : Nat

/-- The loop over the trees, `done` of which have a record of the new port; without memory all the
new records are removed. -/
def addToTrees (prt : Nat) :
    List Tree → List Tree → List PerTreePort → Nat → Bool × NewPort
  | done, [], ptps, heap => (true, ⟨done, ptps, heap⟩)
  | done, tree :: trees, ptps, heap =>
      if calloc heap then
        addToTrees prt (done ++ [{ tree with ports := tree.ports ++ [⟨heap, prt, tree.MSTID⟩] }])
          trees (ptps ++ [⟨heap, prt, tree.MSTID⟩]) (heap + 1)
      else (false, ⟨ptps.foldl delFromTrees (done ++ tree :: trees), [], heap + 1⟩)

/-- `create_if`: the port, and `MSTP_IN_port_create_and_add_tail` for it. -/
def createIf (driver : Bool) (br : Bridge δ) : Bool × Bridge δ :=
  if calloc br.heap then
    if driver then
      let (added, new) := addToTrees calloc br.heap [] br.trees [] (br.heap + 1)
      if added then
        (true, { br with
          trees := new.trees, ports := br.ports ++ [⟨br.heap, new.ptps⟩], heap := new.heap })
      else (false, { br with trees := new.trees, heap := new.heap })
    else (false, { br with heap := br.heap + 1 })
  else (false, { br with heap := br.heap + 1 })

/-- `MSTP_IN_delete_port` of the port at this address. -/
def mstpInDeletePort (address : Nat) (br : Bridge δ) : Bool × Bridge δ :=
  match br.ports.find? fun prt => prt.address = address with
  | none => (false, br)
  | some prt =>
      (true, { br with
        trees := prt.trees.foldl delFromTrees br.trees
        ports := br.ports.filter fun prt => prt.address ≠ address })

/-! ## Trees -/

/-- The ports, the list of the new tree and the number of calls of `calloc`. -/
structure NewTree where
  ports : List Port
  ptps : List PerTreePort
  heap : Nat

/-- The loop over the records of the tree in front of the new one; without memory all the new
records are removed. -/
def addToPorts (MSTID : Nat) :
    List PerTreePort → List Port → List PerTreePort → Nat → Bool × NewTree
  | [], ports, ptps, heap => (true, ⟨ports, ptps, heap⟩)
  | ptp_after :: rest, ports, ptps, heap =>
      if calloc heap then
        addToPorts MSTID rest
          (ports.map fun prt => { prt with
            trees := listAdd (fun ptp => ptp.address = ptp_after.address)
              ⟨heap, ptp_after.port, MSTID⟩ prt.trees })
          (ptps ++ [⟨heap, ptp_after.port, MSTID⟩]) (heap + 1)
      else (false, ⟨ptps.foldl delFromPorts ports, [], heap + 1⟩)

/-- The last tree of the list with a smaller identifier. -/
def treeAfter (MSTID : Nat) (trees : List Tree) : Option Tree :=
  (trees.filter fun tree => tree.MSTID < MSTID).getLast?

def mstpInCreateMsti (mstid : Nat) (br : Bridge δ) : Bool × Bridge δ :=
  if mstid < 1 ∨ mstid > maxMstid then (false, br)
  else if br.trees.any fun tree => tree.MSTID = mstid then (true, br)
  else
    match treeAfter mstid br.trees with
    | none => (false, br)
    | some tree_after =>
        if maxImplementationMstis < br.trees.length then (false, br)
        else if calloc br.heap then
          let (added, new) :=
            addToPorts calloc mstid tree_after.ports br.ports [] (br.heap + 1)
          if added then
            (true, { br with
              trees := listAdd (fun tree => tree.MSTID = tree_after.MSTID) ⟨mstid, new.ptps⟩
                br.trees
              ports := new.ports, heap := new.heap })
          else (false, { br with ports := new.ports, heap := new.heap })
        else (false, { br with heap := br.heap + 1 })

def mstpInDeleteMsti (mstid : Nat) (br : Bridge δ) : Bool × Bridge δ :=
  if mstid < 1 ∨ mstid > maxMstid then (false, br)
  else if (List.range (maxFid + 1)).any fun fid => br.fid2mstid fid = mstid then (false, br)
  else
    match br.trees.find? fun tree => tree.MSTID = mstid with
    | none => (true, br)
    | some tree =>
        (true, { br with
          trees := br.trees.filter fun tree => tree.MSTID ≠ mstid
          ports := tree.ports.foldl delFromPorts br.ports })

/-! ## Tables -/

def mstpInSetVid2fid (vid fid : Nat) (br : Bridge δ) : Bool × Bridge δ :=
  if vid < 1 ∨ vid > maxVid ∨ fid > maxFid then (false, br)
  else
    let vid2mstid_changed := br.fid2mstid fid ≠ br.fid2mstid (br.vid2fid vid)
    let br := { br with vid2fid := Function.update br.vid2fid vid fid }
    (true, if vid2mstid_changed then RecalcConfigDigest hmacMd5 br else br)

/-- An incorrect value keeps the previous one. -/
def correctedFids (br : Bridge δ) (vids2fids : Nat → Nat) (vid : Nat) : Nat :=
  if 1 ≤ vid ∧ vid ≤ maxVid ∧ vids2fids vid > maxFid then br.vid2fid vid else vids2fids vid

def mstpInSetAllVids2fids (vids2fids : Nat → Nat) (br : Bridge δ) : Bool × Bridge δ :=
  let vid2mstid_changed := (List.range' 1 maxVid).any fun vid =>
    vids2fids vid ≤ maxFid && br.fid2mstid (vids2fids vid) ≠ br.fid2mstid (br.vid2fid vid)
  let br := { br with vid2fid := correctedFids br vids2fids }
  (true, if vid2mstid_changed then RecalcConfigDigest hmacMd5 br else br)

def mstpInSetFid2mstid (fid mstid : Nat) (br : Bridge δ) : Bool × Bridge δ :=
  if fid > maxFid then (false, br)
  else if br.trees.any fun tree => tree.MSTID = mstid then
    if br.fid2mstid fid ≠ mstid then
      let used := (List.range' 1 maxVid).any fun vid => br.vid2fid vid = fid
      let br := { br with fid2mstid := Function.update br.fid2mstid fid mstid }
      (true, if used then RecalcConfigDigest hmacMd5 br else br)
    else (true, br)
  else (false, br)

/-- An incorrect value keeps the previous one. -/
def correctedMstids (br : Bridge δ) (fids2mstids : Nat → Nat) (fid : Nat) : Nat :=
  if fids2mstids fid > maxMstid then br.fid2mstid fid else fids2mstids fid

def mstpInSetAllFids2mstids (fids2mstids : Nat → Nat) (br : Bridge δ) : Bool × Bridge δ :=
  let MSTID := correctedMstids br fids2mstids
  if (List.range (maxFid + 1)).all fun fid => br.trees.any fun tree => tree.MSTID = MSTID fid then
    let vid2mstid_changed := (List.range' 1 maxVid).any fun vid =>
      br.fid2mstid (br.vid2fid vid) ≠ MSTID (br.vid2fid vid)
    let br := { br with fid2mstid := MSTID }
    (true, if vid2mstid_changed then RecalcConfigDigest hmacMd5 br else br)
  else (false, br)

/-! ## Commands -/

inductive Command where
  | createIf (driver : Bool)
  | deletePort (address : Nat)
  | createMsti (mstid : Nat)
  | deleteMsti (mstid : Nat)
  | setVid2fid (vid fid : Nat)
  | setAllVids2fids (vids2fids : Nat → Nat)
  | setFid2mstid (fid mstid : Nat)
  | setAllFids2mstids (fids2mstids : Nat → Nat)

/-- What the command returns, and the bridge behind it. -/
def perform (br : Bridge δ) : Command → Bool × Bridge δ
  | .createIf driver => createIf calloc driver br
  | .deletePort address => mstpInDeletePort address br
  | .createMsti mstid => mstpInCreateMsti calloc mstid br
  | .deleteMsti mstid => mstpInDeleteMsti mstid br
  | .setVid2fid vid fid => mstpInSetVid2fid hmacMd5 vid fid br
  | .setAllVids2fids vids2fids => mstpInSetAllVids2fids hmacMd5 vids2fids br
  | .setFid2mstid fid mstid => mstpInSetFid2mstid hmacMd5 fid mstid br
  | .setAllFids2mstids fids2mstids => mstpInSetAllFids2mstids hmacMd5 fids2mstids br

/-- The daemon with one bridge, which answers each command. -/
def management : Machine (Bridge δ) Command Bool where
  step br command :=
    ((perform hmacMd5 calloc br command).2, [(perform hmacMd5 calloc br command).1])

end Bridge

end TfortisPack.Mstpd
