import TfortisPack.Clish.PortRanges
import TfortisPack.Library.Runs

/-!
# The time servers (`config_sntp.lua`)

The list option `system.ntp.server` cannot be edited in place: a command reads
it, deletes the option and appends the servers again one by one.  A list without
a server is an option that is not there, and `uci` only complains when such an
option is deleted.  A name is the word that the shell hands to `uci`.
-/

namespace TfortisPack.Clish

open Library
open Library.LuaNumerals (tonumber)
open VlanCli (Text)

namespace SntpServers

/-- The section `system.ntp`. -/
structure Ntp where
  enabled : Option Text
  server : List Text
  deriving DecidableEq, Repr

def zero : Text := ['0']

def one : Text := ['1']

/-- `uci del system.ntp.server` -/
def uciDelServer (ntp : Ntp) : Ntp :=
  { ntp with server := [] }

/-- `uci add_list system.ntp.server=...` -/
def uciAddList (ntp : Ntp) (hostName : Text) : Ntp :=
  { ntp with server := ntp.server ++ [hostName] }

/-! ## The commands -/

def setState (argument : Text) (ntp : Ntp) : Ntp :=
  let value := tonumber argument
  if value = some 0 then
    uciDelServer (if ntp.enabled = none then { ntp with enabled := some zero } else ntp)
  else if value = some 1 then { ntp with enabled := none }
  else ntp

/-- The servers are deleted once, before the loop that appends them. -/
def addServer (value : Text) (ntp : Ntp) : Ntp :=
  if ntp.enabled = none ∨ ntp.enabled = some one then
    if ntp.server = [] then uciAddList ntp value
    else if ntp.server.any fun hostName => value = hostName then ntp
    else uciAddList (ntp.server.foldl uciAddList (uciDelServer ntp)) value
  else ntp

/-- The body of the loop in `delete_server`: the servers are deleted in every round. -/
def deleteRound (value : Text) (ntp : Ntp) (hostName : Text) : Ntp :=
  if value ≠ hostName then uciAddList (uciDelServer ntp) hostName else uciDelServer ntp

def deleteServer (value : Text) (ntp : Ntp) : Ntp :=
  if ntp.enabled = none ∨ ntp.enabled = some one then
    ntp.server.foldl (deleteRound value) ntp
  else ntp

/-- The commands about `system.ntp`. -/
inductive Command where
  | state (argument : Text)
  | add (value : Text)
  | delete (value : Text)
  deriving DecidableEq, Repr

def runConfigSntp (ntp : Ntp) : Command → Ntp
  | .state argument => setState argument ntp
  | .add value => addServer value ntp
  | .delete value => deleteServer value ntp

def sntp : Machine Ntp Command Unit where
  step ntp command := (runConfigSntp ntp command, [])

/-! ## What a command leaves -/

/-- Servers of a client that is switched on, none of them twice. -/
structure Servers where
  ntp : Ntp
  enabled : ntp.enabled = none ∨ ntp.enabled = some one
  distinct : ntp.server.Nodup

theorem enabled_uciAddList (ntp : Ntp) (hostName : Text) :
    (uciAddList ntp hostName).enabled = ntp.enabled := rfl

theorem foldl_uciAddList (hostNames : List Text) (ntp : Ntp) :
    hostNames.foldl uciAddList ntp = { ntp with server := ntp.server ++ hostNames } := by
  induction hostNames generalizing ntp with
  | nil => simp
  | cons hostName rest inductionHypothesis =>
    rw [List.foldl_cons, inductionHypothesis, uciAddList, List.append_assoc]
    rfl

/-- `add_server` appends a name that is not in the list. -/
theorem server_addServer {ntp : Ntp} (enabled : ntp.enabled = none ∨ ntp.enabled = some one)
    (value : Text) :
    (addServer value ntp).server =
      if value ∈ ntp.server then ntp.server else ntp.server ++ [value] := by
  rw [addServer, if_pos enabled]
  by_cases empty : ntp.server = []
  · simp [empty, uciAddList]
  · by_cases member : value ∈ ntp.server
    · have equal : (ntp.server.any fun hostName => value = hostName) = true := by
        simpa using member
      rw [if_neg empty, if_pos equal, if_pos member]
    · have new : ¬(ntp.server.any fun hostName => value = hostName) = true := by
        simpa using member
      rw [if_neg empty, if_neg new, if_neg member, foldl_uciAddList]
      rfl

theorem enabled_addServer (value : Text) (ntp : Ntp) :
    (addServer value ntp).enabled = ntp.enabled := by
  rw [addServer]
  split
  · split
    · rfl
    · split
      · rfl
      · rw [enabled_uciAddList, foldl_uciAddList]
        rfl
  · rfl

/-- What is left of the last server. -/
def lastOther (value : Text) (hostNames : List Text) : List Text :=
  hostNames.getLast?.toList.filter fun hostName => hostName ≠ value

theorem server_deleteRound (value : Text) (ntp : Ntp) (hostName : Text) :
    (deleteRound value ntp hostName).server = [hostName].filter fun name => name ≠ value := by
  rw [deleteRound]
  by_cases same : value = hostName
  · simp [same, uciDelServer]
  · simp [same, Ne.symm same, uciDelServer, uciAddList]

/-- Only the last server survives the loop. -/
theorem server_deleteServer {ntp : Ntp} (enabled : ntp.enabled = none ∨ ntp.enabled = some one)
    (value : Text) : (deleteServer value ntp).server = lastOther value ntp.server := by
  rw [deleteServer, if_pos enabled]
  rcases List.eq_nil_or_concat' ntp.server with empty | ⟨before, last, split⟩
  · rw [empty]
    exact empty
  · rw [split, List.foldl_append, List.foldl_cons, List.foldl_nil, server_deleteRound, lastOther,
      List.getLast?_concat]
    rfl

/-! ## Where the lists are right -/

theorem lastOther_concat (value : Text) (before : List Text) (last : Text) :
    lastOther value (before ++ [last]) = if last = value then [] else [last] := by
  rw [lastOther, List.getLast?_concat]
  by_cases same : last = value
  · simp [same]
  · simp [same]

theorem concat_eq_pair_iff (value : Text) (before : List Text) (last : Text) :
    (∃ other, before ++ [last] = [value, other]) ↔ before = [value] := by
  constructor
  · intro pair
    obtain ⟨other, equal⟩ := pair
    have split : before ++ [last] = [value] ++ [other] := equal
    exact (List.append_inj' split rfl).1
  · intro single
    exact ⟨last, by rw [single]; rfl⟩

/-- The last server is all that has to be left where the list has one server, or two of which the
first one goes. -/
theorem lastOther_eq_erase_iff {hostNames : List Text} (distinct : hostNames.Nodup)
    (value : Text) :
    lastOther value hostNames = hostNames.erase value ↔
      hostNames.length ≤ 1 ∨ ∃ other, hostNames = [value, other] := by
  rcases List.eq_nil_or_concat' hostNames with empty | ⟨before, last, split⟩
  · simp [empty, lastOther]
  · rw [split] at distinct ⊢
    have fresh : last ∉ before := by
      intro member
      exact (List.nodup_append.mp distinct).2.2 last member last (by simp) rfl
    have short : (before ++ [last]).length ≤ 1 ↔ before = [] := by
      rw [List.length_append, List.length_singleton, ← List.length_eq_zero_iff]
      omega
    rw [lastOther_concat, List.erase_append, short, concat_eq_pair_iff]
    by_cases same : last = value
    · have absent : value ∉ before := same ▸ fresh
      have notSingle : before ≠ [value] := by
        rintro rfl
        exact absent List.mem_cons_self
      rw [if_pos same, if_neg absent, same, List.erase_cons_head, List.append_nil,
        or_iff_left notSingle]
      exact eq_comm
    · rw [if_neg same]
      by_cases member : value ∈ before
      · have nonempty : before ≠ [] := List.ne_nil_of_mem member
        rw [if_pos member, or_iff_right nonempty, List.self_eq_append_left,
          List.erase_eq_nil_iff, or_iff_right nonempty]
      · have notSingle : before ≠ [value] := by
          rintro rfl
          exact member List.mem_cons_self
        rw [if_neg member, List.erase_of_not_mem (by simpa using Ne.symm same),
          List.self_eq_append_left, or_iff_left notSingle]

/-- The two operations edit the list as they should, and a new server can be taken back. -/
structure Edits (servers : Servers) (value : Text) : Prop where
  deletes : (deleteServer value servers.ntp).server = servers.ntp.server.erase value
  adds : value ∉ servers.ntp.server →
    (addServer value servers.ntp).server = servers.ntp.server ++ [value]
  keeps : value ∈ servers.ntp.server →
    (addServer value servers.ntp).server = servers.ntp.server
  restores : value ∉ servers.ntp.server →
    (deleteServer value (addServer value servers.ntp)).server = servers.ntp.server

theorem deleteServer_eq_erase_iff (servers : Servers) (value : Text) :
    (deleteServer value servers.ntp).server = servers.ntp.server.erase value ↔
      servers.ntp.server.length ≤ 1 ∨ ∃ other, servers.ntp.server = [value, other] := by
  rw [server_deleteServer servers.enabled]
  exact lastOther_eq_erase_iff servers.distinct value

/-- Taking a new server back empties the list. -/
theorem deleteServer_addServer (servers : Servers) {value : Text}
    (new : value ∉ servers.ntp.server) :
    (deleteServer value (addServer value servers.ntp)).server = [] := by
  have enabled : (addServer value servers.ntp).enabled = none ∨
      (addServer value servers.ntp).enabled = some one := by
    rw [enabled_addServer]
    exact servers.enabled
  rw [server_deleteServer enabled, server_addServer servers.enabled, if_neg new, lastOther_concat,
    if_pos rfl]

/-- The operations are right only for an empty list, a list of just the server and a list of the
server and one more. -/
theorem sntp_edits_iff (servers : Servers) (value : Text) :
    Edits servers value ↔
      servers.ntp.server = [] ∨ servers.ntp.server = [value] ∨
        ∃ other, servers.ntp.server = [value, other] := by
  have added := server_addServer servers.enabled value
  constructor
  · intro edits
    by_cases member : value ∈ servers.ntp.server
    · rcases (deleteServer_eq_erase_iff servers value).mp edits.deletes with short | pair
      · right
        left
        obtain ⟨only, single⟩ := List.length_eq_one_iff.mp
          (Nat.le_antisymm short (List.length_pos_of_mem member))
        rw [single, List.mem_singleton] at member
        rw [single, member]
      · exact Or.inr (Or.inr pair)
    · left
      rw [← edits.restores member]
      exact deleteServer_addServer servers member
  · intro known
    refine ⟨?_, fun new => by rw [added, if_neg new], fun present => by rw [added, if_pos present],
      fun new => ?_⟩
    · rw [deleteServer_eq_erase_iff]
      rcases known with empty | single | pair
      · exact Or.inl (by simp [empty])
      · exact Or.inl (by simp [single])
      · exact Or.inr pair
    · rw [deleteServer_addServer servers new]
      rcases known with empty | single | pair
      · exact empty.symm
      · exact absurd (by simp [single]) new
      · obtain ⟨other, pair⟩ := pair
        exact absurd (by simp [pair]) new

def threeServers : Servers where
  ntp := { enabled := none, server := [['a'], ['b'], ['c']] }
  enabled := Or.inl rfl
  distinct := by decide

/-- Of three servers of which the first one is deleted only the last one is left. -/
theorem delete_loses_servers : ¬∀ servers value, Edits servers value := by
  intro all
  have deleted := (all threeServers ['a']).deletes
  exact absurd deleted (by decide)

/-! ## Runs -/

theorem nodup_runConfigSntp (ntp : Ntp) (command : Command) (distinct : ntp.server.Nodup) :
    (runConfigSntp ntp command).server.Nodup := by
  cases command with
  | state argument =>
    simp only [runConfigSntp, setState]
    split
    · exact List.nodup_nil
    · split
      · exact distinct
      · exact distinct
  | add value =>
    by_cases enabled : ntp.enabled = none ∨ ntp.enabled = some one
    · rw [runConfigSntp, server_addServer enabled]
      split
      case isTrue => exact distinct
      case isFalse new =>
        rw [List.nodup_append]
        refine ⟨distinct, List.nodup_singleton value, fun name member other last => ?_⟩
        rw [List.mem_singleton] at last
        rintro rfl
        exact new (last ▸ member)
    · rw [runConfigSntp, addServer, if_neg enabled]
      exact distinct
  | delete value =>
    by_cases enabled : ntp.enabled = none ∨ ntp.enabled = some one
    · rw [runConfigSntp, server_deleteServer enabled]
      refine List.Nodup.filter _ ?_
      cases ntp.server.getLast? with
      | none => exact List.nodup_nil
      | some last => exact List.nodup_singleton last
    · rw [runConfigSntp, deleteServer, if_neg enabled]
      exact distinct

/-- No run of the commands puts a server twice into the list. -/
theorem nodup_run {ntp : Ntp} (distinct : ntp.server.Nodup) (commands : List Command) :
    (sntp.final ntp commands).server.Nodup := by
  have step : ∀ ntp command, ntp.server.Nodup → (sntp.next ntp command).server.Nodup :=
    nodup_runConfigSntp
  exact Machine.final_of_invariant step distinct commands

end SntpServers

end TfortisPack.Clish
