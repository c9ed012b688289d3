import NodeFleet.Proofs.Fleet.Calls
import NodeFleet.Proofs.Ledger.Accounts

/-!
# The ledgers of a fleet

Every agent has a ledger of its own, and whatever happens to the fleet, a ledger is what the calls
to it have made of an empty one.  The calls are those of the submissions that were admitted and
of the releases by known names: a submission that is refused, for want of room or by an agent
that is not running, leaves the ledger as if it had not been made.

As no two agents have one name, a call to one ledger does not show in another.
-/

namespace NodeFleet.Fleet

/-- The calls to the ledger of one agent. -/
def callsTo (name : String) (calls : List (String × Ledger.Call)) : List Ledger.Call :=
  calls.filterMap fun (agent, call) => if agent = name then some call else none

/-- The ledger that calls have made of the empty one of an agent. -/
def ledgerOf (setup : AgentSetup) (calls : List (String × Ledger.Call)) : Ledger :=
  (Ledger.run (.empty setup.profile.allocatable) (callsTo setup.name calls)).ledger

/-- One more call to the ledger, or none. -/
theorem ledgerOf_concat_self (setup : AgentSetup) (calls : List (String × Ledger.Call))
    (call : Option Ledger.Call) :
    ledgerOf setup (calls ++ (call.map fun call => (setup.name, call)).toList) =
      call.elim (ledgerOf setup calls) fun call => ((ledgerOf setup calls).answer call).2 := by
  cases call with
  | none => simp [ledgerOf]
  | some call =>
      have hcalls : callsTo setup.name (calls ++ [(setup.name, call)]) =
          callsTo setup.name calls ++ [call] := by
        simp [callsTo]
      rw [Option.map_some, Option.toList_some, ledgerOf, hcalls, Ledger.run_concat]
      rfl

theorem ledgerOf_concat_of_ne {setup : AgentSetup} {other : String} (hne : other ≠ setup.name)
    (calls : List (String × Ledger.Call)) (call : Option Ledger.Call) :
    ledgerOf setup (calls ++ (call.map fun call => (other, call)).toList) =
      ledgerOf setup calls := by
  cases call <;> simp [ledgerOf, callsTo, hne]

/-- The ledgers are what the calls have made of them, and there were no calls to other ledgers. -/
structure Accounted (f : Fleet) (calls : List (String × Ledger.Call)) : Prop where
  known : ∀ call ∈ calls, call.1 ∈ f.cohort.members.map fun member => member.agent.name
  accounts : ∀ member ∈ f.cohort.members, member.agent.ledger = ledgerOf member.agent.setup calls

variable {f later : Fleet} {calls : List (String × Ledger.Call)} {clears : Bool}
  {call : Option (String × Ledger.Call)}

theorem Accounted.step (h : f.Accounted calls) (hlaunches : f.Launches)
    (hstep : Step f clears call later) : later.Accounted (calls ++ call.toList) := by
  cases hstep.memberStep hlaunches with
  | kept hmembers hcomponents =>
      rw [Option.toList_none, List.append_nil]
      exact ⟨by rw [hmembers]; exact h.known, by rw [hmembers]; exact h.accounts⟩
  | @enlisted index setup hmembers hcomponents =>
      rw [Option.toList_none, List.append_nil]
      refine ⟨fun call hcall => ?_, ?_⟩
      · rw [hmembers, List.map_append]
        exact List.mem_append_left _ (h.known call hcall)
      · rw [hmembers]
        intro member hmember
        rcases List.mem_append.1 hmember with hold | hlast
        · exact h.accounts member hold
        · -- There were no calls by the name of the new agent.
          obtain rfl := List.mem_singleton.1 hlast
          have hnodup := (hstep.launches hlaunches).names_nodup
          rw [hmembers, List.map_append] at hnodup
          have hnone : callsTo setup.name calls = [] := by
            refine List.filterMap_eq_nil_iff.2 fun call hcall => if_neg fun hname => ?_
            exact (List.nodup_append.1 hnodup).2.2 _ (h.known call hcall) _
              (List.mem_singleton_self _) hname
          show Ledger.empty setup.profile.allocatable = ledgerOf setup calls
          rw [ledgerOf, hnone]
          rfl
  | @changed position member call agent hmember heffect hmembers =>
      have hname := heffect.name_eq
      have hmem := List.mem_of_getElem? hmember
      refine ⟨fun entry hentry => ?_, fun other hother => ?_⟩
      · have hnames : (f.cohort.members.set position { member with agent }).map
            (fun member => member.agent.name) =
              f.cohort.members.map fun member => member.agent.name :=
          Cohort.map_set_of_eq hmember hname
        rw [hmembers, hnames]
        rcases List.mem_append.1 hentry with hold | hlast
        · exact h.known entry hold
        · obtain ⟨_, -, rfl⟩ := Option.map_eq_some_iff.1 (Option.mem_toList.1 hlast)
          exact List.mem_map_of_mem hmem
      · rw [hmembers] at hother
        rcases eq_or_name_ne_of_mem_set hlaunches.names_nodup hmember hname hother with
          rfl | ⟨hkept, hown⟩
        · show agent.ledger = ledgerOf agent.setup _
          have hself := ledgerOf_concat_self agent.setup calls call
          rw [show agent.setup.name = member.agent.name from hname] at hself
          rw [hself, heffect.ledger_eq, h.accounts member hmem, heffect.setup_eq]
        · rw [h.accounts other hkept]
          exact (ledgerOf_concat_of_ne (Ne.symm hown) calls call).symm

end NodeFleet.Fleet
