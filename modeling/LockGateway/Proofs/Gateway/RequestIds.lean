import LockGateway.Proofs.Gateway.Numbering
import LockGateway.Rounds

/-! The ids of the requests that a gateway issues, over whole histories. The steps from one
attempt to connect up to the next issue over the connection of that attempt, and no other.
The requests that they make have the ids from one on. They are issued in that order but for
the reading of a lock over a connection that has no room for all of its calls, and all of
them are but for one that is broken off there. -/

namespace LockGateway

variable {σ : Type}

/-! ## Steps -/

namespace Step

/-- The requests that the step issues. -/
def requests (step : Step σ) : List Rpc.Request := step.turn.issued.map IssuedRequest.request

/-- The step reads a lock, and comes to a fault among calls that are made together. -/
def Faults (step : Step σ) : Prop :=
  ∃ lock, step.operation = .getLock lock ∧
    Gateway.ReadingFaults lock (.start step.gateway) step.world

/-- The step reads a lock over a connection that cannot take all calls of a batch at
once. -/
def Scatters (step : Step σ) : Prop :=
  ∃ lock, step.operation = .getLock lock ∧ ∃ connection, step.gateway.connection = some connection ∧
    connection.backend.roomy step.gateway.undelivered.length = false

def BreaksOff (step : Step σ) : Prop := step.Faults ∧ step.Scatters

/-- Which of the requests that it makes a step issues, and under which generation. -/
structure Sends (step : Step σ) (made : List Rpc.Request) : Prop where
  current : step.turn.issued = step.requests.map (IssuedRequest.mk step.next.generation)
  among : step.requests.Subperm made
  complete (smooth : ¬ step.BreaksOff) : step.requests.Perm made
  ordered (together : ¬ step.Scatters) : step.requests = made

theorem requests_of_issued {step : Step σ} {generation : UInt64} {sent : List Rpc.Request}
    (issued : step.turn.issued = sent.map (IssuedRequest.mk generation)) :
    step.requests = sent := by
  rw [requests, issued, List.map_map]
  exact List.map_id sent

/-- A step that issues all that it makes. -/
theorem Sends.of_all {step : Step σ} {made : List Rpc.Request}
    (issued : step.turn.issued = made.map (IssuedRequest.mk step.next.generation)) :
    step.Sends made := by
  have same := requests_of_issued issued
  rw [← same] at issued
  exact ⟨issued, by rw [same], fun _ => by rw [same], fun _ => same⟩

/-- A step that connects begins a count. -/
theorem begins (step : Step σ) {endpoint : Endpoint (StateM σ)}
    (connects : step.operation.endpoint? = some endpoint) {attempts : Nat}
    (consistent : step.gateway.Consistent attempts) :
    ∃ made, step.ended.Begins step.next.generation made := by
  have ended := (step.connecting connects).2
  have counted := Gateway.connect_consistent endpoint consistent.generation_eq step.world
  have generation : step.next.generation = step.gateway.generation + 1 := by
    change step.ended.gateway.generation = _
    rw [ended, counted.generation_eq, consistent.generation_eq, UInt64.ofNat_add]
    rfl
  rw [generation, ended]
  exact Gateway.connect_begins endpoint step.gateway step.world

theorem tallies (step : Step σ) (stays : step.operation.endpoint? = none) :
    Session.Tallies step.Faults (∃ lock, step.operation = .getLock lock) (.start step.gateway)
      step.ended := by
  by_cases reads : ∃ lock, step.operation = .getLock lock
  · rcases reads with ⟨lock, reading⟩
    have tallies := (Gateway.getLock_tallies lock (.start step.gateway) step.world).mono
      (fun faults => (⟨lock, reading, faults⟩ : step.Faults))
      fun _ => (⟨lock, reading⟩ : ∃ lock, step.operation = .getLock lock)
    have ended : step.ended = (Gateway.getLock lock (.start step.gateway) step.world).1.2 := by
      rw [Step.ended, reading]
      change ((do return .snapshot (← Gateway.getLock lock) : GatewayM (StateM σ) Answer)
        _ _).1.2 = _
      rw [GatewayM.return_eq]
    rw [ended]
    exact tallies
  · have alone : step.operation.scope.batch = 0 := by
      cases operation : step.operation with
      | getLock lock => exact absurd ⟨lock, operation⟩ reads
      | _ => rfl
    exact ((Session.Tallies.framed alone).keeps (step.operation.action_composed stays)
      (.start step.gateway) step.world).mono False.elim False.elim

/-- A step that stays on a connection goes on with its count. -/
theorem goes_on (step : Step σ) (stays : step.operation.endpoint? = none)
    {connection : Connection (StateM σ)} (connected : step.gateway.connection = some connection)
    (current : connection.generation = step.gateway.generation) :
    ∃ later made, step.next.connection = some later ∧ step.Sends made ∧
      Rpc.Consecutive connection.numbered made ∧
      later.numbered = connection.numbered + made.length := by
  rcases step.tallies stays connection connected with
    ⟨later, made, sent, laterConnected, _, issued, makes⟩
  have generation : step.next.generation = connection.generation :=
    (step.stays stays).connection.generation.trans current.symm
  rw [← generation] at issued
  have requests : step.requests = sent := requests_of_issued issued
  rw [← requests] at issued makes
  have ordered (together : ¬ step.Scatters) : step.requests = made := by
    apply makes.ordered
    intro reads
    rcases reads with ⟨lock, reading⟩
    rw [← Bool.not_eq_false]
    exact fun narrow => together ⟨lock, reading, connection, connected, narrow⟩
  refine ⟨later, made, laterConnected, ⟨issued, makes.among, ?_, ordered⟩, makes.consecutive,
    makes.counted⟩
  intro smooth
  by_cases faults : step.Faults
  · rw [ordered fun scatters => smooth ⟨faults, scatters⟩]
  · exact makes.complete faults

/-- Without a connection a step that does not connect issues nothing. -/
theorem idles (step : Step σ) (stays : step.operation.endpoint? = none)
    (alone : step.gateway.connection = none) :
    step.turn.issued = ([] : List Rpc.Request).map (IssuedRequest.mk step.next.generation) ∧
      step.next.connection = none := by
  have quiet := step.stays stays
  have refused : (Session.start step.gateway).gateway.wallet = .error .notConnected := by
    change step.gateway.wallet = _
    rw [Gateway.wallet, alone]
  exact ⟨quiet.unused .notConnected refused, quiet.connection.alone alone⟩

end Step

/-! ## Histories -/

/-- The steps of a history from an attempt to connect up to the next one, in the order of
time. Attempt zero stands for the time before the first. -/
def stepsUnder (attempt : Nat) : List (Step σ) → List (Step σ)
  | [] => []
  | step :: earlier =>
      if attempts (step :: earlier) = attempt then stepsUnder attempt earlier ++ [step]
      else stepsUnder attempt earlier

/-- What was issued in a history over the connection of an attempt, in the order of
time. -/
def requestsOver (attempt : Nat) (history : List (Step σ)) : List Rpc.Request :=
  (stepsUnder attempt history).flatMap Step.requests

variable {attempt : Nat} {history : List (Step σ)} {gateway : Gateway (StateM σ)}
  {step : Step σ} {made : List (List Rpc.Request)}

theorem stepsUnder_cons_of_eq (under : attempts (step :: history) = attempt) :
    stepsUnder attempt (step :: history) = stepsUnder attempt history ++ [step] :=
  if_pos under

theorem stepsUnder_cons_of_ne (elsewhere : attempts (step :: history) ≠ attempt) :
    stepsUnder attempt (step :: history) = stepsUnder attempt history :=
  if_neg elsewhere

theorem attempts_le_cons (step : Step σ) (history : List (Step σ)) :
    attempts history ≤ attempts (step :: history) := by
  rw [attempts_cons]
  split <;> omega

/-- No step comes under an attempt that is still to be made. -/
theorem stepsUnder_later (later : attempts history < attempt) :
    stepsUnder attempt history = [] := by
  induction history with
  | nil => rfl
  | cons step earlier induction =>
      rw [stepsUnder_cons_of_ne (Nat.ne_of_lt later)]
      exact induction (Nat.lt_of_le_of_lt (attempts_le_cons step earlier) later)

/-! What each step sends of what it makes, all of them send of all that is made. -/

namespace Step.Sends

variable {steps : List (Step σ)}

theorem all_among (sends : List.Forall₂ Step.Sends steps made) :
    (steps.flatMap Step.requests).Subperm made.flatten := by
  induction sends with
  | nil => exact .refl _
  | cons first rest induction => exact first.among.append induction

theorem all_complete (sends : List.Forall₂ Step.Sends steps made)
    (smooth : ∀ step ∈ steps, ¬ step.BreaksOff) :
    (steps.flatMap Step.requests).Perm made.flatten := by
  induction sends with
  | nil => exact .refl _
  | cons first rest induction =>
      rw [List.forall_mem_cons] at smooth
      exact (first.complete smooth.1).append (induction smooth.2)

theorem all_ordered (sends : List.Forall₂ Step.Sends steps made)
    (together : ∀ step ∈ steps, ¬ step.Scatters) :
    steps.flatMap Step.requests = made.flatten := by
  induction sends with
  | nil => rfl
  | cons first rest induction =>
      rw [List.forall_mem_cons] at together
      rw [List.flatMap_cons, List.flatten_cons, first.ordered together.1, induction together.2]

end Step.Sends

/-- How the requests of an attempt are counted in a history that led to a gateway. -/
structure Counts (attempt : Nat) (history : List (Step σ)) (gateway : Gateway (StateM σ))
    (made : List (List Rpc.Request)) : Prop where
  sends : List.Forall₂ Step.Sends (stepsUnder attempt history) made
  current : ∀ step ∈ stepsUnder attempt history, step.next.generation = UInt64.ofNat attempt
  consecutive : Rpc.Consecutive 0 made.flatten
  counted {connection : Connection (StateM σ)} (now : attempts history = attempt)
    (connected : gateway.connection = some connection) :
    connection.numbered = made.flatten.length

namespace Counts

/-- A step under another attempt does not matter. -/
theorem skip (counts : Counts attempt history gateway made)
    (elsewhere : attempts (step :: history) ≠ attempt) :
    Counts attempt (step :: history) step.next made := by
  have steps := stepsUnder_cons_of_ne elsewhere
  refine ⟨?_, ?_, counts.consecutive, fun now => absurd now elsewhere⟩
  · rw [steps]
    exact counts.sends
  · rw [steps]
    exact counts.current

/-- A step under the attempt goes on with the count. -/
theorem extend (counts : Counts attempt history gateway made)
    (under : attempts (step :: history) = attempt)
    (current : step.next.generation = UInt64.ofNat attempt) {requests : List Rpc.Request}
    (sends : step.Sends requests) (consecutive : Rpc.Consecutive made.flatten.length requests)
    (counted : ∀ connection, step.next.connection = some connection →
      connection.numbered = made.flatten.length + requests.length) :
    Counts attempt (step :: history) step.next (made ++ [requests]) := by
  have steps := stepsUnder_cons_of_eq under
  have flat : (made ++ [requests]).flatten = made.flatten ++ requests := by simp
  refine ⟨?_, ?_, ?_, ?_⟩
  · rw [steps]
    exact List.rel_append counts.sends (.cons sends .nil)
  · rw [steps, List.forall_mem_append, List.forall_mem_singleton]
    exact ⟨counts.current, current⟩
  · rw [flat]
    rw [← Nat.zero_add made.flatten.length] at consecutive
    exact counts.consecutive.append consecutive
  · intro connection _ connected
    rw [flat, List.length_append]
    exact counted connection connected

end Counts

namespace Run

variable {config : Config}

/-- A step that connects begins a new count, and leaves the others as they are. -/
theorem counts_connecting (run : Run config history gateway) (goesOn : continues history = true)
    (operation : Operation (StateM σ)) (world : σ) {endpoint : Endpoint (StateM σ)}
    (connects : operation.endpoint? = some endpoint)
    (counts : Counts attempt history gateway made) :
    ∃ made, Counts attempt (⟨operation, gateway, world⟩ :: history)
      (Step.mk operation gateway world).next made := by
  by_cases under : attempts (⟨operation, gateway, world⟩ :: history) = attempt
  · have steps : stepsUnder attempt history = [] := by
      apply stepsUnder_later
      rw [attempts_cons, connects] at under
      exact Nat.lt_of_lt_of_eq (Nat.lt_succ_self _) under
    have none : made = [] := by
      have sent := counts.sends
      rw [steps] at sent
      exact List.forall₂_nil_left_iff.mp sent
    subst none
    rcases (Step.mk operation gateway world).begins connects run.consistent with ⟨requests, begins⟩
    have current := (run.step goesOn operation world).consistent.generation_eq
    rw [under] at current
    refine ⟨_, counts.extend under current (.of_all begins.issued) begins.consecutive ?_⟩
    intro connection connected
    exact (begins.counted connected).2.trans (Nat.zero_add _).symm
  · exact ⟨made, counts.skip under⟩

/-- A step that does not connect goes on with the count of its connection. -/
theorem counts_staying (run : Run config history gateway) (goesOn : continues history = true)
    (operation : Operation (StateM σ)) (world : σ) (stays : operation.endpoint? = none)
    (counts : Counts attempt history gateway made) :
    ∃ made, Counts attempt (⟨operation, gateway, world⟩ :: history)
      (Step.mk operation gateway world).next made := by
  by_cases under : attempts (⟨operation, gateway, world⟩ :: history) = attempt
  · have current := (run.step goesOn operation world).consistent.generation_eq
    rw [under] at current
    cases connected : gateway.connection with
    | none =>
        have idles := (Step.mk operation gateway world).idles stays connected
        refine ⟨_, counts.extend under current (.of_all idles.1) rfl ?_⟩
        intro connection found
        rw [idles.2] at found
        cases found
    | some connection =>
        have now : attempts history = attempt := by
          rw [attempts_cons, stays] at under
          exact under
        have numbered := counts.counted now connected
        rcases (Step.mk operation gateway world).goes_on stays connected
          (run.consistent.current connected).1 with
          ⟨later, requests, laterConnected, sends, consecutive, counted⟩
        rw [numbered] at consecutive counted
        refine ⟨_, counts.extend under current sends consecutive ?_⟩
        intro last lastConnected
        rw [laterConnected] at lastConnected
        cases lastConnected
        exact counted
  · exact ⟨made, counts.skip under⟩

theorem counts (run : Run config history gateway) (attempt : Nat) :
    ∃ made, Counts attempt history gateway made := by
  induction run with
  | new =>
      refine ⟨[], .nil, ?_, rfl, ?_⟩
      · intro step member
        cases member
      · intro connection _ connected
        cases connected
  | step run goesOn operation world induction =>
      rcases induction with ⟨made, counts⟩
      cases connects : operation.endpoint? with
      | none => exact run.counts_staying goesOn operation world connects counts
      | some endpoint => exact run.counts_connecting goesOn operation world connects counts

/-- Over every history the attempts to connect are counted, and the steps under an attempt
issue over the connection of that attempt only. The requests that are made under it have the
ids from one on, one after the other. Each step issues requests among those that it makes,
none twice: all of them unless the reading of a lock breaks off, and in their order unless it
reads a lock over a connection without room for a batch. If no step does so, what is issued
over the connection is all that was made, in that order. The connection that there is counts
what was made over it. -/
theorem requests_counted (run : Run config history gateway) :
    gateway.generation = UInt64.ofNat (attempts history) ∧
      ∀ attempt, ∃ made : List (List Rpc.Request),
        List.Forall₂ Step.Sends (stepsUnder attempt history) made ∧
          (∀ step ∈ stepsUnder attempt history, ∀ issued ∈ step.turn.issued,
            issued.generation = UInt64.ofNat attempt) ∧
          Rpc.Consecutive 0 made.flatten ∧
          (requestsOver attempt history).Subperm made.flatten ∧
          ((∀ step ∈ stepsUnder attempt history, ¬ step.BreaksOff) →
            (requestsOver attempt history).Perm made.flatten) ∧
          ((∀ step ∈ stepsUnder attempt history, ¬ step.Scatters) →
            requestsOver attempt history = made.flatten) ∧
          ∀ connection, gateway.connection = some connection → attempts history = attempt →
            connection.numbered = made.flatten.length := by
  refine ⟨run.consistent.generation_eq, ?_⟩
  intro attempt
  rcases run.counts attempt with ⟨made, counts⟩
  refine ⟨made, counts.sends, ?_, counts.consecutive, Step.Sends.all_among counts.sends,
    Step.Sends.all_complete counts.sends, Step.Sends.all_ordered counts.sends,
    fun connection connected now => counts.counted now connected⟩
  intro step member issued among
  rcases List.mem_iff_getElem.mp member with ⟨place, bound, rfl⟩
  have sends := (List.forall₂_iff_get.mp counts.sends).2 place bound
    (counts.sends.length_eq ▸ bound)
  have current := sends.current
  rw [List.get_eq_getElem] at current
  rw [current] at among
  rcases List.mem_map.mp among with ⟨request, _, rfl⟩
  exact counts.current _ member

end Run

/-! ## A lock that cannot be read

A node answers every call with one word, and is connected over a relay with one place. The
price of a lock cannot be read from that word, while the next request is on its way. -/

namespace Step

def entering : Step Unit where
  operation := .connect (.relay
    (RelayHost.native (fun _ _ => pure (.ok (.success 0 (.string "1")))) .generic).answer 1
    (.rounds 1))
  gateway := .new Config.standard
  world := ()

def reading : Step Unit where
  operation := .getLock .zero
  gateway := entering.next
  world := ()

def asking : Step Unit where
  operation := .getAccount
  gateway := reading.next
  world := ()

end Step

namespace Run

theorem asking_run :
    Run Config.standard [Step.asking, Step.reading, Step.entering] Step.asking.next := by
  have entered : Run Config.standard [Step.entering] Step.entering.next :=
    .step .new rfl Step.entering.operation ()
  have read : Run Config.standard [Step.reading, Step.entering] Step.reading.next :=
    .step entered (by decide +kernel) Step.reading.operation ()
  exact .step read (by decide +kernel) Step.asking.operation ()

theorem asking_requests_counted :
    Run Config.standard [Step.asking, Step.reading, Step.entering] Step.asking.next ∧
      Step.asking.next.generation =
        UInt64.ofNat (attempts [Step.asking, Step.reading, Step.entering]) ∧
      ∀ attempt, ∃ made : List (List Rpc.Request),
        List.Forall₂ Step.Sends
            (stepsUnder attempt [Step.asking, Step.reading, Step.entering]) made ∧
          (∀ step ∈ stepsUnder attempt [Step.asking, Step.reading, Step.entering],
            ∀ issued ∈ step.turn.issued, issued.generation = UInt64.ofNat attempt) ∧
          Rpc.Consecutive 0 made.flatten ∧
          (requestsOver attempt [Step.asking, Step.reading, Step.entering]).Subperm
            made.flatten ∧
          ((∀ step ∈ stepsUnder attempt [Step.asking, Step.reading, Step.entering],
              ¬ step.BreaksOff) →
            (requestsOver attempt [Step.asking, Step.reading, Step.entering]).Perm
              made.flatten) ∧
          ((∀ step ∈ stepsUnder attempt [Step.asking, Step.reading, Step.entering],
              ¬ step.Scatters) →
            requestsOver attempt [Step.asking, Step.reading, Step.entering] = made.flatten) ∧
          ∀ connection, Step.asking.next.connection = some connection →
            attempts [Step.asking, Step.reading, Step.entering] = attempt →
            connection.numbered = made.flatten.length :=
  ⟨asking_run, requests_counted asking_run⟩

/-- The last four calls of the reading are not posted, and the next request has the id after
theirs. -/
theorem reading_skips_ids :
    ¬ ∀ (config : Config) (history : List (Step Unit)) (gateway : Gateway (StateM Unit))
      (attempt : Nat), Run config history gateway →
      Rpc.Consecutive 0 (requestsOver attempt history) := by
  intro gapless
  have consecutive := gapless _ _ _ 1 asking_run
  have ids : (requestsOver 1 [Step.asking, Step.reading, Step.entering]).map Rpc.Request.id =
      [1, 2, 3, 4, 5, 6, 11] := by
    decide +kernel
  have count : (requestsOver 1 [Step.asking, Step.reading, Step.entering]).length = 7 := by
    simpa using congrArg List.length ids
  rw [Rpc.Consecutive, ids, count] at consecutive
  exact absurd consecutive (by decide)

end Run

end LockGateway
