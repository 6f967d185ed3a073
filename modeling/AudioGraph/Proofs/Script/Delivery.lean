import AudioGraph.Script.Replay

/-!
# Delivering a script

A transport is sent the operations of a script in their order, up to the first one that it refuses, and none behind it.
What it has taken before, and how it answers next, is in its state, of which nothing is known here.

* (one step) A delivery answers as its first operation is answered, and goes on behind it if it was taken
  (`replay_cons_of_taken`, `replay_cons_of_refused`).
* (runs) Behind operations that are taken, the delivery of the others is the whole delivery (`replay_append_of_takes`).
  So a delivery succeeds exactly if all operations are taken, and fails exactly at the first one that is refused
  (`replay_eq_ok_iff`, `replay_eq_error_iff`).
* (calls) A transport that keeps a log has logged these operations and no others (`replay_watched`).
* (restarts) If a refusal builds nothing, a script that is delivered with restarts is built once, in its order
  (`Restarted.built_eq`).
-/

namespace AudioGraph

universe u v

namespace Transport

/-! ### One step -/

/-- The outcome of a delivery, counted with the operations that were sent before. -/
def laterBy (sent : Nat) : Except DeliveryFailure Nat → Except DeliveryFailure Nat
  | .ok n => .ok (sent + n)
  | .error failure => .error { failure with index := sent + failure.index }

theorem laterBy_zero (outcome : Except DeliveryFailure Nat) : laterBy 0 outcome = outcome := by
  cases outcome <;> simp [laterBy]

theorem laterBy_laterBy (a b : Nat) (outcome : Except DeliveryFailure Nat) :
    laterBy a (laterBy b outcome) = laterBy (a + b) outcome := by
  cases outcome <;> simp [laterBy, Nat.add_assoc]

variable {σ : Type u} {transport : Transport σ} {state next middle last : σ} {op : Operation}
  {script rest xs : List Operation} {refusal : Refusal} {failure : DeliveryFailure} {n : Nat}

private theorem replayFrom_add (transport : Transport σ) (sent index : Nat) (script : List Operation) (state : σ) :
    transport.replayFrom (sent + index) script state =
      (laterBy sent (transport.replayFrom index script state).1, (transport.replayFrom index script state).2) := by
  induction script generalizing index state with
  | nil => rfl
  | cons op rest ih =>
    rw [replayFrom, replayFrom]
    rcases transport.send state op with ⟨_ | _, next⟩
    · rfl
    · exact ih (index + 1) next

theorem replay_cons_of_taken (taken : transport.send state op = (.ok (), next)) (rest : List Operation) :
    transport.replay (op :: rest) state =
      (laterBy 1 (transport.replay rest next).1, (transport.replay rest next).2) := by
  rw [replay, replayFrom, taken]
  exact replayFrom_add transport 1 0 rest next

theorem replay_cons_of_refused (refused : transport.send state op = (.error refusal, last)) (rest : List Operation) :
    transport.replay (op :: rest) state = (.error ⟨0, op.action, refusal⟩, last) := by
  rw [replay, replayFrom, refused]

/-! ### Runs -/

/-- Operations that are sent one after another are all taken. -/
def Takes (transport : Transport σ) : σ → List Operation → σ → Prop
  | state, [], last => state = last
  | state, op :: rest, last => ∃ next, transport.send state op = (.ok (), next) ∧ Takes transport next rest last

/-- A failure is about the first operation of a script that is refused. -/
def Refuses (transport : Transport σ) (state : σ) (script : List Operation) (failure : DeliveryFailure) (last : σ) :
    Prop :=
  ∃ before op behind middle, script = before ++ op :: behind ∧ transport.Takes state before middle ∧
    transport.send middle op = (.error failure.source, last) ∧
    failure.index = before.length ∧ failure.action = op.action

/-- Either all operations are taken, or there is a first one that is refused. -/
theorem takes_or_refuses (transport : Transport σ) (script : List Operation) (state : σ) :
    (∃ last, transport.Takes state script last) ∨ ∃ failure last, transport.Refuses state script failure last := by
  induction script generalizing state with
  | nil => exact .inl ⟨state, rfl⟩
  | cons op rest ih =>
    rcases h : transport.send state op with ⟨refusal | _, next⟩
    · exact .inr ⟨⟨0, op.action, refusal⟩, next, [], op, rest, state, rfl, rfl, h, rfl, rfl⟩
    · rcases ih next with ⟨last, taken⟩ | ⟨failure, last, before, other, behind, middle, rfl, taken, refused, -, same⟩
      · exact .inl ⟨last, next, h, taken⟩
      · exact .inr ⟨{ failure with index := (op :: before).length }, last, op :: before, other, behind, middle, rfl,
          ⟨next, h, taken⟩, refused, rfl, same⟩

/-- Behind operations that are taken, the others are delivered as if they were the script. -/
theorem replay_append_of_takes (taken : transport.Takes state xs middle) (ys : List Operation) :
    transport.replay (xs ++ ys) state =
      (laterBy xs.length (transport.replay ys middle).1, (transport.replay ys middle).2) := by
  induction xs generalizing state with
  | nil =>
    obtain rfl : state = middle := taken
    simp [laterBy_zero]
  | cons op rest ih =>
    obtain ⟨next, sent, taken⟩ := taken
    rw [List.cons_append, replay_cons_of_taken sent, ih taken, laterBy_laterBy, List.length_cons, Nat.add_comm]

theorem Takes.replay_eq (taken : transport.Takes state script last) :
    transport.replay script state = (.ok script.length, last) := by
  have h := replay_append_of_takes taken []
  rwa [List.append_nil] at h

theorem Refuses.replay_eq (refused : transport.Refuses state script failure last) :
    transport.replay script state = (.error failure, last) := by
  obtain ⟨before, op, behind, middle, rfl, taken, sent, index, action⟩ := refused
  rw [replay_append_of_takes taken, replay_cons_of_refused sent, ← action]
  simp [laterBy, ← index]

theorem replay_eq_ok_iff :
    transport.replay script state = (.ok n, last) ↔ n = script.length ∧ transport.Takes state script last := by
  constructor
  · intro h
    rcases transport.takes_or_refuses script state with ⟨other, taken⟩ | ⟨failure, other, refused⟩
    · have same := h.symm.trans taken.replay_eq
      simp only [Prod.mk.injEq, Except.ok.injEq] at same
      obtain ⟨rfl, rfl⟩ := same
      exact ⟨rfl, taken⟩
    · have same := h.symm.trans refused.replay_eq
      simp at same
  · rintro ⟨rfl, taken⟩
    exact taken.replay_eq

theorem replay_eq_error_iff :
    transport.replay script state = (.error failure, last) ↔ transport.Refuses state script failure last := by
  constructor
  · intro h
    rcases transport.takes_or_refuses script state with ⟨other, taken⟩ | ⟨failure, other, refused⟩
    · have same := h.symm.trans taken.replay_eq
      simp at same
    · have same := h.symm.trans refused.replay_eq
      simp only [Prod.mk.injEq, Except.error.injEq] at same
      obtain ⟨rfl, rfl⟩ := same
      exact refused
  · exact Refuses.replay_eq

/-! ### Calls -/

/-- The transport with a log of what is sent to it and how it answers. -/
def watched (transport : Transport σ) : Transport (σ × List (Operation × Except Refusal Unit)) where
  send state op :=
    let (answer, next) := transport.send state.1 op
    (answer, next, state.2 ++ [(op, answer)])

/-- What is sent in a delivery of a script, with the answers, by the outcome of the delivery. -/
def calls (script : List Operation) : Except DeliveryFailure Nat → List (Operation × Except Refusal Unit)
  | .ok _ => script.map fun op => (op, .ok ())
  | .error failure =>
    (script.take failure.index).map (fun op => (op, .ok ())) ++
      script[failure.index]?.toList.map fun op => (op, .error failure.source)

private theorem Takes.watched (taken : transport.Takes state xs last) (log : List (Operation × Except Refusal Unit)) :
    transport.watched.Takes (state, log) xs (last, log ++ xs.map fun op => (op, .ok ())) := by
  induction xs generalizing state log with
  | nil =>
    obtain rfl : state = last := taken
    simp [Takes]
  | cons op rest ih =>
    obtain ⟨next, sent, taken⟩ := taken
    refine ⟨(next, log ++ [(op, .ok ())]), by simp [Transport.watched, sent], ?_⟩
    have h := ih taken (log ++ [(op, .ok ())])
    rwa [List.append_assoc] at h

/-- A log shows the operations up to the first one that is refused, each once and in their order. -/
theorem replay_watched (transport : Transport σ) (script : List Operation) (state : σ)
    (log : List (Operation × Except Refusal Unit)) :
    transport.watched.replay script (state, log) =
      ((transport.replay script state).1, (transport.replay script state).2,
        log ++ calls script (transport.replay script state).1) := by
  rcases transport.takes_or_refuses script state with ⟨last, taken⟩ | ⟨failure, last, refused⟩
  · rw [taken.replay_eq]
    exact (taken.watched log).replay_eq
  · rw [refused.replay_eq]
    obtain ⟨before, op, behind, middle, rfl, taken, sent, index, action⟩ := refused
    refine Refuses.replay_eq ⟨before, op, behind, (middle, log ++ before.map fun op => (op, .ok ())), rfl,
      taken.watched log, ?_, index, action⟩
    simp [Transport.watched, sent, calls, index]

/-! ### Parts of a script -/

/-- A script is delivered part by part; behind a refusal in the first part the second one is not sent. -/
theorem replay_append (transport : Transport σ) (xs ys : List Operation) (state : σ) :
    transport.replay (xs ++ ys) state =
      match transport.replay xs state with
      | (.ok _, middle) => (laterBy xs.length (transport.replay ys middle).1, (transport.replay ys middle).2)
      | (.error failure, last) => (.error failure, last) := by
  rcases transport.takes_or_refuses xs state with ⟨middle, taken⟩ | ⟨failure, last, refused⟩
  · rw [taken.replay_eq]
    exact replay_append_of_takes taken ys
  · rw [refused.replay_eq]
    obtain ⟨before, op, behind, middle, rfl, taken, sent, index, action⟩ := refused
    exact Refuses.replay_eq ⟨before, op, behind ++ ys, middle, by simp, taken, sent, index, action⟩

/-! ### Restarts -/

section
variable {β : Type v} {built : σ → β} {build : β → Operation → β}

/-- An operation that is taken is built on what was built before; one that is refused builds nothing. -/
structure Builds (transport : Transport σ) (built : σ → β) (build : β → Operation → β) : Prop where
  taken : ∀ state op next, transport.send state op = (.ok (), next) → built next = build (built state) op
  refused : ∀ state op refusal next, transport.send state op = (.error refusal, next) → built next = built state

/-- A script is delivered in the end, if each time that an operation is refused the delivery starts again from this
operation.  Until then the transport may come into any state in which the same is built. -/
inductive Restarted (transport : Transport σ) (built : σ → β) : List Operation → σ → σ → Prop where
  | delivered {script : List Operation} {state last : σ} {n : Nat} :
      transport.replay script state = (.ok n, last) → Restarted transport built script state last
  | again {script : List Operation} {state stopped restarted last : σ} {failure : DeliveryFailure} :
      transport.replay script state = (.error failure, stopped) → built restarted = built stopped →
        Restarted transport built (script.drop failure.index) restarted last →
          Restarted transport built script state last

theorem Takes.built_eq (builds : transport.Builds built build) (taken : transport.Takes state xs last) :
    built last = xs.foldl build (built state) := by
  induction xs generalizing state with
  | nil =>
    obtain rfl : state = last := taken
    rfl
  | cons op rest ih =>
    obtain ⟨next, sent, taken⟩ := taken
    rw [ih taken, builds.taken state op next sent, List.foldl_cons]

/-- A script that is delivered with restarts is built as if nothing had been refused. -/
theorem Restarted.built_eq (builds : transport.Builds built build)
    (delivered : transport.Restarted built script state last) : built last = script.foldl build (built state) := by
  -- by induction on the restarts: what is built of the script so far is what stands before the refused operation
  induction delivered with
  | delivered h => exact (replay_eq_ok_iff.1 h).2.built_eq builds
  | again h same _ ih =>
    obtain ⟨before, op, behind, middle, rfl, taken, refused, index, -⟩ := replay_eq_error_iff.1 h
    have unbuilt := builds.refused middle op _ _ refused
    rw [ih, same, unbuilt, taken.built_eq builds, index, ← List.foldl_append, List.drop_left]

end

/-- The operations of a log that were taken. -/
def takenOf (log : List (Operation × Except Refusal Unit)) : List Operation :=
  log.filterMap fun call => call.2.toOption.map fun _ => call.1

/-- Of what is built with the operations that are taken, a log is an example. -/
theorem builds_watched (transport : Transport σ) :
    transport.watched.Builds (fun state => takenOf state.2) fun ops op => ops ++ [op] where
  taken state op next h := by
    have logged : next.2 = state.2 ++ [(op, (transport.send state.1 op).1)] := congrArg (·.2.2) h.symm
    have answer : (transport.send state.1 op).1 = .ok () := congrArg (·.1) h
    simp [logged, answer, takenOf, Except.toOption]
  refused state op refusal next h := by
    have logged : next.2 = state.2 ++ [(op, (transport.send state.1 op).1)] := congrArg (·.2.2) h.symm
    have answer : (transport.send state.1 op).1 = .error refusal := congrArg (·.1) h
    simp [logged, answer, takenOf, Except.toOption]

/-- A delivery sends the operations of a script in order, up to the first one that is refused.  It succeeds exactly if
all are taken, and else tells the place, the action and the reason of the refusal.  Parts of a script can be delivered
one after another, and so a script is delivered and built once, in its order, if a delivery that has failed starts again
from the operation that was refused. -/
theorem replay_in_order (transport : Transport σ) :
    (∀ script state n last, transport.replay script state = (.ok n, last) ↔
      n = script.length ∧ transport.Takes state script last) ∧
    (∀ script state failure last, transport.replay script state = (.error failure, last) ↔
      transport.Refuses state script failure last) ∧
    (∀ script state log, transport.watched.replay script (state, log) =
      ((transport.replay script state).1, (transport.replay script state).2,
        log ++ calls script (transport.replay script state).1)) ∧
    (∀ xs ys state, transport.replay (xs ++ ys) state =
      match transport.replay xs state with
      | (.ok _, middle) => (laterBy xs.length (transport.replay ys middle).1, (transport.replay ys middle).2)
      | (.error failure, last) => (.error failure, last)) ∧
    (∀ {β : Type v} (built : σ → β) (build : β → Operation → β), transport.Builds built build →
      ∀ script state last, transport.Restarted built script state last →
        built last = script.foldl build (built state)) ∧
    ∀ script state last, transport.watched.Restarted (fun state => takenOf state.2) script state last →
      takenOf last.2 = takenOf state.2 ++ script := by
  refine ⟨fun _ _ _ _ => replay_eq_ok_iff, fun _ _ _ _ => replay_eq_error_iff, transport.replay_watched,
    transport.replay_append, fun _ _ builds _ _ _ => Restarted.built_eq builds, ?_⟩
  intro script state last delivered
  have h := delivered.built_eq transport.builds_watched
  rwa [List.foldl_append_eq_append, ← List.flatMap_def, List.flatMap_singleton'] at h

/-- A transport that keeps what it takes, and is busy the third time that something is sent. -/
def hesitant : Transport (Nat × List Operation) where
  send state op :=
    if state.1 = 2 then (.error ⟨"busy"⟩, state.1 + 1, state.2) else (.ok (), state.1 + 1, state.2 ++ [op])

theorem builds_hesitant : hesitant.Builds (fun state => state.2) fun ops op => ops ++ [op] where
  taken state op next h := by
    by_cases busy : state.1 = 2
    · simp [hesitant, busy] at h
    · simp only [hesitant, busy, ↓reduceIte, Prod.mk.injEq, true_and] at h
      rw [← h]
  refused state op refusal next h := by
    by_cases busy : state.1 = 2
    · simp only [hesitant, busy, ↓reduceIte, Prod.mk.injEq] at h
      rw [← h.2]
    · simp [hesitant, busy] at h

/-- A script that passes a trigger on. -/
def pulse : List Operation :=
  [.beginGraph "Patch" "Pulse", .declareGraphInput "Play" "Trigger" none, .declareGraphOutput "Done" "Trigger",
    .connect ⟨.boundary, "Play", .boundary, "Done"⟩, .finalize "Pulse" "/Game/"]

/-- The third operation is refused, and the delivery that starts again from it ends well. -/
theorem replay_in_order_hesitant :
    hesitant.replay pulse (0, []) = (.error ⟨2, .declareGraphOutput, ⟨"busy"⟩⟩, 3, pulse.take 2) ∧
    hesitant.Refuses (0, []) pulse ⟨2, .declareGraphOutput, ⟨"busy"⟩⟩ (3, pulse.take 2) ∧
    hesitant.replay (pulse.drop 2) (3, pulse.take 2) = (.ok 3, 6, pulse) ∧
    hesitant.Restarted (fun state => state.2) pulse (0, []) (6, pulse) ∧
    pulse = pulse.foldl (fun ops op => ops ++ [op]) [] := by
  have stopped : hesitant.replay pulse (0, []) = (.error ⟨2, .declareGraphOutput, ⟨"busy"⟩⟩, 3, pulse.take 2) := rfl
  have resumed : hesitant.replay (pulse.drop 2) (3, pulse.take 2) = (.ok 3, 6, pulse) := rfl
  have delivered : hesitant.Restarted (fun state => state.2) pulse (0, []) (6, pulse) :=
    .again stopped rfl (.delivered resumed)
  obtain ⟨-, failures, -, -, built, -⟩ := replay_in_order hesitant
  exact ⟨stopped, (failures _ _ _ _).1 stopped, resumed, delivered, built _ _ builds_hesitant _ _ _ delivered⟩

end Transport

end AudioGraph
