import Mailroom.Proofs.Traffic

/-!
# One main loop or step at a time

Only the mailbox thread runs the main loop or a step, and never one inside another (`Possible.serving`). So only it calls the
handler. A task that is closed stays closed.
-/

namespace Mailroom

variable {σ ν : Type}

/-- One, if the stage belongs to the main loop or to a step under way. -/
def Stage.servings : Stage σ ν → Nat
  | take _ _ purpose => purpose.counts
  | serve _ _ => 1
  | consult => 1
  | consultStatus => 1
  | callDefault => 1
  | collect => 1
  | alarm _ => 1
  | shut next => next.servings
  | wakeAll next => next.servings
  | drop _ next => next.servings
  | markClosed next => next.servings
  | _ => 0

/-- How many main loops and steps are under way in the thread. -/
def Thread.servings (th : Thread σ ν) : Nat := th.stack.countP Frame.isServing + th.stage.servings

/-- A call of the handler, with the failure it was called with. -/
def Occurrence.alarm? : Occurrence σ ν → Option Failure
  | alarmed e => some e
  | _ => none

namespace Task

/-- The calls of the handler. -/
def alarms (w : Task σ ν) : List Failure := history Occurrence.alarm? w.journal

/-- An entry that tells of something else is no call of the handler. -/
theorem alarms_log {w : Task σ ν} {e : Occurrence σ ν} (h : e.alarm? = none) : (w.log e).alarms = w.alarms :=
  history_cons_of_none h _

/-- A call of the handler comes last among those that were. -/
theorem alarms_log_alarmed (w : Task σ ν) (e : Failure) : (w.log (.alarmed e)).alarms = w.alarms ++ [e] :=
  history_cons_of_some (f := Occurrence.alarm?) rfl _

theorem alarms_forgo (w : Task σ ν) (m : Letter σ ν) : (w.forgo m).alarms = w.alarms := by
  rw [alarms, forgo_journal, alarms]

/-- Mail that is dropped calls no handler. -/
theorem alarms_drop (w : Task σ ν) (m : Letter σ ν) : (w.drop m).alarms = w.alarms := history_drop (fun _ => rfl) w m

theorem alarms_dropDisplaced (w : Task σ ν) (m? : Option (Letter σ ν)) : (w.dropDisplaced m?).alarms = w.alarms :=
  history_dropDisplaced (fun _ => rfl) w m?

end Task

/-- What a step of thread `me` does to the main loop or step under way, to the life of the task and to the calls of the handler. -/
structure Served (me : ThreadId) (w : Task σ ν) (th : Thread σ ν) (n : Next σ ν) : Prop where
  /-- A main loop or a step begins only in the mailbox thread, and only if none is under way there. -/
  servings : n.2.servings ≤ th.servings ∨ (th.servings = 0 ∧ n.2.servings = 1 ∧ me = w.mailbox.owner)
  closed : w.processor.status = .closed → n.1.processor.status = .closed
  alarms : n.1.alarms = w.alarms ∨ ∃ e, th.stage = .alarm e ∧ n.1.alarms = w.alarms ++ [e]

/-- A step that has nothing to do with any of that. -/
theorem Served.plain {me : ThreadId} {w : Task σ ν} {th : Thread σ ν} {n : Next σ ν} (servings : n.2.servings ≤ th.servings)
    (status : n.1.processor.status = w.processor.status) (alarms : n.1.alarms = w.alarms) : Served me w th n :=
  ⟨.inl servings, fun h => status.trans h, .inl alarms⟩

namespace Thread

variable {w : Task σ ν} {me : ThreadId} {pick : Nat} {stack : List (Frame σ ν)}

/-- A frame that serves nothing does not count. -/
theorem servings_cons {f : Frame σ ν} (hf : f.isServing = false) (stage : Stage σ ν) :
    servings ⟨stage, f :: stack⟩ = servings ⟨stage, stack⟩ := by
  simp [servings, hf]

/-- A frame of a main loop or a step counts as one. -/
theorem servings_cons_of_serving {f : Frame σ ν} (hf : f.isServing = true) (stage : Stage σ ν) :
    servings ⟨stage, f :: stack⟩ = servings ⟨stage, stack⟩ + 1 := by
  simp only [servings, List.countP_cons, hf, if_true]
  omega

/-- Frames that serve nothing do not count. -/
theorem servings_of_free (free : stack.any Frame.isServing = false) (stage : Stage σ ν) : servings ⟨stage, stack⟩ = stage.servings := by
  have hzero : stack.countP Frame.isServing = 0 := by
    rw [List.countP_eq_zero]
    simpa using free
  rw [servings, hzero, Nat.zero_add]

/-- A stage that a frame was taken off for has nothing under way that the frame had not. -/
theorem servings_pop {f : Frame σ ν} {stage stage' : Stage σ ν} (h : stage'.servings ≤ if f.isServing then 1 else 0) :
    servings ⟨stage', stack⟩ ≤ servings ⟨stage, f :: stack⟩ := by
  simp only [servings, List.countP_cons]
  omega

/-- Of the calls only those of the main loop and of a step begin one. -/
theorem Called.toServed {q : Request} {n : Task σ ν × Stage σ ν} (h : Called w me stack q n) (guarded : Bool) (k : Reply ν → Body σ ν) :
    Served me w ⟨.run (.call guarded q k), stack⟩ (n.1, ⟨n.2, .caller guarded q k :: stack⟩) := by
  have le : ∀ {stage : Stage σ ν}, stage.servings = 0 →
      servings ⟨stage, .caller guarded q k :: stack⟩ ≤ servings ⟨.run (.call guarded q k), stack⟩ := by
    intro stage hstage
    rw [servings_cons rfl, servings, servings, hstage]
    exact Nat.le_refl _
  have enter : ∀ {stage : Stage σ ν}, stage.servings = 1 → me = w.mailbox.owner → stack.any Frame.isServing = false →
      Served me w ⟨.run (.call guarded q k), stack⟩ (w, ⟨stage, .caller guarded q k :: stack⟩) := by
    intro stage hstage howner hfree
    refine ⟨.inr ⟨servings_of_free hfree _, ?_, howner⟩, id, .inl rfl⟩
    rw [servings_cons rfl, servings_of_free hfree, hstage]
  cases h with
  | looping owner free | stepping owner free => exact enter rfl owner free
  | discarding t m held => exact .plain (le rfl) (by simp) (Task.alarms_drop _ m)
  | displaying | rousing => exact .plain (le rfl) rfl ((Task.alarms_log rfl).trans (Task.alarms_log rfl))
  | puttingBack | telling | polling | cancelling | suspending | resuming => exact .plain (le rfl) rfl (Task.alarms_log rfl)
  | _ => exact .plain (le rfl) rfl rfl

/-- A body ends, whatever made it end. -/
theorem Ended.toServed {e : Ending ν} {n : Next σ ν} (h : Ended w e stack n) (stage : Stage σ ν) : Served me w ⟨stage, stack⟩ n := by
  cases h with
  | returned | escaped => exact .plain (servings_pop (Nat.zero_le _)) rfl (Task.alarms_log rfl)
  | failed | caught => exact .plain (servings_pop (Nat.zero_le _)) rfl ((Task.alarms_log rfl).trans (Task.alarms_log rfl))
  | captured h t d e =>
    cases e with
    | returned => exact .plain (servings_pop (Nat.zero_le _)) rfl (Task.alarms_log rfl)
    | failed | panicked => exact .plain (servings_pop (Nat.zero_le _)) rfl ((Task.alarms_log rfl).trans (Task.alarms_log rfl))
  | default e =>
    cases e with
    | returned | failed | panicked => exact .plain (servings_pop (Nat.le_refl 1)) rfl rfl
  | handler why e =>
    cases e with
    | returned | failed | panicked => exact .plain (servings_pop (Nat.zero_le _)) rfl rfl

/-- Every turn keeps to one main loop or step at a time, and calls the handler only where that is due. -/
theorem Turn.toServed {stage : Stage σ ν} {n : Next σ ν} (h : Turn w me pick stack stage n) : Served me w ⟨stage, stack⟩ n := by
  cases h with
  | ended h | broken h => exact h.toServed _
  | called guarded q k h => exact h.toServed guarded k
  | posted | submitted | launched | captured =>
    exact .plain (Nat.le_of_eq (servings_cons rfl _)) rfl (Task.alarms_log rfl)
  | replied | sent | yielded | passed | guarded | unwound => exact .plain (servings_pop (Nat.zero_le _)) rfl rfl
  | aborted | looped => exact .plain (servings_pop (Nat.le_refl 1)) rfl rfl
  | stepped => exact .plain (servings_pop (Nat.zero_le 1)) rfl rfl
  | accepted => exact .plain (Nat.le_refl _) (by simp) ((Task.alarms_log rfl).trans (Task.alarms_dropDisplaced _ _))
  | refused m => exact .plain (Nat.le_refl _) (by simp) ((Task.alarms_log rfl).trans (Task.alarms_drop w m))
  | taken m choice patient purpose =>
    cases purpose with
    | yield => exact .plain (Nat.le_of_eq (servings_cons rfl _)) rfl (Task.alarms_log rfl)
    | hold | step | loop => exact .plain (Nat.le_refl _) rfl (Task.alarms_log rfl)
  | shutOut choice patient purpose | missed choice purpose =>
    cases purpose with
    | hold | yield | loop => exact .plain (Nat.le_refl _) rfl rfl
    | step => exact .plain (Nat.le_succ _) rfl rfl
  | drained choice purpose =>
    cases choice with
    | oldest =>
      cases purpose with
      | hold | yield | loop => exact .plain (Nat.le_refl _) rfl rfl
      | step => exact .plain (Nat.le_succ _) rfl rfl
    | eligible p => exact .plain (Nat.add_le_add_left (Nat.zero_le _) _) rfl rfl
  | skipped m => exact .plain (Nat.le_refl _) (by simp) ((Task.alarms_log rfl).trans (w.alarms_forgo m))
  | served => exact .plain (Nat.le_of_eq (servings_cons_of_serving rfl _)) rfl rfl
  | surrendered | shut | filed | awaited => exact .plain (Nat.le_refl _) rfl (Task.alarms_log rfl)
  | dropped m => exact .plain (Nat.le_refl _) (by simp) (w.alarms_drop m)
  | calmed stack was => exact ⟨.inl (Nat.le_refl _), fun hc => absurd (was.symm.trans hc) (by simp), .inl rfl⟩
  | marked => exact ⟨.inl (Nat.le_refl _), fun _ => rfl, .inl rfl⟩
  | defaulted => exact .plain (Nat.le_of_eq (servings_cons_of_serving rfl _)) rfl (Task.alarms_log rfl)
  | finished => exact .plain (Nat.le_succ _) rfl rfl
  | alarmed e => exact ⟨.inl (Nat.le_of_eq (servings_cons_of_serving rfl _)), id, .inr ⟨e, rfl, w.alarms_log_alarmed e⟩⟩
  | _ => exact .plain (Nat.le_refl _) rfl rfl

end Thread

namespace World

variable {a b : World σ ν}

/-- A step of a world begins no second main loop or step, takes back no closing, and calls the handler where it is due. -/
theorem Stepped.served {t : ThreadId} {pick : Nat} {th : Thread σ ν} {n : Next σ ν} (h : Stepped a t pick th n b) :
    Served t a.task th n :=
  h.turn.toServed

/-- At most one main loop or step is under way, in the mailbox thread. -/
theorem Possible.serving (h : Possible a) {i : ThreadId} {th : Thread σ ν} (hi : a.threads[i]? = some th) :
    th.servings ≤ 1 ∧ (0 < th.servings → i = a.task.mailbox.owner) := by
  refine h.threads (P := fun owner i th => th.servings ≤ 1 ∧ (0 < th.servings → i = owner)) ?_ ?_ i th hi
  · intro owner i program
    exact ⟨Nat.zero_le 1, fun hpos => absurd hpos (Nat.lt_irrefl 0)⟩
  · intro a t pick th n b _ hs ⟨hle, howner⟩
    rcases hs.served.servings with hn | ⟨-, hone, hme⟩
    · exact ⟨Nat.le_trans hn hle, fun hpos => howner (Nat.lt_of_lt_of_le hpos hn)⟩
    · exact ⟨Nat.le_of_eq hone, fun _ => hme⟩

/-- A task that is closed stays closed. -/
theorem Reach.processor_closed (h : Reach a b) (hc : a.task.processor.status = .closed) : b.task.processor.status = .closed := by
  refine h.invariant (P := fun w => w.task.processor.status = .closed) hc ?_ fun _ ih => ih
  intro x t pick th n y _ ih hs
  rw [hs.task]
  exact hs.served.closed ih

end World

end Mailroom
