import Mathlib.Tactic.Simps.Basic
import Mailroom.Proofs.Alone

/-!
# What a step does not look at

Two things make no difference to what a thread does next: whether the journal says that mail was taken for the main loop or for a step
(`Task.blurred`, `stepStage_blurred`), and, as long as something runs above it, which frame stands at the bottom, if it is the frame of a
mail or of the same kind of call (`Below`, `stepStage_below`). So a thread that is left alone comes back with the same reply from tasks that
are alike, and leaves tasks that are alike (`Comes.alike`).
-/

namespace Mailroom

variable {σ ν : Type}

/-! ## The journal -/

/-- The entry, with no difference made between mail that is taken for the main loop and mail that is taken for a step. -/
def Occurrence.blurred : Occurrence σ ν → Occurrence σ ν
  | taken m choice .loop => taken m choice .step
  | e => e

/-- To blur twice is to blur once. -/
@[simp] theorem Occurrence.blurred_blurred (e : Occurrence σ ν) : e.blurred.blurred = e.blurred := by
  cases e with
  | taken m choice purpose => cases purpose <;> rfl
  | _ => rfl

@[simp] theorem Occurrence.blurred_comp_blurred :
    (Occurrence.blurred ∘ Occurrence.blurred : Occurrence σ ν → Occurrence σ ν) = Occurrence.blurred :=
  funext Occurrence.blurred_blurred

namespace Task

/-- The task, with no difference made in its journal between mail that was taken for the main loop and mail that was taken for a step. -/
@[simps]
def blurred (w : Task σ ν) : Task σ ν := { w with journal := w.journal.map Occurrence.blurred }

variable (w : Task σ ν)

/-- Whatever is changed in a task, blurring changes its journal only. -/
@[simp] theorem blurred_mk (mailbox : Mailbox (Job σ ν)) (processor : Processor σ ν) (slots : List (Slot ν)) (hand : List (Letter σ ν))
    (client : σ) (nextTicket : Ticket) (nextSuspension : SuspensionId) (journal : List (Occurrence σ ν)) :
    blurred ⟨mailbox, processor, slots, hand, client, nextTicket, nextSuspension, journal⟩ =
      ⟨mailbox, processor, slots, hand, client, nextTicket, nextSuspension, journal.map Occurrence.blurred⟩ := rfl

/-- A task that is blurred looks the same when it is blurred again. -/
@[simp] theorem blurred_blurred : w.blurred.blurred = w.blurred := by simp [blurred]

/-- An entry may be blurred before it is noted. -/
@[simp] theorem blurred_log (e : Occurrence σ ν) : (w.log e).blurred = w.blurred.log e.blurred := rfl

/-- What is done to slots has nothing to do with the journal, and so does not depend on the blur. The same goes for what is done to the
hand, and to the numbers that are given out. -/
@[simp] theorem blurred_updateSlot (h : HandleId) (f : Slot ν → Slot ν) : (w.updateSlot h f).blurred = w.blurred.updateSlot h f := rfl
@[simp] theorem blurred_resolve (h : HandleId) (o : Outcome ν) : (w.resolve h o).blurred = w.blurred.resolve h o := rfl
@[simp] theorem blurred_hold (ms : List (Letter σ ν)) : (w.hold ms).blurred = w.blurred.hold ms := rfl
@[simp] theorem blurred_letGo (t : Ticket) : (w.letGo t).blurred = w.blurred.letGo t := rfl
@[simp] theorem blurred_stamp : w.stamp.blurred = w.blurred.stamp := rfl
@[simp] theorem blurred_openSlot : w.openSlot.blurred = w.blurred.openSlot := rfl
@[simp] theorem blurred_propose (m : Letter σ ν) (sender : ThreadId) : (w.propose m sender).blurred = w.blurred.propose m sender := rfl
@[simp] theorem blurred_render (t : Ticket) (d : Description) : (w.render t d).blurred = w.blurred.render t d := rfl

/-- A mail that will not run tells its handle so all the same. -/
@[simp] theorem blurred_forgo (m : Letter σ ν) : (w.forgo m).blurred = w.blurred.forgo m := by unfold forgo; split <;> rfl

/-- A mail that is displaced is dropped all the same. -/
@[simp] theorem blurred_dropDisplaced (m? : Option (Letter σ ν)) : (w.dropDisplaced m?).blurred = w.blurred.dropDisplaced m? := by
  cases m? <;> simp [Occurrence.blurred]

@[simp] theorem log_nextTicket (e : Occurrence σ ν) : (w.log e).nextTicket = w.nextTicket := rfl

/-- The same mail is in hand. -/
@[simp] theorem held?_blurred (t : Ticket) : w.blurred.held? t = w.held? t := rfl

/-- A new mail gets the same ticket. -/
@[simp] theorem letter_blurred (envelope : Envelope) (work : Work σ ν) : w.blurred.letter envelope work = w.letter envelope work := rfl

/-- Nobody can read in the journal what mail was taken for. -/
@[simp] theorem formattings_blurred : w.blurred.formattings = w.formattings := by
  simp only [formattings, blurred_journal, List.flatMap_map]
  congr 1
  funext e
  cases e with
  | taken m choice purpose => cases purpose <;> rfl
  | _ => rfl

end Task

namespace Thread

/-- A task and what goes with it, the task blurred. -/
def blur {α : Type} (n : Task σ ν × α) : Task σ ν × α := (n.1.blurred, n.2)

section

variable (w : Task σ ν) (me : ThreadId) (pick : Nat) (stack : List (Frame σ ν))

/-- A request does the same to a task, whatever the journal says that mail was taken for. -/
theorem call_blurred (q : Request) : blur (call w.blurred me stack q) = blur (call w me stack q) := by
  cases q with
  | run | discard | putBack | display | look =>
    simp only [call, withHeld, Task.held?_blurred]
    split <;> simp [blur, Occurrence.blurred]
  | tryResult h =>
    simp only [call, withSlot, callTry, Task.blurred_slots]
    split
    · split <;> simp [blur, Occurrence.blurred]
    · simp [blur]
  | poll h =>
    simp only [call, withSlot, callPoll, Task.blurred_slots]
    split
    · split <;> simp [blur, Occurrence.blurred]
    · simp [blur]
  | wait | woken | cancel | isCancelled =>
    simp only [call, withSlot, Task.blurred_slots]
    split <;> simp [blur, Occurrence.blurred]
  | suspend | complete =>
    simp only [call, fromDefault]
    split <;> simp [blur, callSuspend, Occurrence.blurred]
  | resume s =>
    by_cases suspended : w.processor.suspended = true
    · by_cases owner : me = w.mailbox.owner
      · simp [call, callResume, suspended, owner, blur, Occurrence.blurred]
      · simp [call, callResume, suspended, owner, blur, Task.letter, Occurrence.blurred]
    · simp [call, callResume, suspended, blur, Occurrence.blurred]
  | raise | clear => simp [call, blur]
  | formatted => simp [call, blur]
  | _ => exact Prod.ext w.blurred_blurred rfl

/-- So does the end of a body. -/
theorem stepEnd_blurred (e : Ending ν) : (stepEnd w.blurred e stack).map blur = (stepEnd w e stack).map blur := by
  unfold stepEnd
  split
  · cases e with
    | panicked p =>
      simp only [endAction]
      split <;> simp [blur, Occurrence.blurred]
    | returned | failed => simp [blur, endAction, Occurrence.blurred]
  · cases e <;> simp [blur, endCapture, Occurrence.blurred]
  · simp [blur]
  · simp [blur]
  · rfl

/-- So does what a body does. -/
theorem stepBody_blurred (b : Body σ ν) : (stepBody w.blurred me stack b).map blur = (stepBody w me stack b).map blur := by
  cases b with
  | finish e => exact stepEnd_blurred w stack e
  | call guarded q k =>
    obtain ⟨htask, hstage⟩ := Prod.ext_iff.mp (call_blurred w me stack q)
    simp only [blur] at htask hstage
    simp [stepBody, blur, htask, hstage]
  | _ => simp [stepBody, blur]

/-- A step does the same to a task, whatever the journal says that mail was taken for. -/
theorem stepStage_blurred (stage : Stage σ ν) :
    (stepStage w.blurred me pick stack stage).map blur = (stepStage w me pick stack stage).map blur := by
  cases stage with
  | run b => exact stepBody_blurred w me stack b
  | answer r =>
    simp only [stepStage, stepAnswer]
    split
    · simp [blur]
    · simp [blur]
    · split <;> simp [blur]
    · split <;> simp [blur]
    · rfl
  | unwind p =>
    simp only [stepStage, stepUnwind]
    split
    · simp [blur]
    · simp [blur]
    · simp [blur]
    · simp [blur]
    · simp [blur]
    · exact stepEnd_blurred w stack (.panicked p)
  | offer m slept receipt =>
    simp only [stepStage, stepOffer, Task.blurred_mailbox, stay]
    split <;> simp [blur, Occurrence.blurred]
  | take choice patient purpose =>
    simp only [stepStage, stepTake, Task.blurred_mailbox]
    split
    · cases purpose <;> simp [useTaken, blur]
    · simp [blur]
    · split
      · simp [blur]
      · by_cases quiesced : w.mailbox.status = .quiesced <;> simp [blur, quiesced]
  | launch m caught =>
    simp only [stepStage, stepLaunch, Task.blurred_slots]
    split
    · simp [blur]
    · simp [blur, Occurrence.blurred]
    · rename_i h b work
      by_cases cancelled : w.slots[h]?.any (·.cancelled) = true <;> simp [blur, cancelled, Occurrence.blurred]
  | serve m whole => simp [stepStage, stepServe, blur]
  | quiesceMailbox =>
    simp only [stepStage, stay, stepQuiesceMailbox, Task.blurred_mailbox]
    split <;> simp [blur]
  | surrender =>
    simp only [stepStage, stay, stepSurrender, Task.blurred_mailbox]
    split <;> simp [blur, Occurrence.blurred]
  | shut next =>
    simp only [stepStage, stay, stepShut, Task.blurred_mailbox]
    split <;> simp [blur, Occurrence.blurred]
  | drop ms next => cases ms <;> simp [stepStage, stepDrop, stay, blur, Occurrence.blurred]
  | wakeAll | markClosed => simp [stepStage, blur, stepWakeAll, stepMarkClosed]
  | quiesceTask =>
    simp only [stepStage, stay, stepQuiesceTask, Task.blurred_processor]
    by_cases running : w.processor.status = .running <;> simp [blur, running]
  | lockReport e => cases lock : w.processor.reportLock <;> simp [stepStage, stepLockReport, blur, stay, lock]
  | fileReport e =>
    by_cases closed : w.processor.status = .closed
    · simp [stepStage, stepFileReport, stay, blur, closed]
    · cases report : w.processor.report <;> simp [stepStage, stepFileReport, stay, blur, closed, report, Occurrence.blurred]
  | consult => simp [stepStage, blur, stepConsult]
  | consultStatus => by_cases running : w.processor.status = .running <;> simp [stepStage, blur, stepConsultStatus, running]
  | callDefault =>
    simp only [stepStage, stepCallDefault, Task.blurred_processor]
    split <;> simp [blur, Occurrence.blurred]
  | collect =>
    cases lock : w.processor.reportLock with
    | some owner => simp [stepStage, stepCollect, lock]
    | none => cases report : w.processor.report <;> simp [stepStage, stepCollect, stay, blur, lock, report]
  | alarm e => simp [stepStage, stepAlarm, blur, Occurrence.blurred]
  | await h =>
    simp only [stepStage, stepAwait, Task.blurred_slots]
    split
    · rfl
    · split <;> simp [blur, stay, Occurrence.blurred]

end

/-! ## The frames -/

/-- Two stacks that make the same difference to a step of something that runs above them: at the top of both is the frame of a mail that
runs for the main loop or for a step, or both are below a call from the same frames. -/
inductive Below : List (Frame σ ν) → List (Frame σ ν) → Prop where
  | mail (whole whole' : Bool) (base base' : List (Frame σ ν)) : Below (.serve whole :: base) (.serve whole' :: base')
  | call (guarded guarded' : Bool) (q q' : Request) (k k' : Reply ν → Body σ ν) (stack : List (Frame σ ν)) :
    Below (.caller guarded q k :: stack) (.caller guarded' q' k' :: stack)

/-- The mail of a main loop or of a step is found above both stacks or above none. -/
theorem Below.any {T T' : List (Frame σ ν)} (h : Below T T') : T.any Frame.isServing = T'.any Frame.isServing := by
  cases h <;> rfl

/-- Whether the innermost frame is that of the default action does not depend on which of the two stacks is below. -/
theorem Below.head {T T' : List (Frame σ ν)} (h : Below T T') (above : List (Frame σ ν)) :
    (above ++ T).head?.any Frame.isDefault = (above ++ T').head?.any Frame.isDefault := by
  cases above with
  | nil => cases h <;> rfl
  | cons f above => rfl

/-- A request looks at the frames below it only for whether the main loop or a step is under way, and for whether the default action
makes it. -/
theorem call_stack (w : Task σ ν) (me : ThreadId) {stack stack' : List (Frame σ ν)}
    (serving : stack.any Frame.isServing = stack'.any Frame.isServing)
    (default : stack.head?.any Frame.isDefault = stack'.head?.any Frame.isDefault) (q : Request) :
    call w me stack q = call w me stack' q := by
  cases q with
  | close | loop | step => simp only [call, exclusive, serving]
  | suspend | complete => simp only [call, fromDefault, default]
  | _ => rfl

/-- The end of a body takes off the innermost frame and does not look further down. -/
theorem stepEnd_below {w : Task σ ν} {e : Ending ν} {f : Frame σ ν} {above T : List (Frame σ ν)} {n : Next σ ν}
    (h : stepEnd w e (f :: (above ++ T)) = some n) (T' : List (Frame σ ν)) :
    n.2.stack = above ++ T ∧ stepEnd w e (f :: (above ++ T')) = some (n.1, ⟨n.2.stage, above ++ T'⟩) := by
  cases f with
  | action | capture | default | handler => cases h; exact ⟨rfl, rfl⟩
  | _ => cases h

/-- A take puts at most a frame on top of those that are there, whichever these are. -/
theorem stepTake_stack (w : Task σ ν) (me : ThreadId) (pick : Nat) (choice : Choice) (patient : Bool) (purpose : Purpose) :
    ∃ task stage pre, ∀ stack, stepTake w me pick stack choice patient purpose = (task, ⟨stage, pre ++ stack⟩) := by
  cases htake : w.mailbox.take choice pick with
  | mail m after =>
    cases purpose with
    | yield => exact ⟨_, _, [_], fun stack => by simp only [stepTake, htake]; rfl⟩
    | hold | step | loop => exact ⟨_, _, [], fun stack => by simp only [stepTake, htake]; rfl⟩
  | closed => exact ⟨_, _, [], fun stack => by simp only [stepTake, htake]; rfl⟩
  | nothing =>
    cases patient with
    | false => exact ⟨_, _, [], fun stack => by simp only [stepTake, htake]; rfl⟩
    | true =>
      by_cases quiesced : w.mailbox.status = .quiesced
      · exact ⟨_, _, [], fun stack => by simp only [stepTake, htake, quiesced]; rfl⟩
      · exact ⟨_, _, [], fun stack => by simp only [stepTake, htake, quiesced]; rfl⟩

/-- So does the beginning of an action. -/
theorem stepLaunch_stack (w : Task σ ν) (m : Letter σ ν) (caught : Bool) :
    ∃ task stage pre, ∀ stack, stepLaunch w stack m caught = (task, ⟨stage, pre ++ stack⟩) := by
  cases hwork : m.action.work with
  | nothing => exact ⟨_, _, [], fun stack => by simp only [stepLaunch, hwork]; rfl⟩
  | run b => exact ⟨_, _, [_], fun stack => by simp only [stepLaunch, hwork]; rfl⟩
  | capture h b =>
    by_cases cancelled : w.slots[h]?.any (·.cancelled) = true
    · exact ⟨_, _, [], fun stack => by simp only [stepLaunch, hwork, cancelled]; rfl⟩
    · exact ⟨_, _, [_], fun stack => by simp only [stepLaunch, hwork, cancelled]; rfl⟩

/-- So does a call of the default action. -/
theorem stepCallDefault_stack (w : Task σ ν) : ∃ task stage pre, ∀ stack, stepCallDefault w stack = (task, ⟨stage, pre ++ stack⟩) := by
  cases hwork : w.processor.defaultAction with
  | none => exact ⟨_, _, [], fun stack => by simp only [stepCallDefault, hwork]; rfl⟩
  | some b => exact ⟨_, _, [_], fun stack => by simp only [stepCallDefault, hwork]; rfl⟩

/-- As long as something runs above it, which of the two stacks is at the bottom makes no difference to a step. -/
theorem stepStage_below {w : Task σ ν} {me : ThreadId} {pick : Nat} {T T' above : List (Frame σ ν)} {stage : Stage σ ν} {n : Next σ ν}
    (below : Below T T') (inner : above = [] → ¬IsReturning stage) (h : stepStage w me pick (above ++ T) stage = some n) :
    ∃ above', n.2.stack = above' ++ T ∧ stepStage w me pick (above ++ T') stage = some (n.1, ⟨n.2.stage, above' ++ T'⟩) := by
  have onto : ∀ {step : List (Frame σ ν) → Next σ ν},
      (∃ task stage' pre, ∀ stack, step stack = (task, ⟨stage', pre ++ stack⟩)) →
      (∀ stack, stepStage w me pick stack stage = some (step stack)) → stepStage w me pick (above ++ T) stage = some n →
      ∃ above', n.2.stack = above' ++ T ∧ stepStage w me pick (above ++ T') stage = some (n.1, ⟨n.2.stage, above' ++ T'⟩) := by
    rintro step ⟨task, stage', pre, hstep⟩ hstage h
    rw [hstage, hstep] at h ⊢
    cases h
    exact ⟨pre ++ above, (List.append_assoc ..).symm, by rw [List.append_assoc]⟩
  cases stage with
  | run b =>
    cases b with
    | finish e =>
      rcases above with _ | ⟨f, above⟩
      · exact absurd trivial (inner rfl)
      · exact ⟨above, stepEnd_below h T'⟩
    | call guarded q k =>
      have hcall : call w me (above ++ T') q = call w me (above ++ T) q := by
        refine call_stack w me ?_ (below.head above).symm q
        rw [List.any_append, List.any_append, below.any]
      cases h
      refine ⟨.caller guarded q k :: above, rfl, ?_⟩
      simp only [stepStage, stepBody, hcall]
      rfl
    | post | submit => cases h; exact ⟨_ :: above, rfl, rfl⟩
    | _ => cases h; exact ⟨above, rfl, rfl⟩
  | answer r =>
    rcases above with _ | ⟨f, above⟩
    · exact absurd trivial (inner rfl)
    · cases f with
      | caller | sender => cases h; exact ⟨above, rfl, rfl⟩
      | yield patient => cases r <;> cases h <;> exact ⟨above, rfl, rfl⟩
      | serve whole => cases r <;> cases h <;> exact ⟨above, rfl, rfl⟩
      | _ => cases h
  | unwind p =>
    rcases above with _ | ⟨f, above⟩
    · exact absurd trivial (inner rfl)
    · cases f with
      | caller guarded => cases guarded <;> cases h <;> exact ⟨above, rfl, rfl⟩
      | _ => cases h; exact ⟨above, rfl, rfl⟩
  | take choice patient purpose => exact onto (stepTake_stack w me pick choice patient purpose) (fun _ => rfl) h
  | launch m caught => exact onto (stepLaunch_stack w m caught) (fun _ => rfl) h
  | callDefault => exact onto (stepCallDefault_stack w) (fun _ => rfl) h
  | serve => cases h; exact ⟨_ :: above, rfl, rfl⟩
  | alarm => cases h; exact ⟨_ :: above, rfl, rfl⟩
  | lockReport | collect | await =>
    obtain ⟨x, hx, rfl⟩ := Option.map_eq_some_iff.mp h
    refine ⟨above, rfl, ?_⟩
    simp only [stepStage, hx]
    rfl
  | _ => cases h; exact ⟨above, rfl, rfl⟩

/-! ## A whole run -/

/-- A step from tasks that are alike leaves tasks that are alike, whichever of two stacks that make the same difference is at the
bottom. -/
theorem stepStage_alike {w v : Task σ ν} {me : ThreadId} {pick : Nat} {T T' above : List (Frame σ ν)} {stage : Stage σ ν}
    {n : Next σ ν} (alike : w.blurred = v.blurred) (below : Below T T') (inner : above = [] → ¬IsReturning stage)
    (h : stepStage w me pick (above ++ T) stage = some n) :
    ∃ above' v', n.2.stack = above' ++ T ∧ stepStage v me pick (above ++ T') stage = some (v', ⟨n.2.stage, above' ++ T'⟩) ∧
      n.1.blurred = v'.blurred := by
  obtain ⟨above', hstack, hbelow⟩ := stepStage_below below inner h
  have hblur : (stepStage v me pick (above ++ T') stage).map blur = some (n.1.blurred, ⟨n.2.stage, above' ++ T'⟩) := by
    rw [← stepStage_blurred, ← alike, stepStage_blurred, hbelow]
    rfl
  obtain ⟨x, hx, hn⟩ := Option.map_eq_some_iff.mp hblur
  obtain ⟨htask, hthread⟩ := Prod.ext_iff.mp hn
  exact ⟨above', x.1, hstack, hx.trans (congrArg some (Prod.ext rfl hthread)), htask.symm⟩

/-- A body that ends does so above neither of the stacks. -/
theorem Below.not_returning {T T' : List (Frame σ ν)} (below : Below T T') {w : Task σ ν} {me : ThreadId} {pick : Nat}
    {stage : Stage σ ν} {n : Next σ ν} (away : (⟨stage, T⟩ : Thread σ ν).isAway T.length = true)
    (h : stepStage w me pick T stage = some n) : ¬IsReturning stage := by
  intro returning
  cases stage with
  | answer | unwind => simp [isAway] at away
  | run b =>
    cases b with
    | finish e => cases below <;> cases h
    | _ => cases returning
  | _ => cases returning

/-- A thread that is left alone comes back with the same reply from tasks that are alike, has started the same threads, and leaves tasks
that are alike. -/
theorem Comes.alike {me : ThreadId} {T T' : List (Frame σ ν)} {w w' v : Task σ ν} {th : Thread σ ν} {programs : List (Body σ ν)}
    {r : Reply ν} (h : Comes me T w th programs r w') (below : Below T T') (alike : w.blurred = v.blurred) {stage : Stage σ ν}
    (above : List (Frame σ ν)) (hth : th = ⟨stage, above ++ T⟩) :
    ∃ v', Comes me T' v ⟨stage, above ++ T'⟩ programs r v' ∧ w'.blurred = v'.blurred := by
  induction h generalizing v stage above with
  | back w r =>
    obtain ⟨rfl, hnil⟩ := Thread.mk.inj hth
    obtain rfl : above = [] := List.append_left_eq_self.mp hnil.symm
    exact ⟨v, .back v r, alike⟩
  | @step w w' th n programs r away hstep rest ih =>
    subst hth
    obtain ⟨awake, hstep⟩ := step_eq_some_iff.mp hstep
    have inner : above = [] → ¬IsReturning stage := by
      rintro rfl
      exact below.not_returning away hstep
    obtain ⟨above', v₁, hstack, hstep', alike'⟩ := stepStage_alike alike below inner hstep
    have hn : n.2 = ⟨n.2.stage, above' ++ T⟩ := by rw [← hstack]
    obtain ⟨v', comes, hv'⟩ := ih alike' above' hn
    have awake' : v.mailbox.isAsleep me = false := by
      rw [← Task.blurred_mailbox, ← alike]
      exact awake
    have away' : (⟨stage, above ++ T'⟩ : Thread σ ν).isAway T'.length = true := by
      rcases above with _ | ⟨f, above⟩
      · cases stage <;> first | rfl | simp [isAway] at away
      · exact isAway_of_ne (by simp; omega)
    exact ⟨v', .step away' (step_eq_some_iff.mpr ⟨awake', hstep'⟩) comes, hv'⟩

end Thread

end Mailroom
