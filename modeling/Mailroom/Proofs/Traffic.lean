import Mailroom.Proofs.Course
import Mailroom.Proofs.Lanes

/-!
# What a step does to the mailbox

One turn of a thread begins to put one mail, or lets at most one mail in or out, or quiesces the mailbox, or closes it and clears it
out, and the journal says so (`Traffic`, `Turn.toTraffic`). From that follows what holds of the mailbox wherever a world can get: its
lanes are in order, it is empty once it is closed, and its life only moves forward.
-/

namespace Mailroom

variable {σ ν : Type}

/-- What a journal says of something, in the order of time. -/
def history {β : Type} (f : Occurrence σ ν → Option β) (journal : List (Occurrence σ ν)) : List β :=
  journal.reverse.filterMap f

section

variable {β : Type} {f : Occurrence σ ν → Option β}

/-- The latest entry of a journal is the last in the order of time, if it is read at all. -/
theorem history_cons (e : Occurrence σ ν) (journal : List (Occurrence σ ν)) :
    history f (e :: journal) = history f journal ++ (f e).toList := by
  simp only [history, List.reverse_cons, List.filterMap_append, List.filterMap_cons, List.filterMap_nil]
  cases f e with
  | none => rfl
  | some b => rfl

theorem history_cons_of_none {e : Occurrence σ ν} (h : f e = none) (journal : List (Occurrence σ ν)) :
    history f (e :: journal) = history f journal := by
  rw [history_cons, h]
  exact List.append_nil _

theorem history_cons_of_some {e : Occurrence σ ν} {b : β} (h : f e = some b) (journal : List (Occurrence σ ν)) :
    history f (e :: journal) = history f journal ++ [b] := by
  rw [history_cons, h]
  rfl

/-- A history lists what is read of some entry. -/
theorem mem_history {b : β} {journal : List (Occurrence σ ν)} : b ∈ history f journal ↔ ∃ e ∈ journal, f e = some b := by
  simp [history]

/-- Mail that is dropped leaves no trace where the drop is not read. -/
theorem history_drop (h : ∀ t, f (.dropped t) = none) (w : Task σ ν) (m : Letter σ ν) :
    history f (w.drop m).journal = history f w.journal := by
  rw [Task.drop_eq, Task.log_journal, history_cons_of_none (h _), Task.forgo_journal]

/-- The same for mail that is displaced. -/
theorem history_dropDisplaced (h : ∀ t, f (.dropped t) = none) (w : Task σ ν) (m? : Option (Letter σ ν)) :
    history f (w.dropDisplaced m?).journal = history f w.journal := by
  cases m? with
  | none => rfl
  | some m => exact history_drop h w m

end

/-- The entry tells of mail that is put into the mailbox or leaves it. -/
def Occurrence.isTraffic : Occurrence σ ν → Bool
  | offered .. => true
  | refused .. => true
  | accepted .. => true
  | taken .. => true
  | cleared _ => true
  | _ => false

namespace Task

/-- The entries of the journal that tell of mail that is put into the mailbox or leaves it, latest first. -/
def traffic (w : Task σ ν) : List (Occurrence σ ν) := w.journal.filter (·.isTraffic)

/-- The mail that is queued, urgent mail first. -/
def queued (w : Task σ ν) : List (Letter σ ν) := w.mailbox.lanes.toList

/-- An entry of another kind is no traffic. -/
theorem traffic_log (w : Task σ ν) {e : Occurrence σ ν} (h : e.isTraffic = false) : (w.log e).traffic = w.traffic := by
  simp [traffic, h]

/-- One of this kind is the latest of the traffic. -/
theorem traffic_log_of_isTraffic (w : Task σ ν) {e : Occurrence σ ν} (h : e.isTraffic = true) : (w.log e).traffic = e :: w.traffic := by
  simp [traffic, h]

/-- Whoever reads only entries of this kind finds the same in the whole journal. -/
theorem history_traffic {β : Type} {f : Occurrence σ ν → Option β} (h : ∀ e, e.isTraffic = false → f e = none) (w : Task σ ν) :
    history f w.traffic = history f w.journal := by
  rw [traffic]
  induction w.journal with
  | nil => rfl
  | cons e journal ih =>
    rw [history_cons, ← ih, List.filter_cons]
    cases he : e.isTraffic with
    | true => rw [if_pos rfl, history_cons]
    | false =>
      rw [if_neg nofun, h e he]
      exact (List.append_nil _).symm

theorem traffic_forgo (w : Task σ ν) (m : Letter σ ν) : (w.forgo m).traffic = w.traffic := by simp [traffic]

/-- A mail that is dropped has left the mailbox before, or was never in it. -/
theorem traffic_drop (w : Task σ ν) (m : Letter σ ν) : (w.drop m).traffic = w.traffic :=
  (traffic_log _ rfl).trans (w.traffic_forgo m)

/-- Nor is a mail that is displaced taken out: the next mail stands in its place. -/
theorem traffic_dropDisplaced (w : Task σ ν) (m? : Option (Letter σ ν)) : (w.dropDisplaced m?).traffic = w.traffic := by
  cases m? with
  | none => rfl
  | some m => exact w.traffic_drop m

end Task

/-! What is seen of a mailbox when the sleepers are left aside. -/

section

variable {α : Type} {b c : Mailbox α}

/-- Where the sleepers are left aside, the lanes are seen. -/
theorem Mailbox.lanes_of_wakeAll (h : b.wakeAll = c) : b.lanes = c.lanes := by rw [← h]; rfl

theorem Mailbox.status_of_wakeAll (h : b.wakeAll = c) : b.status = c.status := by rw [← h]; rfl

theorem Mailbox.owner_of_wakeAll (h : b.wakeAll = c) : b.owner = c.owner := by rw [← h]; rfl

theorem Mailbox.capacity_of_wakeAll (h : b.wakeAll = c) : b.capacity = c.capacity := by rw [← h]; rfl

end

namespace Stage

/-- The mail that the thread is putting into the mailbox. -/
def pending : Stage σ ν → List (Letter σ ν)
  | offer m _ _ => [m]
  | shut next => next.pending
  | wakeAll next => next.pending
  | drop _ next => next.pending
  | markClosed next => next.pending
  | _ => []

/-- The number of mails that were taken to be run by the main loop or a step, and are not counted yet. -/
def uncounted : Stage σ ν → Nat
  | serve _ _ => 1
  | shut next => next.uncounted
  | wakeAll next => next.uncounted
  | drop _ next => next.uncounted
  | markClosed next => next.uncounted
  | _ => 0

end Stage

/-- Mail that is taken for this counts as run by the main loop or by a step. -/
def Purpose.counts : Purpose → Nat
  | hold => 0
  | yield => 0
  | step => 1
  | loop => 1

/-- What a step of thread `me` from stage `s` to stage `s'` does to the mailbox, sleepers aside, and to the count of mails that were
run, and what the journal says of it. -/
inductive Traffic (me : ThreadId) (a : Task σ ν) (s : Stage σ ν) (b : Task σ ν) (s' : Stage σ ν) : Prop where
  | quiet (mailbox : b.mailbox.wakeAll = a.mailbox.wakeAll) (journal : b.traffic = a.traffic) (pending : s'.pending = s.pending)
    (count : b.processor.processed + s'.uncounted = a.processor.processed + s.uncounted)
  | quiesced (was : a.mailbox.status = .accepting) (mailbox : b.mailbox.wakeAll = { a.mailbox.wakeAll with status := .quiesced })
    (journal : b.traffic = a.traffic) (pending : s'.pending = s.pending)
    (count : b.processor.processed + s'.uncounted = a.processor.processed + s.uncounted)
  | begun (m : Letter σ ν) (mailbox : b.mailbox.wakeAll = a.mailbox.wakeAll) (journal : b.traffic = .offered m me :: a.traffic)
    (before : s.pending = []) (after : s'.pending = [m])
    (count : b.processor.processed + s'.uncounted = a.processor.processed + s.uncounted)
  | refused (m : Letter σ ν) (mailbox : b.mailbox.wakeAll = a.mailbox.wakeAll)
    (journal : b.traffic = .refused m me :: a.traffic) (before : s.pending = [m]) (after : s'.pending = [])
    (count : b.processor.processed + s'.uncounted = a.processor.processed + s.uncounted)
  | entered (m : Letter σ ν) (was : a.mailbox.status = .accepting) (room : a.mailbox.isFull = false)
    (mailbox : b.mailbox.wakeAll = { a.mailbox.wakeAll with lanes := a.mailbox.lanes.push m })
    (journal : b.traffic = .accepted m me :: a.traffic) (before : s.pending = [m]) (after : s'.pending = [])
    (count : b.processor.processed + s'.uncounted = a.processor.processed + s.uncounted)
  | left (m : Letter σ ν) (choice : Choice) (purpose : Purpose) (l : Lanes (Job σ ν)) (was : a.mailbox.status ≠ .closed)
    (pop : a.mailbox.lanes.pop choice = some (m, l)) (mailbox : b.mailbox.wakeAll = { a.mailbox.wakeAll with lanes := l })
    (journal : b.traffic = .taken m choice purpose :: a.traffic) (pending : s'.pending = s.pending)
    (count : b.processor.processed + s'.uncounted = a.processor.processed + s.uncounted + purpose.counts)
  | emptied (was : a.mailbox.status ≠ .closed)
    (mailbox : b.mailbox.wakeAll = { a.mailbox.wakeAll with status := .closed, lanes := a.mailbox.lanes.cleared })
    (journal : b.traffic = .cleared a.mailbox.lanes.toList :: a.traffic) (pending : s'.pending = s.pending)
    (count : b.processor.processed + s'.uncounted = a.processor.processed + s.uncounted)

/-! ## One step -/

namespace Thread

variable {w : Task σ ν} {me : ThreadId} {pick : Nat} {stack : List (Frame σ ν)}

/-- A request settles nothing with the mailbox. At most it begins a put. -/
theorem Called.toTraffic {q : Request} {n : Task σ ν × Stage σ ν} (h : Called w me stack q n) (b : Body σ ν) :
    Traffic me w (.run b) n.1 n.2 := by
  cases h with
  | discarding t m held => exact .quiet (by simp) (Task.traffic_drop _ m) rfl (by simp [Stage.uncounted])
  | puttingBack t m held => exact .begun m rfl rfl rfl rfl rfl
  | rousing s suspended other => exact .begun _ rfl rfl rfl rfl rfl
  | _ => exact .quiet rfl rfl rfl rfl

/-- A body ends, whatever made it end. -/
theorem Ended.toTraffic {e : Ending ν} {n : Next σ ν} (h : Ended w e stack n) {stage : Stage σ ν} (hp : stage.pending = [])
    (hu : stage.uncounted = 0) : Traffic me w stage n.1 n.2.stage := by
  cases h with
  | captured h t d e stack | default e stack | handler why e stack =>
    cases e with
    | returned | failed | panicked => exact .quiet rfl rfl hp.symm (congrArg _ hu.symm)
  | _ => exact .quiet rfl rfl hp.symm (congrArg _ hu.symm)

/-- Every turn does one thing to the mailbox, or nothing, and the journal says so. -/
theorem Turn.toTraffic {stage : Stage σ ν} {n : Next σ ν} (h : Turn w me pick stack stage n) :
    Traffic me w stage n.1 n.2.stage := by
  cases h with
  | ended h => exact h.toTraffic rfl rfl
  | broken h => exact h.toTraffic rfl rfl
  | called guarded q k h => exact h.toTraffic _
  | posted | submitted => exact .begun _ rfl rfl rfl rfl rfl
  | accepted m slept receipt stack was room =>
    refine .entered m was room (by simp [Mailbox.wakeAll]) ?_ rfl rfl (by simp [Stage.uncounted])
    rw [Task.traffic_log_of_isTraffic _ rfl, Task.traffic_dropDisplaced]
    rfl
  | refused m slept receipt why stack =>
    refine .refused m (by simp) ?_ rfl rfl (by simp [Stage.uncounted])
    rw [Task.traffic_log_of_isTraffic _ rfl, Task.traffic_drop]
  | taken m choice patient purpose l stack was pop =>
    cases purpose with
    | hold => exact .left m choice .hold l was pop rfl rfl rfl rfl
    | yield => exact .left m choice .yield l was pop rfl rfl rfl rfl
    | step => exact .left m choice .step l was pop rfl rfl rfl rfl
    | loop => exact .left m choice .loop l was pop rfl rfl rfl rfl
  | shutOut choice patient purpose | missed choice purpose =>
    cases purpose with
    | hold | yield | step | loop => exact .quiet rfl rfl rfl rfl
  | drained choice purpose =>
    cases choice with
    | oldest =>
      cases purpose with
      | hold | yield | step | loop => exact .quiet rfl rfl rfl rfl
    | eligible p => exact .quiet rfl rfl rfl rfl
  | skipped m => exact .quiet (by simp) ((Task.traffic_log _ rfl).trans (w.traffic_forgo m)) rfl (by simp [Stage.uncounted])
  | quiesced stack was => exact .quiesced was rfl rfl rfl rfl
  | surrendered stack was | shut next stack was => exact .emptied was rfl rfl rfl rfl
  | dropped m => exact .quiet (by simp) (w.traffic_drop m) rfl (by simp [Stage.uncounted])
  | _ => exact .quiet rfl rfl rfl rfl

end Thread

/-! ## What every step keeps -/

/-- The lanes are in order, and a closed mailbox is empty. -/
structure Mailbox.Orderly {α : Type} (b : Mailbox α) : Prop where
  wellFormed : b.lanes.WellFormed
  empty : b.status = .closed → b.lanes.toList = []

theorem Mailbox.orderly_new {α : Type} (config : Config) (owner : ThreadId) : (new config owner : Mailbox α).Orderly :=
  ⟨Lanes.wellFormed_empty, fun _ => rfl⟩

/-- Only the sleepers of a mailbox are not seen in what is in order. -/
theorem Mailbox.orderly_wakeAll {α : Type} {b : Mailbox α} : b.wakeAll.Orderly ↔ b.Orderly :=
  ⟨fun h => ⟨h.wellFormed, h.empty⟩, fun h => ⟨h.wellFormed, h.empty⟩⟩

namespace Traffic

variable {me : ThreadId} {a b : Task σ ν} {s s' : Stage σ ν}

/-- The mailbox thread stays the same. -/
theorem owner (h : Traffic me a s b s') : b.mailbox.owner = a.mailbox.owner := by
  cases h with
  | quiet mailbox | quiesced _ mailbox | begun _ mailbox | refused _ mailbox | entered _ _ _ mailbox | left _ _ _ _ _ _ mailbox
  | emptied _ mailbox =>
    exact (Mailbox.owner_of_wakeAll mailbox).trans rfl

/-- So does the most mail that there can be. -/
theorem capacity (h : Traffic me a s b s') : b.mailbox.capacity = a.mailbox.capacity := by
  cases h with
  | quiet mailbox | quiesced _ mailbox | begun _ mailbox | refused _ mailbox | entered _ _ _ mailbox | left _ _ _ _ _ _ mailbox
  | emptied _ mailbox =>
    exact (Mailbox.capacity_of_wakeAll mailbox).trans rfl

/-- A mailbox that was closed is left alone. -/
theorem of_closed (h : Traffic me a s b s') (hc : a.mailbox.status = .closed) : b.mailbox.wakeAll = a.mailbox.wakeAll := by
  cases h with
  | quiet mailbox | begun _ mailbox | refused _ mailbox => exact mailbox
  | quiesced was | entered m was => exact absurd (was.symm.trans hc) (by simp)
  | left m choice purpose l was | emptied was => exact absurd hc was

/-- One thing done to a mailbox that is in order leaves it in order. -/
theorem orderly (h : Traffic me a s b s') (ha : a.mailbox.Orderly) : b.mailbox.Orderly := by
  rw [← Mailbox.orderly_wakeAll]
  cases h with
  | quiet mailbox | begun _ mailbox | refused _ mailbox =>
    rw [mailbox]
    exact Mailbox.orderly_wakeAll.mpr ha
  | quiesced was mailbox =>
    rw [mailbox]
    exact ⟨ha.wellFormed, by simp⟩
  | entered m was room mailbox =>
    rw [mailbox]
    exact ⟨ha.wellFormed.push m, fun hc => absurd (was.symm.trans hc) (by simp)⟩
  | left m choice purpose l was pop mailbox =>
    rw [mailbox]
    exact ⟨(Lanes.pop_eq_some ha.wellFormed pop).wellFormed ha.wellFormed, fun hc => absurd hc was⟩
  | emptied was mailbox =>
    rw [mailbox]
    exact ⟨ha.wellFormed.cleared, fun _ => Lanes.toList_cleared _⟩

end Traffic

namespace World

variable {a b : World σ ν}

/-- A step of a world is one turn, so it does one thing to the mailbox at most. -/
theorem Stepped.traffic {t : ThreadId} {pick : Nat} {th : Thread σ ν} {n : Next σ ν} (h : Stepped a t pick th n b) :
    Traffic t a.task th.stage b.task n.2.stage := by
  rw [h.task]
  exact h.turn.toTraffic

/-- A mailbox is in order wherever a world can get. -/
theorem Possible.orderly (h : Possible a) : a.task.mailbox.Orderly := by
  refine h.invariant (P := fun w => w.task.mailbox.Orderly) ?_ (fun _ ih hs => hs.traffic.orderly ih) fun _ ih => ?_
  · intro config owner _ _ _ _
    exact Mailbox.orderly_new config owner
  · exact ⟨ih.wellFormed, ih.empty⟩

/-- No step makes another thread the mailbox thread. -/
theorem Reach.owner (h : Reach a b) : b.task.mailbox.owner = a.task.mailbox.owner :=
  h.invariant (P := fun w => w.task.mailbox.owner = a.task.mailbox.owner) rfl (fun _ ih hs => hs.traffic.owner.trans ih)
    fun _ ih => ih

/-- What holds of every thread that starts, and is kept by every step of a thread, holds of all threads all the time. -/
theorem Possible.threads {P : ThreadId → ThreadId → Thread σ ν → Prop} (h : b.Possible)
    (zero : ∀ owner i program, P owner i (.start program))
    (step : ∀ {a t pick th n b}, a.Possible → Stepped a t pick th n b → P a.task.mailbox.owner t th → P a.task.mailbox.owner t n.2) :
    ∀ (i : ThreadId) th, b.threads[i]? = some th → P b.task.mailbox.owner i th := by
  refine h.invariant (P := fun w => ∀ (i : ThreadId) th, w.threads[i]? = some th → P w.task.mailbox.owner i th) ?_ ?_ fun _ ih => ih
  · intro config owner defaultAction handler client programs i th hi
    obtain ⟨program, rfl⟩ := thread_of_start hi
    exact zero owner i program
  · intro a t pick th n b possible ih hs i x hx
    rw [hs.traffic.owner]
    rcases hs.thread_cases hx with ⟨rfl, rfl⟩ | ⟨-, hx⟩ | ⟨program, rfl⟩
    · exact step possible hs (ih i th hs.thread)
    · exact ih i x hx
    · exact zero a.task.mailbox.owner i program

/-- Once the mailbox is closed it stays closed. -/
theorem Reach.closed (h : Reach a b) (hc : a.task.mailbox.status = .closed) : b.task.mailbox.status = .closed := by
  refine h.invariant (P := fun w => w.task.mailbox.status = .closed) hc ?_ fun _ ih => ih
  intro x t pick th n y _ ih hs
  exact (Mailbox.status_of_wakeAll (hs.traffic.of_closed ih)).trans ih

end World

end Mailroom
