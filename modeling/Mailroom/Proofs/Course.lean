import Mathlib.Data.List.Perm.Basic
import Mailroom.Proofs.Step
import Mailroom.World

/-!
# The course of a world

What a step of a thread leaves behind (`Stepped`): the thread itself, the task and the threads it started are new, and nothing else
is. Properties that every step and every stirring keep hold wherever a world can get (`Reach.invariant`). `During` is the time that
a call takes: from the world in which a thread makes it up to the one in which the thread is back with the reply or with a panic.
-/

namespace Mailroom

variable {σ ν : Type}

/-! ## One move -/

/-- The sum over a list in which one element was replaced: the rest stays. -/
theorem flatMap_set_perm {α β : Type} (f : α → List β) {l : List α} {i : Nat} {x : α} (h : l[i]? = some x) :
    ∃ rest, (l.flatMap f).Perm (f x ++ rest) ∧ ∀ y, ((l.set i y).flatMap f).Perm (f y ++ rest) := by
  induction l generalizing i with
  | nil => cases h
  | cons z l ih =>
    cases i with
    | zero =>
      obtain rfl : z = x := by simpa using h
      exact ⟨l.flatMap f, .refl _, fun y => .refl _⟩
    | succ i =>
      obtain ⟨rest, hl, hset⟩ := ih (by simpa using h)
      have hmove : ∀ y : α, (f z ++ (f y ++ rest)).Perm (f y ++ (f z ++ rest)) := by
        intro y
        rw [← List.append_assoc, ← List.append_assoc]
        exact List.perm_append_comm.append_right rest
      refine ⟨f z ++ rest, ?_, fun y => ?_⟩
      · rw [List.flatMap_cons]
        exact (hl.append_left (f z)).trans (hmove x)
      · rw [List.set_cons_succ, List.flatMap_cons]
        exact ((hset y).append_left (f z)).trans (hmove y)

namespace World

/-- Threads that are started come last. -/
theorem foldl_spawn (programs : List (Body σ ν)) (w : World σ ν) :
    programs.foldl spawn w = ⟨w.task, w.threads ++ programs.map .start⟩ := by
  induction programs generalizing w with
  | nil => simp
  | cons p programs ih =>
    rw [List.foldl_cons, ih]
    simp [spawn]

/-- Before the first move every thread stands at the start of its program. -/
theorem thread_of_start {task : Task σ ν} {programs : List (Body σ ν)} {i : ThreadId} {th : Thread σ ν}
    (h : (start task programs).threads[i]? = some th) : ∃ program, th = .start program := by
  simp only [start, List.getElem?_map] at h
  obtain ⟨program, -, rfl⟩ := Option.map_eq_some_iff.mp h
  exact ⟨program, rfl⟩

/-- A step of thread `t`, which stood at `th` before: it leaves the task and the thread as in `n`. -/
structure Stepped (a : World σ ν) (t : ThreadId) (pick : Nat) (th : Thread σ ν) (n : Next σ ν) (b : World σ ν) : Prop where
  thread : a.threads[t]? = some th
  awake : a.task.mailbox.isAsleep t = false
  step : Thread.stepStage a.task t pick th.stack th.stage = some n
  result : b = ⟨n.1, a.threads.set t n.2 ++ th.offspring.map .start⟩

/-- Every step of a world is a step of one of its threads. -/
theorem step?_eq_some {a b : World σ ν} {t : ThreadId} {pick : Nat} (h : a.step? t pick = some b) :
    ∃ th n, Stepped a t pick th n b := by
  obtain ⟨th, hth, h⟩ := Option.bind_eq_some_iff.mp h
  obtain ⟨⟨task, after⟩, hn, h⟩ := Option.map_eq_some_iff.mp h
  simp only [foldl_spawn] at h
  unfold Thread.step at hn
  cases hawake : a.task.mailbox.isAsleep t with
  | true => simp [hawake] at hn
  | false =>
    rw [hawake, if_neg (by simp)] at hn
    exact ⟨th, (task, after), hth, hawake, hn, h.symm⟩

namespace Stepped

variable {a b : World σ ν} {t : ThreadId} {pick : Nat} {th : Thread σ ν} {n : Next σ ν}

/-- The step is a move of the world. -/
theorem step?_eq (h : Stepped a t pick th n b) : a.step? t pick = some b := by
  have hstep : th.step a.task t pick = some n := by rw [Thread.step, h.awake, if_neg (by simp), h.step]
  simp only [step?, h.thread, Option.bind_some, hstep, Option.map_some, foldl_spawn, h.result]

/-- The step is a turn of the thread. -/
theorem turn (h : Stepped a t pick th n b) : Thread.Turn a.task t pick th.stack th.stage n := Thread.turn_stepStage h.step

theorem task (h : Stepped a t pick th n b) : b.task = n.1 := by rw [h.result]

theorem lt (h : Stepped a t pick th n b) : t < a.threads.length := (List.getElem?_eq_some_iff.mp h.thread).1

/-- Where the thread stands after its step. -/
theorem own (h : Stepped a t pick th n b) : b.threads[t]? = some n.2 := by
  rw [h.result, List.getElem?_append_left (by simpa using h.lt), List.getElem?_set_self h.lt]

/-- Every other thread stands where it stood. -/
theorem other (h : Stepped a t pick th n b) {i : ThreadId} (hi : i ≠ t) {x : Thread σ ν} (hx : a.threads[i]? = some x) :
    b.threads[i]? = some x := by
  have hlt : i < a.threads.length := (List.getElem?_eq_some_iff.mp hx).1
  rw [h.result, List.getElem?_append_left (by simpa using hlt), List.getElem?_set_ne (Ne.symm hi), hx]

/-- A thread that there is after the step is the one that took it, or stands where it stood, or was started by the step. -/
theorem thread_cases (h : Stepped a t pick th n b) {i : ThreadId} {x : Thread σ ν} (hx : b.threads[i]? = some x) :
    (i = t ∧ x = n.2) ∨ (i ≠ t ∧ a.threads[i]? = some x) ∨ ∃ program, x = .start program := by
  by_cases hi : i = t
  · rw [hi, h.own] at hx
    cases hx
    exact .inl ⟨hi, rfl⟩
  · by_cases hlt : i < a.threads.length
    · rw [h.result, List.getElem?_append_left (by simpa using hlt), List.getElem?_set_ne (Ne.symm hi)] at hx
      exact .inr (.inl ⟨hi, hx⟩)
    · rw [h.result, List.getElem?_append_right (by simpa using hlt), List.getElem?_map] at hx
      obtain ⟨program, -, rfl⟩ := Option.map_eq_some_iff.mp hx
      exact .inr (.inr ⟨program, rfl⟩)

/-- Where another thread is there is the same one after the step, and where there was none there may be one that was started. -/
theorem elsewhere (h : Stepped a t pick th n b) {i : ThreadId} (hi : i ≠ t) : b.threads[i]? = a.threads[i]? ∨
    a.threads[i]? = none ∧ ∃ program, b.threads[i]? = some (.start program) := by
  cases hx : a.threads[i]? with
  | some x => exact .inl (h.other hi hx)
  | none =>
    cases hy : b.threads[i]? with
    | none => exact .inl rfl
    | some y =>
      rcases h.thread_cases hy with ⟨hit, -⟩ | ⟨-, hold⟩ | ⟨program, rfl⟩
      · exact absurd hit hi
      · rw [hx] at hold
        cases hold
      · exact .inr ⟨rfl, program, rfl⟩

/-- What all threads have of something, before and after the step: only the share of the thread that took it changes. -/
theorem flatMap_perm (h : Stepped a t pick th n b) {β : Type} (f : Thread σ ν → List β) (hf : ∀ program, f (.start program) = []) :
    ∃ rest, (a.threads.flatMap f).Perm (f th ++ rest) ∧ (b.threads.flatMap f).Perm (f n.2 ++ rest) := by
  obtain ⟨rest, ha, hb⟩ := flatMap_set_perm f h.thread
  refine ⟨rest, ha, ?_⟩
  have hnew : (th.offspring.map Thread.start).flatMap f = [] := by simp [hf]
  rw [h.result, List.flatMap_append, hnew, List.append_nil]
  exact hb n.2

end Stepped

/-- The world after a thread woke up without a reason. -/
def stirred (w : World σ ν) (t : ThreadId) : World σ ν :=
  { w with task := { w.task with mailbox := w.task.mailbox.stir t } }

/-! ## Many moves -/

namespace Reach

variable {start a b : World σ ν}

/-- What can become of what a world has become can become of the world. -/
theorem trans (h : Reach start a) (h' : Reach a b) : Reach start b := by
  induction h' with
  | here => exact h
  | next m _ hm ih => exact ih.next m hm

theorem step (h : Reach start a) {t : ThreadId} {pick : Nat} (hs : a.step? t pick = some b) : Reach start b :=
  h.next (.step t pick) hs

/-- Moves in a row lead where they lead. -/
theorem of_moves (ms : List Move) : ∀ {a b : World σ ν}, a.moves ms = some b → Reach a b := by
  induction ms with
  | nil =>
    intro a b h
    cases h
    exact .here
  | cons m ms ih =>
    intro a b h
    rw [moves, List.foldlM_cons] at h
    obtain ⟨x, hx, h⟩ := Option.bind_eq_some_iff.mp h
    exact (Reach.here.next m hx).trans (ih h)

/-- What holds at the start and is kept by every step and every stirring holds wherever the world can get. -/
theorem invariant {P : World σ ν → Prop} (h : Reach start b) (zero : P start)
    (step : ∀ {a t pick th n b}, Reach start a → P a → Stepped a t pick th n b → P b)
    (stir : ∀ {a t}, Reach start a → P a → P (a.stirred t)) : P b := by
  induction h with
  | here => exact zero
  | next m before hm ih =>
    cases m with
    | step t pick =>
      obtain ⟨th, n, hs⟩ := step?_eq_some hm
      exact step before ih hs
    | stir t =>
      cases hm
      exact stir before ih

end Reach

/-- The world after so many steps of its first thread, or the world itself if that cannot take so many. -/
def advanced (w : World σ ν) (steps : Nat) : World σ ν := (w.moves (List.replicate steps (.step 0 0))).getD w

/-- The first thread takes these steps as any thread would. -/
theorem reach_advanced (w : World σ ν) (steps : Nat) : w.Reach (w.advanced steps) := by
  unfold advanced
  cases h : w.moves (List.replicate steps (.step 0 0)) with
  | none => exact .here
  | some b => exact .of_moves _ h

/-- A world that a new task can get to with the programs of its first threads. -/
def Possible (w : World σ ν) : Prop :=
  ∃ config owner defaultAction handler client programs,
    Reach (start (.new config owner defaultAction handler client) programs) w

namespace Possible

variable {a b : World σ ν}

theorem reach (h : Possible a) (h' : Reach a b) : Possible b := by
  obtain ⟨config, owner, defaultAction, handler, client, programs, h⟩ := h
  exact ⟨config, owner, defaultAction, handler, client, programs, h.trans h'⟩

/-- What holds of every new task and is kept by every step and every stirring holds of every world that is possible. -/
theorem invariant {P : World σ ν → Prop} (h : Possible b)
    (zero : ∀ config owner defaultAction handler client programs,
      P (start (.new config owner defaultAction handler client) programs))
    (step : ∀ {a t pick th n b}, Possible a → P a → Stepped a t pick th n b → P b)
    (stir : ∀ {a t}, Possible a → P a → P (a.stirred t)) : P b := by
  obtain ⟨config, owner, defaultAction, handler, client, programs, h⟩ := h
  refine h.invariant (zero ..) (fun before ih hs => step ?_ ih hs) fun before ih => stir ?_ ih
  · exact ⟨config, owner, defaultAction, handler, client, programs, before⟩
  · exact ⟨config, owner, defaultAction, handler, client, programs, before⟩

/-- Where `D` says that something is due, some thread stands at a stage that sees to it, as `S` says: at first nothing is due, and a step
after which it is due leads to such a stage, or it was due before and the thread was not the one to see to it. -/
theorem somebody {D : Task σ ν → Prop} {S : Stage σ ν → Prop} (h : Possible b)
    (zero : ∀ config owner defaultAction handler client, ¬D (.new config owner defaultAction handler client))
    (step : ∀ {a t pick th n b}, Possible a → Stepped a t pick th n b → D n.1 → S n.2.stage ∨ D a.task ∧ ¬S th.stage)
    (stir : ∀ {a : World σ ν} {t : ThreadId}, D (a.stirred t).task → D a.task) :
    D b.task → ∃ (i : ThreadId) (th : Thread σ ν), b.threads[i]? = some th ∧ S th.stage := by
  refine h.invariant (P := fun w => D w.task → ∃ (i : ThreadId) (th : Thread σ ν), w.threads[i]? = some th ∧ S th.stage) ?_ ?_
    fun _ ih due => ih (stir due)
  · intro config owner defaultAction handler client programs due
    exact (zero config owner defaultAction handler client due).elim
  · intro a t pick th n b possible ih hs due
    rw [hs.task] at due
    rcases step possible hs due with hn | ⟨hbefore, hth⟩
    · exact ⟨t, n.2, hs.own, hn⟩
    · obtain ⟨i, x, hx, hsees⟩ := ih hbefore
      refine ⟨i, x, hs.other (fun hit => hth ?_) hx, hsees⟩
      subst hit
      obtain rfl : x = th := Option.some.inj (hx.symm.trans hs.thread)
      exact hsees

end Possible

/-- Thread `t` is back at the frames `base`, with a reply or with a panic. -/
def IsBack (w : World σ ν) (t : ThreadId) (base : List (Frame σ ν)) : Prop :=
  (∃ r, w.threads[t]? = some ⟨.answer r, base⟩) ∨ ∃ p, w.threads[t]? = some ⟨.unwind p, base⟩

/-- Thread `t` is not back at frames of this number. -/
def isAway (w : World σ ν) (t : ThreadId) (depth : Nat) : Bool :=
  match w.threads[t]? with
  | some ⟨.answer _, stack⟩ => stack.length ≠ depth
  | some ⟨.unwind _, stack⟩ => stack.length ≠ depth
  | _ => true

/-- A thread that is back stands at as many frames. -/
theorem not_isBack_of_isAway {w : World σ ν} {t : ThreadId} {base : List (Frame σ ν)} (h : w.isAway t base.length = true) :
    ¬w.IsBack t base := by
  rintro (⟨r, hr⟩ | ⟨p, hp⟩)
  · simp [isAway, hr] at h
  · simp [isAway, hp] at h

/-- Moves in a row, as long as thread `t` is not back at frames of this number. -/
def movesAway (w : World σ ν) (t : ThreadId) (depth : Nat) (ms : List Move) : Option (World σ ν) :=
  ms.foldlM (fun w m => if w.isAway t depth then w.move m else none) w

/-- What can become of a world before thread `t` makes its next step back at the frames `base`. -/
inductive During (t : ThreadId) (base : List (Frame σ ν)) (w : World σ ν) : World σ ν → Prop where
  | here : During t base w w
  | next {a b : World σ ν} (m : Move) (before : During t base w a) (away : ¬a.IsBack t base) (h : a.move m = some b) :
    During t base w b

namespace During

variable {t : ThreadId} {base : List (Frame σ ν)} {w a b : World σ ν}

/-- What can become of a world that is possible is possible. -/
theorem reach (h : During t base w a) : Reach w a := by
  induction h with
  | here => exact .here
  | next m _ _ hm ih => exact ih.next m hm

theorem trans (h : During t base w a) (h' : During t base a b) : During t base w b := by
  induction h' with
  | here => exact h
  | next m _ away hm ih => exact ih.next m away hm

/-- Moves before each of which the thread is not back lead to a world of that time. -/
theorem of_moves (ms : List Move) : ∀ {w b : World σ ν}, w.movesAway t base.length ms = some b → During t base w b := by
  induction ms with
  | nil =>
    intro w b h
    cases h
    exact .here
  | cons m ms ih =>
    intro w b h
    rw [movesAway, List.foldlM_cons] at h
    obtain ⟨x, hx, h⟩ := Option.bind_eq_some_iff.mp h
    cases haway : w.isAway t base.length with
    | false => simp [haway] at hx
    | true =>
      rw [haway, if_pos rfl] at hx
      exact (During.here.next m (not_isBack_of_isAway haway) hx).trans (ih h)

/-- What holds at the start and is kept by every step and every stirring before the thread is back holds all the time. -/
theorem invariant {P : World σ ν → Prop} (h : During t base w b) (zero : P w)
    (step : ∀ {a i pick th n b}, During t base w a → ¬a.IsBack t base → P a → Stepped a i pick th n b → P b)
    (stir : ∀ {a i}, During t base w a → P a → P (a.stirred i)) : P b := by
  induction h with
  | here => exact zero
  | next m before away hm ih =>
    cases m with
    | step i pick =>
      obtain ⟨th, n, hs⟩ := step?_eq_some hm
      exact step before away ih hs
    | stir i =>
      cases hm
      exact stir before ih

end During

end World

end Mailroom
