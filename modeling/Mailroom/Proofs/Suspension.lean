import Mathlib.Data.List.Induction
import Mailroom.Proofs.Serving

/-!
# Suspensions

A suspension stops the default action until somebody resumes it. `resumed_before_called`: the main loop never calls the default
action while it is suspended, so between a suspension and the next call there is a resumption, with no suspension after it. For that
the flag is followed through the journal: `Heeded` says that it is up just when the last word on it was a suspension, and that
nobody raises it between the loop's look at it and the call, since only the default action itself suspends.

Whose resumption it is makes no difference, and `LastsUntilResumed`, which asks for the suspension's own token, is false
(`lastsUntilResumed_false`).
-/

namespace Mailroom

variable {σ ν : Type}

/-! ## What the journal says of the default action -/

/-- The default action was suspended, resumed or called. -/
inductive Mark where
  | suspended (s : SuspensionId)
  | resumed (s : SuspensionId)
  | called
deriving DecidableEq, Repr

/-- What an entry says of the default action, if it says anything. -/
def Occurrence.mark? : Occurrence σ ν → Option Mark
  | suspended s => some (.suspended s)
  | resumed s => some (.resumed s)
  | defaultCalled => some .called
  | _ => none

namespace Mark

/-- Whether the default action is suspended after this, given whether it was before. -/
def after (before : Bool) : Mark → Bool
  | suspended _ => true
  | resumed _ => false
  | called => before

/-- Whether the default action is suspended after all of this. -/
def isHeld (marks : List Mark) : Bool := marks.foldl after false

/-- The last word decides, unless it is a call. -/
theorem isHeld_concat (marks : List Mark) (m : Mark) : isHeld (marks ++ [m]) = after (isHeld marks) m := by
  simp [isHeld]

/-- Nobody holds the default action after a suspension only if somebody resumed it, and nobody suspended it after that. -/
theorem resumed_of_not_isHeld {before : List Mark} {s : SuspensionId} (between : List Mark)
    (h : isHeld (before ++ .suspended s :: between) = false) :
    ∃ earlier s' later, between = earlier ++ .resumed s' :: later ∧ ∀ s'', .suspended s'' ∉ later := by
  induction between using List.reverseRecOn with
  | nil =>
    rw [isHeld_concat] at h
    cases h
  | append_singleton between m ih =>
    rw [← List.cons_append, ← List.append_assoc, isHeld_concat] at h
    cases m with
    | suspended s' => cases h
    | resumed s' => exact ⟨between, s', [], rfl, by simp⟩
    | called =>
      obtain ⟨earlier, s', later, rfl, hlater⟩ := ih h
      exact ⟨earlier, s', later ++ [.called], by simp, by simpa using hlater⟩

end Mark

namespace Task

/-- What the journal says of the default action, in the order of time. -/
def marks (w : Task σ ν) : List Mark := history Occurrence.mark? w.journal

/-- An entry that tells of something else says nothing of the default action. -/
theorem marks_log {w : Task σ ν} {e : Occurrence σ ν} (h : e.mark? = none) : (w.log e).marks = w.marks := history_cons_of_none h _

/-- What an entry says of the default action comes after all that was said before. -/
theorem marks_log_of_mark {w : Task σ ν} {e : Occurrence σ ν} {m : Mark} (h : e.mark? = some m) :
    (w.log e).marks = w.marks ++ [m] :=
  history_cons_of_some h _

/-- Mail that is dropped says nothing of the default action. -/
theorem marks_drop (w : Task σ ν) (m : Letter σ ν) : (w.drop m).marks = w.marks := history_drop (fun _ => rfl) w m

theorem marks_dropDisplaced (w : Task σ ν) (m? : Option (Letter σ ν)) : (w.dropDisplaced m?).marks = w.marks :=
  history_dropDisplaced (fun _ => rfl) w m?

end Task

/-! ## One step -/

/-- The main loop has found the default action ready, and is on its way to call it. -/
def Stage.isWilling : Stage σ ν → Bool
  | consultStatus => true
  | take _ patient purpose => !patient && purpose = .loop
  | callDefault => true
  | shut next => next.isWilling
  | wakeAll next => next.isWilling
  | drop _ next => next.isWilling
  | markClosed next => next.isWilling
  | _ => false

/-- What is on its way to the default action belongs to the main loop. -/
theorem Stage.servings_pos_of_isWilling {stage : Stage σ ν} (h : stage.isWilling = true) : 0 < stage.servings := by
  induction stage with
  | take choice patient purpose =>
    obtain ⟨-, rfl⟩ : patient = false ∧ purpose = .loop := by simpa [isWilling] using h
    exact Nat.one_pos
  | consultStatus | callDefault => exact Nat.one_pos
  | shut next ih | wakeAll next ih | drop ms next ih | markClosed next ih => exact ih h
  | _ => cases h

/-- What a step does to the flag that holds the default action, and what the journal says of that. -/
inductive Marking (w : Task σ ν) (th : Thread σ ν) (n : Next σ ν) : Prop where
  | quiet (flag : n.1.processor.suspended = w.processor.suspended) (marks : n.1.marks = w.marks)
    (willing : n.2.stage.isWilling = true → th.stage.isWilling = true ∨ w.processor.suspended = false)
  | suspended (s : SuspensionId) (own : th.stack.head?.any Frame.isDefault = true) (flag : n.1.processor.suspended = true)
    (marks : n.1.marks = w.marks ++ [.suspended s]) (willing : n.2.stage.isWilling = false)
  | resumed (s : SuspensionId) (flag : n.1.processor.suspended = false) (marks : n.1.marks = w.marks ++ [.resumed s])
  | called (was : th.stage.isWilling = true) (flag : n.1.processor.suspended = w.processor.suspended)
    (marks : n.1.marks = w.marks ++ [.called]) (willing : n.2.stage.isWilling = false)

namespace Thread

variable {w : Task σ ν} {me : ThreadId} {pick : Nat} {stack : List (Frame σ ν)}

/-- Of the calls only a suspension and a resumption touch the flag. -/
theorem Called.toMarking {q : Request} {n : Task σ ν × Stage σ ν} (h : Called w me stack q n) (guarded : Bool)
    (k : Reply ν → Body σ ν) : Marking w ⟨.run (.call guarded q k), stack⟩ (n.1, ⟨n.2, .caller guarded q k :: stack⟩) := by
  cases h with
  | discarding t m => exact .quiet (by simp) (Task.marks_drop _ m) nofun
  | suspending own => exact .suspended w.nextSuspension own rfl (Task.marks_log_of_mark rfl) rfl
  | resuming s => exact .resumed s rfl (Task.marks_log_of_mark rfl)
  | rousing s => exact .resumed s rfl ((Task.marks_log rfl).trans (Task.marks_log_of_mark rfl))
  | displaying => exact .quiet rfl ((Task.marks_log rfl).trans (Task.marks_log rfl)) nofun
  | puttingBack | telling | polling | cancelling => exact .quiet rfl (Task.marks_log rfl) nofun
  | taking choice patient => exact .quiet rfl rfl (by simp [Stage.isWilling])
  | yielding p patient => exact .quiet rfl rfl (by simp [Stage.isWilling])
  | _ => exact .quiet rfl rfl nofun

/-- A body ends, whatever made it end. -/
theorem Ended.toMarking {e : Ending ν} {n : Next σ ν} (h : Ended w e stack n) (stage : Stage σ ν) : Marking w ⟨stage, stack⟩ n := by
  cases h with
  | returned | escaped => exact .quiet rfl (Task.marks_log rfl) nofun
  | failed | caught => exact .quiet rfl ((Task.marks_log rfl).trans (Task.marks_log rfl)) nofun
  | captured h t d e =>
    cases e with
    | returned => exact .quiet rfl (Task.marks_log rfl) nofun
    | failed | panicked => exact .quiet rfl ((Task.marks_log rfl).trans (Task.marks_log rfl)) nofun
  | default e | handler _ e =>
    cases e with
    | returned | failed | panicked => exact .quiet rfl rfl nofun

/-- Every turn that moves the flag says so; only the loop, having found the flag down, goes to call the default action. -/
theorem Turn.toMarking {stage : Stage σ ν} {n : Next σ ν} (h : Turn w me pick stack stage n) : Marking w ⟨stage, stack⟩ n := by
  cases h with
  | ended h | broken h => exact h.toMarking _
  | called guarded q k h => exact h.toMarking guarded k
  | posted | submitted | launched | captured => exact .quiet rfl (Task.marks_log rfl) nofun
  | accepted => exact .quiet (by simp) ((Task.marks_log rfl).trans (Task.marks_dropDisplaced _ _)) nofun
  | refused m => exact .quiet (by simp) ((Task.marks_log rfl).trans (Task.marks_drop w m)) nofun
  | taken m choice patient purpose =>
    cases purpose with
    | hold | yield | step | loop => exact .quiet rfl (Task.marks_log rfl) nofun
  | shutOut choice patient purpose =>
    cases purpose with
    | hold | yield | step | loop => exact .quiet rfl rfl nofun
  | missed choice purpose =>
    cases purpose with
    | hold | yield | step => exact .quiet rfl rfl nofun
    | loop => exact .quiet rfl rfl fun _ => .inl rfl
  | drained choice purpose =>
    cases choice with
    | oldest =>
      cases purpose with
      | hold | yield | step | loop => exact .quiet rfl rfl nofun
    | eligible p => exact .quiet rfl rfl nofun
  | skipped m => exact .quiet (by simp) ((Task.marks_log rfl).trans (congrArg (history _) (w.forgo_journal m))) nofun
  | willing _ _ free => exact .quiet rfl rfl fun _ => .inr free
  | consulted => exact .quiet rfl rfl fun _ => .inl rfl
  | defaulted => exact .called rfl rfl (Task.marks_log_of_mark rfl) rfl
  | dropped m => exact .quiet (by simp) (w.marks_drop m) .inl
  | surrendered | filed | alarmed | awaited => exact .quiet rfl (Task.marks_log rfl) nofun
  | shut => exact .quiet rfl (Task.marks_log rfl) .inl
  | rested | idle | vacant => exact .quiet rfl rfl nofun
  | _ => exact .quiet rfl rfl .inl

end Thread

/-! ## A whole run -/

namespace World

/-- The flag is up just when the last word on it was a suspension, it was down at every call of the default action, and it is down
as long as the loop is on its way to the next one. -/
structure Heeded (w : World σ ν) : Prop where
  flag : w.task.processor.suspended = Mark.isHeld w.task.marks
  calls : ∀ before after, w.task.marks = before ++ .called :: after → Mark.isHeld before = false
  willing : ∀ (i : ThreadId) th, w.threads[i]? = some th → th.stage.isWilling = true → w.task.processor.suspended = false

/-- A call among marks of which one came last is that one, or was there before. -/
theorem called_concat {marks before after : List Mark} {m : Mark} (h : marks ++ [m] = before ++ .called :: after) :
    (m = .called ∧ before = marks) ∨ ∃ after', marks = before ++ .called :: after' := by
  induction after using List.reverseRecOn with
  | nil =>
    obtain ⟨rfl, hm⟩ := List.append_inj' h rfl
    exact .inl ⟨(List.cons.inj hm).1, rfl⟩
  | append_singleton after' _ _ =>
    rw [← List.cons_append, ← List.append_assoc] at h
    exact .inr ⟨after', (List.append_inj' h rfl).1⟩

variable {a b w : World σ ν} {t : ThreadId} {pick : Nat} {th : Thread σ ν} {n : Next σ ν}

/-- While the default action suspends itself, the loop is not on its way to call it. -/
theorem Possible.not_willing (possible : a.Possible) (ht : a.threads[t]? = some th) (own : th.stack.head?.any Frame.isDefault = true)
    {i : ThreadId} (hi : i ≠ t) {x : Thread σ ν} (hx : a.threads[i]? = some x) : x.stage.isWilling = false := by
  rw [Bool.eq_false_iff]
  intro hwilling
  have hthread : 0 < th.servings := by
    obtain ⟨f, hf, hdefault⟩ : ∃ f, th.stack.head? = some f ∧ f.isDefault = true := by simpa [Option.any_eq_true] using own
    have hserving : f.isServing = true := by cases f <;> first | rfl | cases hdefault
    exact Nat.add_pos_left (List.countP_pos_iff.mpr ⟨f, List.mem_of_mem_head? hf, hserving⟩) _
  have hother : 0 < x.servings := Nat.add_pos_right _ (Stage.servings_pos_of_isWilling hwilling)
  exact hi (((possible.serving hx).2 hother).trans ((possible.serving ht).2 hthread).symm)

/-- Every step follows the flag. -/
theorem Stepped.heeded (hs : Stepped a t pick th n b) (possible : a.Possible) (ha : a.Heeded) : b.Heeded := by
  have ofMark : ∀ m : Mark, n.1.marks = a.task.marks ++ [m] → m ≠ .called →
      ∀ before after, n.1.marks = before ++ .called :: after → Mark.isHeld before = false := by
    intro m hmarks hm before after h
    rcases called_concat (hmarks.symm.trans h) with ⟨rfl, -⟩ | ⟨after', h'⟩
    · exact absurd rfl hm
    · exact ha.calls before after' h'
  cases hs.turn.toMarking with
  | quiet flag marks willing =>
    refine ⟨?_, ?_, fun i x hx hwilling => ?_⟩ <;> rw [hs.task]
    · rw [flag, marks, ha.flag]
    · rw [marks]
      exact ha.calls
    · rw [flag]
      rcases hs.thread_cases hx with ⟨-, rfl⟩ | ⟨-, hx⟩ | ⟨program, rfl⟩
      · exact (willing hwilling).elim (ha.willing t th hs.thread) id
      · exact ha.willing i x hx hwilling
      · cases hwilling
  | suspended s own flag marks willing =>
    refine ⟨?_, ?_, fun i x hx hwilling => ?_⟩
    · rw [hs.task, flag, marks, Mark.isHeld_concat]
      rfl
    · rw [hs.task]
      exact ofMark _ marks nofun
    · rcases hs.thread_cases hx with ⟨-, rfl⟩ | ⟨hi, hx⟩ | ⟨program, rfl⟩
      · exact absurd hwilling (by rw [willing]; nofun)
      · exact absurd hwilling (by rw [possible.not_willing hs.thread own hi hx]; nofun)
      · cases hwilling
  | resumed s flag marks =>
    refine ⟨?_, ?_, fun _ _ _ _ => ?_⟩ <;> rw [hs.task]
    · rw [flag, marks, Mark.isHeld_concat]
      rfl
    · exact ofMark _ marks nofun
    · exact flag
  | called was flag marks willing =>
    have hdown := ha.willing t th hs.thread was
    refine ⟨?_, fun before after h => ?_, fun _ _ _ _ => ?_⟩
    · rw [hs.task, flag, marks, Mark.isHeld_concat, ha.flag]
      rfl
    · rw [hs.task, marks] at h
      rcases called_concat h with ⟨-, rfl⟩ | ⟨after', h'⟩
      · exact ha.flag.symm.trans hdown
      · exact ha.calls before after' h'
    · rw [hs.task, flag]
      exact hdown

/-- The default action is never called while it is suspended. -/
theorem Possible.heeded (h : w.Possible) : w.Heeded := by
  refine h.invariant ?_ (fun possible ih hs => hs.heeded possible ih) fun _ ih => ⟨ih.flag, ih.calls, ih.willing⟩
  intro config owner defaultAction handler client programs
  refine ⟨rfl, fun before after h => ?_, fun i th hi hwilling => ?_⟩
  · exact absurd h.symm (by simp [start, Task.marks, Task.new, history])
  · obtain ⟨program, rfl⟩ := thread_of_start hi
    cases hwilling

end World

/-- Between a suspension of the default action and the next call of it somebody resumed it, and it was not suspended again after
that. -/
theorem resumed_before_called {w : World σ ν} (possible : w.Possible) {before between after : List Mark} {s : SuspensionId}
    (h : w.task.marks = before ++ .suspended s :: between ++ .called :: after) :
    ∃ earlier s' later, between = earlier ++ .resumed s' :: later ∧ ∀ s'', .suspended s'' ∉ later :=
  Mark.resumed_of_not_isHeld between (possible.heeded.calls _ after h)

/-- A task whose only thread runs the main loop. The default action, the first two times it is called, suspends itself and sends a
mail that resumes suspension 0. -/
def staleToken : World Nat Nat :=
  .start (.new ⟨4⟩ 0 (some (.read fun n =>
      if n < 2 then .write (· + 1) (.call false .suspend fun _ =>
        .post ⟨⟨"resume", []⟩, .empty, 0⟩ (.call false (.resume 0) fun _ => .finish (.returned 0)) fun _ => .finish (.returned 0))
      else .finish (.returned 0)))
    (fun _ => .finish (.returned 0)) 0) [.call false .loop fun _ => .finish (.returned 0)]

theorem staleToken_possible : staleToken.Possible := ⟨⟨4⟩, 0, _, _, 0, _, .here⟩

/-- Up to the second call of its default action the task shows a suspension that its own token ended. -/
theorem resumed_before_called_of_staleToken : ∃ w : World Nat Nat, staleToken.moves (List.replicate 25 (.step 0 0)) = some w ∧
    w.task.marks = [.called] ++ .suspended 0 :: [.resumed 0] ++ .called :: [] ∧
    ∃ earlier s' later, [Mark.resumed 0] = earlier ++ .resumed s' :: later ∧ ∀ s'', .suspended s'' ∉ later := by
  refine ⟨_, rfl, rfl, ?_⟩
  have possible := staleToken_possible.reach (.of_moves (List.replicate 25 (.step 0 0)) rfl)
  exact @resumed_before_called _ _ _ possible [.called] [.resumed 0] [] 0 rfl

/-! ## A suspension need not last until it is resumed itself

All suspensions share one flag, and a token does not remember which suspension it came from. In `staleToken` suspension 0 is
suspended and resumed; then suspension 1 begins, its own token is never used, and the token of suspension 0, resumed once more, lets
the default action run again. -/

/-- A suspension lasts until it is resumed with its own token. -/
def LastsUntilResumed (marks : List Mark) : Prop :=
  ∀ before s between after, marks = before ++ .suspended s :: between ++ .called :: after → .resumed s ∈ between

/-- The third call comes after suspension 1, and only suspension 0 was resumed in between. -/
theorem lastsUntilResumed_false : ∃ w : World Nat Nat, staleToken.moves (List.replicate 45 (.step 0 0)) = some w ∧
    w.task.marks = [.called, .suspended 0, .resumed 0, .called, .suspended 1, .resumed 0, .called] ∧
    ¬LastsUntilResumed w.task.marks := by
  refine ⟨_, rfl, rfl, fun lasts => ?_⟩
  have hown := lasts [.called, .suspended 0, .resumed 0, .called] 1 [.resumed 0] [] rfl
  simp at hown

/-- As long as only its own token is used after it, a suspension does last until it is resumed. -/
theorem resumed_of_own_token {w : World σ ν} (possible : w.Possible) {before between after : List Mark} {s : SuspensionId}
    (h : w.task.marks = before ++ .suspended s :: between ++ .called :: after) (own : ∀ s', .resumed s' ∈ between → s' = s) :
    .resumed s ∈ between := by
  obtain ⟨earlier, s', later, rfl, -⟩ := Mark.resumed_of_not_isHeld between (possible.heeded.calls _ after h)
  have hs' : .resumed s' ∈ earlier ++ .resumed s' :: later := List.mem_append_right _ List.mem_cons_self
  exact own s' hs' ▸ hs'

end Mailroom
