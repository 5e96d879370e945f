import Mailroom.Thread.Step

/-!
# All threads together

A task and its threads. One move of the whole is one step of one thread, or a sleeper that wakes up without a reason; any thread
that can step may be the next to do so.
-/

namespace Mailroom

/-- A task and the threads that share it. -/
structure World (σ ν : Type) where
  task : Task σ ν
  /-- The threads, by number. -/
  threads : List (Thread σ ν)

/-- What can happen next. -/
inductive Move where
  /-- Thread `t` takes a step; `pick` says which sleeper it wakes, where it wakes one. -/
  | step (t : ThreadId) (pick : Nat)
  /-- Thread `t` wakes up without a reason. -/
  | stir (t : ThreadId)
deriving DecidableEq, Repr

namespace World

variable {σ ν : Type}

/-- A task and the programs of its first threads, before the first move. -/
def start (task : Task σ ν) (programs : List (Body σ ν)) : World σ ν := ⟨task, programs.map .start⟩

/-- A new thread, under the next number. -/
def spawn (w : World σ ν) (program : Body σ ν) : World σ ν := { w with threads := w.threads ++ [.start program] }

/-- The world after a step of thread `t`; a thread that the step starts comes last. -/
def step? (w : World σ ν) (t : ThreadId) (pick : Nat) : Option (World σ ν) :=
  w.threads[t]?.bind fun th =>
    (th.step w.task t pick).map fun (task, after) =>
      th.offspring.foldl spawn ⟨task, w.threads.set t after⟩

/-- Thread `t` can take a step. -/
def canStep (w : World σ ν) (t : ThreadId) : Bool := (w.step? t 0).isSome

/-- One move, if it can be made. -/
def move (w : World σ ν) : Move → Option (World σ ν)
  | .step t pick => w.step? t pick
  | .stir t => some { w with task := { w.task with mailbox := w.task.mailbox.stir t } }

/-- Some moves in a row, if they can be made. -/
def moves (w : World σ ν) (ms : List Move) : Option (World σ ν) := ms.foldlM move w

/-- What can become of a world by moves. -/
inductive Reach (w : World σ ν) : World σ ν → Prop where
  | here : Reach w w
  | next {a b : World σ ν} (m : Move) (before : Reach w a) (h : a.move m = some b) : Reach w b

end World

end Mailroom
