import Mailroom.Task

/-!
# What the operations on a task leave alone

Most operations on a task touch one of its parts. Here stands which, one lemma for each part, so that later proofs need not open
the operations.
-/

namespace Mailroom.Task

variable {σ ν : Type} (w : Task σ ν)

/-! ## The journal -/

/-- An entry is noted in the journal and nowhere else: the mailbox stays as it is. -/
@[simp] theorem log_mailbox (e : Occurrence σ ν) : (w.log e).mailbox = w.mailbox := rfl

/-- So does the processor, whatever is noted. -/
@[simp] theorem log_processor (e : Occurrence σ ν) : (w.log e).processor = w.processor := rfl
@[simp] theorem log_hand (e : Occurrence σ ν) : (w.log e).hand = w.hand := rfl

/-- The latest entry is on top. -/
@[simp] theorem log_journal (e : Occurrence σ ν) : (w.log e).journal = e :: w.journal := rfl

/-! ## Mail that will not run -/

/-- That a mail will not run is said to its handle alone: the mailbox stays as it is. -/
@[simp] theorem forgo_mailbox (m : Letter σ ν) : (w.forgo m).mailbox = w.mailbox := by unfold forgo; split <;> rfl
@[simp] theorem forgo_processor (m : Letter σ ν) : (w.forgo m).processor = w.processor := by unfold forgo; split <;> rfl
@[simp] theorem forgo_hand (m : Letter σ ν) : (w.forgo m).hand = w.hand := by unfold forgo; split <;> rfl

/-- Nor is it noted here. What became of the mail is an entry that goes with it. -/
@[simp] theorem forgo_journal (m : Letter σ ν) : (w.forgo m).journal = w.journal := by unfold forgo; split <;> rfl

/-- To drop a mail is to tell its handle and to note that the mail was dropped. -/
@[simp] theorem drop_eq (m : Letter σ ν) : w.drop m = (w.forgo m).log (.dropped m.ticket) := rfl

/-- To skip a mail is the same, with a note that it was skipped. -/
@[simp] theorem skip_eq (m : Letter σ ν) : w.skip m = (w.forgo m).log (.skipped m.ticket) := rfl

@[simp] theorem dropDisplaced_none : w.dropDisplaced none = w := rfl

/-- A mail that is displaced is dropped like any other. -/
@[simp] theorem dropDisplaced_some (m : Letter σ ν) : w.dropDisplaced (some m) = w.drop m := rfl

/-- The mailbox is as the push left it, whether a mail was displaced or not. -/
@[simp] theorem dropDisplaced_mailbox (m? : Option (Letter σ ν)) : (w.dropDisplaced m?).mailbox = w.mailbox := by cases m? <;> simp

@[simp] theorem dropDisplaced_processor (m? : Option (Letter σ ν)) : (w.dropDisplaced m?).processor = w.processor := by cases m? <;> simp

@[simp] theorem dropDisplaced_hand (m? : Option (Letter σ ν)) : (w.dropDisplaced m?).hand = w.hand := by cases m? <;> simp

/-- A mail that is displaced is noted as one that is dropped. -/
theorem dropDisplaced_journal (m? : Option (Letter σ ν)) :
    (w.dropDisplaced m?).journal = (m?.map fun m => Occurrence.dropped m.ticket).toList ++ w.journal := by
  cases m? <;> simp

/-! ## Mail in hand -/

/-- Mail that is held comes last in the hand. -/
@[simp] theorem hold_hand (ms : List (Letter σ ν)) : (w.hold ms).hand = w.hand ++ ms := rfl

/-- Mail that is let go is taken out of the hand only. -/
@[simp] theorem letGo_mailbox (t : Ticket) : (w.letGo t).mailbox = w.mailbox := rfl
@[simp] theorem letGo_processor (t : Ticket) : (w.letGo t).processor = w.processor := rfl

/-- A mail that is let go was in hand, and the rest stays there. -/
theorem hand_perm_of_held? {w : Task σ ν} {t : Ticket} {m : Letter σ ν} (h : w.held? t = some m) :
    w.hand.Perm (m :: (w.letGo t).hand) ∧ m.ticket = t := by
  obtain ⟨ht, pre, post, hh, hpre⟩ := List.find?_eq_some_iff_append.mp h
  have ht' : m.ticket = t := by simpa using ht
  have he : (w.letGo t).hand = pre ++ post := by
    change w.hand.eraseP _ = _
    rw [hh, List.eraseP_append_right _ (by simpa using hpre), List.eraseP_cons_of_pos (by simpa using ht')]
  rw [he, hh]
  exact ⟨List.perm_middle, ht'⟩

end Mailroom.Task
