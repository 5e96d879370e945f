import Mailroom.Proofs.Traffic

/-!
# What a step writes

A step only adds to the journal, and writes each kind of entry only at the stages that are there for it (`Turn.writes`). So whoever reads
some kinds of entries need not look at any other step (`Writes.history_eq`).
-/

namespace Mailroom

variable {σ ν : Type}

/-- An entry of this kind is written at such a stage. -/
def Occurrence.isWrittenAt : Occurrence σ ν → Stage σ ν → Bool
  | offered .., .run _ => true
  | accepted .., .offer .. => true
  | refused .., .offer .. => true
  | taken .., .take .. => true
  | cleared _, .surrender => true
  | cleared _, .shut _ => true
  | started _, .launch .. => true
  | skipped _, .launch .. => true
  | dropped _, .run _ => true
  | dropped _, .offer .. => true
  | dropped _, .drop .. => true
  | ended .., .run _ => true
  | ended .., .unwind _ => true
  | cancelled _, .run _ => true
  | told .., .run _ => true
  | told .., .await _ => true
  | viewed _, .run _ => true
  | rendered .., .run _ => true
  | rendered .., .unwind _ => true
  | suspended _, .run _ => true
  | resumed _, .run _ => true
  | defaultCalled, .callDefault => true
  | reported _, .fileReport _ => true
  | alarmed _, .alarm _ => true
  | _, _ => false

/-- From `w` to `w'` the journal has grown, by entries of such kinds as are written at the stage. -/
def Writes (stage : Stage σ ν) (w w' : Task σ ν) : Prop :=
  ∃ entries, w'.journal = entries ++ w.journal ∧ ∀ e ∈ entries, e.isWrittenAt stage = true

namespace Writes

variable {stage : Stage σ ν} {w w' : Task σ ν}

/-- Where the journal is the same nothing was written. -/
theorem same (h : w'.journal = w.journal) : Writes stage w w' := ⟨[], h, fun _ he => absurd he List.not_mem_nil⟩

/-- One entry more, of a kind that is written there. -/
theorem log (h : Writes stage w w') {e : Occurrence σ ν} (he : e.isWrittenAt stage = true) : Writes stage w (w'.log e) := by
  obtain ⟨entries, hjournal, hall⟩ := h
  refine ⟨e :: entries, by rw [Task.log_journal, hjournal, List.cons_append], fun x hx => ?_⟩
  rcases List.mem_cons.mp hx with rfl | hx
  · exact he
  · exact hall x hx

/-- A mail is dropped, where that is noted. -/
theorem drop (h : Writes stage w w') (m : Letter σ ν) (he : (Occurrence.dropped m.ticket).isWrittenAt stage = true) :
    Writes stage w (w'.drop m) := by
  refine log ?_ he
  obtain ⟨entries, hjournal, hall⟩ := h
  exact ⟨entries, by rw [Task.forgo_journal, hjournal], hall⟩

theorem dropDisplaced (h : Writes stage w w') (m? : Option (Letter σ ν))
    (he : ∀ t, (Occurrence.dropped t).isWrittenAt stage = true) : Writes stage w (w'.dropDisplaced m?) := by
  cases m? with
  | none => exact h
  | some m => exact h.drop m (he _)

/-- Whoever reads none of these kinds of entries finds the journal as it was. -/
theorem history_eq {β : Type} {f : Occurrence σ ν → Option β} (h : Writes stage w w')
    (hf : ∀ e : Occurrence σ ν, e.isWrittenAt stage = true → f e = none) : history f w'.journal = history f w.journal := by
  obtain ⟨entries, hjournal, hall⟩ := h
  have hnone : entries.reverse.filterMap f = [] := List.filterMap_eq_nil_iff.mpr fun e he => hf e (hall e (List.mem_reverse.mp he))
  rw [history, hjournal, List.reverse_append, List.filterMap_append, hnone, List.append_nil, history]

end Writes

namespace Thread

variable {w : Task σ ν} {me : ThreadId} {pick : Nat} {stack : List (Frame σ ν)} {stage : Stage σ ν} {n : Next σ ν}

/-- A request writes only what a body writes. -/
theorem Called.writes {q : Request} {n : Task σ ν × Stage σ ν} (h : Called w me stack q n) (b : Body σ ν) :
    Writes (.run b) w n.1 := by
  cases h with
  | discarding t m held => exact .drop (.same rfl) m rfl
  | displaying | rousing => exact .log (.log (.same rfl) rfl) rfl
  | puttingBack | telling | polling | cancelling | suspending | resuming => exact .log (.same rfl) rfl
  | _ => exact .same rfl

/-- A body ends, by itself or by a panic. -/
theorem Ended.writes {e : Ending ν} (h : Ended w e stack n)
    (hended : ∀ t e caught, (Occurrence.ended t e caught).isWrittenAt stage = true)
    (hrendered : ∀ t names, (Occurrence.rendered t names).isWrittenAt stage = true) : Writes stage w n.1 := by
  cases h with
  | returned | escaped => exact .log (.same rfl) (hended ..)
  | failed | caught => exact .log (.log (.same rfl) (hended ..)) (hrendered ..)
  | captured h t d e =>
    cases e with
    | returned => exact .log (.same rfl) (hended ..)
    | failed | panicked => exact .log (.log (.same rfl) (hended ..)) (hrendered ..)
  | default | handler => exact .same rfl

/-- Every turn writes what is written at its stage. -/
theorem Turn.writes (h : Turn w me pick stack stage n) : Writes stage w n.1 := by
  cases h with
  | ended h => exact h.writes (fun _ _ _ => rfl) fun _ _ => rfl
  | broken h => exact h.writes (fun _ _ _ => rfl) fun _ _ => rfl
  | called guarded q k h => exact h.writes _
  | posted | submitted | launched | captured | surrendered | shut | filed | defaulted | alarmed | awaited =>
    exact .log (.same rfl) rfl
  | accepted => exact .log (.dropDisplaced (.same rfl) _ fun _ => rfl) rfl
  | refused m => exact .log (.drop (.same rfl) m rfl) rfl
  | taken m choice patient purpose =>
    cases purpose with
    | hold | yield | step | loop => exact .log (.same rfl) rfl
  | skipped m => exact .log (.same (w.forgo_journal m)) rfl
  | dropped m => exact .drop (.same rfl) m rfl
  | _ => exact .same rfl

end Thread

end Mailroom
