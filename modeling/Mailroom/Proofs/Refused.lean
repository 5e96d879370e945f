import Mailroom.Proofs.Calls

/-!
# Mail that is turned away

A put that fails leaves everything as it is, but for the mail: that is dropped, and its action never begins (`Possible.turned_away`).
-/

namespace Mailroom

variable {σ ν : Type}

/-- The body begins by putting a mail into the mailbox: a new one, or one that is in hand. -/
def Body.isPut : Body σ ν → Bool
  | .post .. => true
  | .submit .. => true
  | .call _ (.putBack _) _ => true
  | _ => false

/-- The mail that such a body puts into the mailbox. -/
inductive Body.Puts : Body σ ν → Letter σ ν → Prop where
  | post (envelope : Envelope) (action : Body σ ν) (k : Reply ν → Body σ ν) (m : Letter σ ν) (visible : m.toEnvelope = envelope)
    (work : m.action.work = .run action) : Puts (.post envelope action k) m
  | submit (description : Description) (priority : Priority) (action : Body σ ν) (k : Reply ν → Body σ ν) (m : Letter σ ν)
    (h : HandleId) (visible : m.toEnvelope = { description, priority }) (work : m.action.work = .capture h action) :
    Puts (.submit description priority action k) m
  | putBack (guarded : Bool) (t : Ticket) (k : Reply ν → Body σ ν) (m : Letter σ ν) (ticket : m.ticket = t) :
    Puts (.call guarded (.putBack t) k) m

namespace World

/-- The step leaves everything as it is, but for the mail `m`, its handle, and who is asleep at the mailbox. -/
structure Spares (m : Letter σ ν) (x y : World σ ν) : Prop where
  mailbox : y.task.mailbox.wakeAll = x.task.mailbox.wakeAll
  processor : y.task.processor = x.task.processor
  client : y.task.client = x.task.client
  slots : ∀ i, m.handle? ≠ some i → y.task.slots[i]? = x.task.slots[i]?
  hand : y.task.hand = x.task.hand ∨ x.task.hand.Perm (m :: y.task.hand)

/-- What is so in the world `b` of a put of the mail `m` that has failed, and that was about to be made in the world `w`. -/
structure TurnedAway (w : World σ ν) (t : ThreadId) (base : List (Frame σ ν)) (m : Letter σ ν) (b : World σ ν) : Prop where
  /-- No step of the put changes anything else. -/
  spares : ∀ x y, OwnStep t base w b x y → Spares m x y
  /-- By the last step of the put the mail is dropped, and the mailbox has turned it away. -/
  dropped : ∃ x, OwnStep t base w b x b ∧ b.task = (x.task.drop m).log (.refused m t)
  /-- Its action never begins, and the mail is nowhere any more. -/
  never : ∀ c, b.Reach c → m.ticket ∉ c.task.begun ∧ ∀ m' ∈ c.ledger.alive, m'.ticket ≠ m.ticket

variable {a b w x y : World σ ν} {t : ThreadId} {pick : Nat} {th : Thread σ ν} {n : Next σ ν} {base stack : List (Frame σ ν)}
  {m : Letter σ ν} {slept : Bool} {receipt : Receipt} {e : Failure} {body : Body σ ν} {f : Frame σ ν}

/-! ## The first step -/

/-- The first step of a put: the mail is there to be offered, or there is none. -/
theorem Stepped.puts (hs : Stepped x t pick ⟨.run body, stack⟩ n y) (put : body.isPut = true) (frame : body.frame? = some f) :
    n.2 = ⟨.answer .unavailable, f :: stack⟩ ∨
      ∃ m receipt, body.Puts m ∧ receipt ≠ .silent ∧ n.2 = ⟨.offer m false receipt, f :: stack⟩ ∧ Spares m x y := by
  have hstep := hs.step
  have task := hs.task
  cases body with
  | post envelope action k =>
    cases frame
    cases hstep
    refine .inr ⟨_, .plain, .post envelope action k _ rfl rfl, nofun, rfl, ?_⟩
    exact ⟨by rw [task]; rfl, by rw [task]; rfl, by rw [task]; rfl, fun i _ => by rw [task]; rfl, .inl (by rw [task]; rfl)⟩
  | submit description priority action k =>
    cases frame
    cases hstep
    refine .inr ⟨_, .handle x.task.slots.length, .submit description priority action k _ _ rfl rfl, nofun, rfl, ?_⟩
    refine ⟨by rw [task]; rfl, by rw [task]; rfl, by rw [task]; rfl, fun i other => ?_, .inl (by rw [task]; rfl)⟩
    have ne : i ≠ x.task.slots.length := fun hi => other (congrArg some hi.symm)
    rw [task]
    change (x.task.slots ++ [({} : Slot ν)])[i]? = _
    rcases Nat.lt_or_gt_of_ne ne with lt | gt
    · exact List.getElem?_append_left lt
    · rw [List.getElem?_eq_none (by rw [List.length_append]; exact gt), List.getElem?_eq_none (Nat.le_of_lt gt)]
  | call guarded q k =>
    cases q with
    | putBack ticket =>
      cases frame
      simp only [Thread.stepStage, Thread.stepBody, Thread.call, Thread.withHeld] at hstep
      cases held : x.task.held? ticket with
      | none =>
        rw [held] at hstep
        cases hstep
        exact .inl rfl
      | some m =>
        rw [held] at hstep
        cases hstep
        obtain ⟨perm, ticket⟩ := Task.hand_perm_of_held? held
        refine .inr ⟨m, .plain, .putBack guarded _ k m ticket, nofun, rfl, ?_⟩
        exact ⟨by rw [task]; rfl, by rw [task]; rfl, by rw [task]; rfl, fun i _ => by rw [task]; rfl, .inr (by rw [task]; exact perm)⟩
    | _ => cases put
  | _ => cases put

/-! ## The offer -/

/-- A step of a thread that offers a mail, and is told if that is turned away. -/
theorem Stepped.offers (hs : Stepped x t pick ⟨.offer m slept receipt, base⟩ n y) (told : receipt ≠ .silent) :
    (n.2 = ⟨.offer m true receipt, base⟩ ∧ Spares m x y) ∨ (∃ r : Reply ν, n.2 = ⟨.answer r, base⟩ ∧ ∀ e, r ≠ .failed e) ∨
      ∃ why, n.2 = ⟨.answer (.failed why), base⟩ ∧ y.task = (x.task.drop m).log (.refused m t) ∧ Spares m x y := by
  have turn := hs.turn
  have task := hs.task
  cases turn with
  | waited =>
    refine .inl ⟨rfl, ?_⟩
    exact ⟨by rw [task]; rfl, by rw [task], by rw [task], fun i _ => by rw [task], .inl (by rw [task])⟩
  | accepted =>
    refine .inr (.inl ⟨_, rfl, fun e => ?_⟩)
    cases receipt with
    | plain | handle | silent => nofun
  | refused _ _ _ why =>
    refine .inr (.inr ⟨why, ?_, task, ?_⟩)
    · cases receipt with
      | silent => exact absurd rfl told
      | plain | handle => rfl
    · refine ⟨by rw [task]; simp, by rw [task]; simp, ?_, fun i other => ?_, .inl (by rw [task]; simp)⟩
      · rw [task]
        change (x.task.forgo m).client = _
        unfold Task.forgo
        split <;> rfl
      · rw [task]
        change (x.task.forgo m).slots[i]? = _
        unfold Task.forgo
        split
        · rename_i j hj
          exact List.getElem?_modify_ne _ _ fun hji => other (hji ▸ hj)
        · rfl

/-- A thread that stands at such an offer still does so later, or has its reply. -/
theorem During.offering (h : w.During t base b) (told : receipt ≠ .silent) (hx : w.threads[t]? = some ⟨.offer m slept receipt, base⟩) :
    (∃ slept, b.threads[t]? = some ⟨.offer m slept receipt, base⟩) ∨ (∃ r, b.threads[t]? = some ⟨.answer r, base⟩) := by
  rcases h.leaves (S := fun th => ∃ slept, th = ⟨.offer m slept receipt, base⟩) ⟨_, hx, slept, rfl⟩ with
    ⟨_, hb, slept, rfl⟩ | ⟨x, pick, _, n, y, own, hs, ⟨slept, rfl⟩, outside⟩
  · exact .inl ⟨slept, hb⟩
  · rcases hs.offers told with ⟨hn, -⟩ | ⟨r, hn, -⟩ | ⟨why, hn, -⟩
    · exact absurd ⟨true, hn⟩ outside
    · have back : y.threads[t]? = some ⟨.answer r, base⟩ := hn ▸ hs.own
      exact .inr ⟨r, own.after.eq_of_back (.inl ⟨r, back⟩) ▸ back⟩
    · have back : y.threads[t]? = some ⟨.answer (.failed why), base⟩ := hn ▸ hs.own
      exact .inr ⟨_, own.after.eq_of_back (.inl ⟨_, back⟩) ▸ back⟩

/-- An offer that has failed was turned away by the last step. -/
theorem During.refused (h : w.During t base b) (told : receipt ≠ .silent) (hx : w.threads[t]? = some ⟨.offer m slept receipt, base⟩)
    (back : b.threads[t]? = some ⟨.answer (.failed e), base⟩) :
    ∃ x slept, OwnStep t base w b x b ∧ x.threads[t]? = some ⟨.offer m slept receipt, base⟩ ∧
      b.task = (x.task.drop m).log (.refused m t) := by
  rcases h.leaves (S := fun th => ∃ slept, th = ⟨.offer m slept receipt, base⟩) ⟨_, hx, slept, rfl⟩ with
    ⟨_, hb, slept, rfl⟩ | ⟨x, pick, _, n, y, own, hs, ⟨slept, rfl⟩, outside⟩
  · cases hb.symm.trans back
  · rcases hs.offers told with ⟨hn, -⟩ | ⟨r, hn, well⟩ | ⟨why, hn, task, -⟩
    · exact absurd ⟨true, hn⟩ outside
    · have back' : y.threads[t]? = some ⟨.answer r, base⟩ := hn ▸ hs.own
      obtain rfl := own.after.eq_of_back (.inl ⟨r, back'⟩)
      cases back.symm.trans back'
      exact absurd rfl (well e)
    · have back' : y.threads[t]? = some ⟨.answer (.failed why), base⟩ := hn ▸ hs.own
      obtain rfl := own.after.eq_of_back (.inl ⟨_, back'⟩)
      exact ⟨x, slept, own, hs.thread, task⟩

/-! ## The whole put -/

/-- The action of a mail that was dropped never begins. -/
theorem Possible.never (possible : w.Possible) (offered : w.ledger.Offered m) (dropped : .dropped m.ticket ∈ w.task.journal)
    (reach : w.Reach b) : m.ticket ∉ b.task.begun ∧ ∀ m' ∈ b.ledger.alive, m'.ticket ≠ m.ticket := by
  have offered := reach.offered possible offered
  have sound := (possible.reach reach).good.sound
  have mem : .dropped m.ticket ∈ b.ledger.life m.ticket := (Ledger.mem_life rfl).mpr (reach.mem_journal possible dropped)
  obtain ⟨dead, past⟩ := sound.over offered mem nofun
  refine ⟨fun begun => ?_, fun m' hm' same => dead (sound.ticket_inj m' m (sound.offered m' hm') offered same ▸ hm')⟩
  obtain ⟨o, ho, hbegan⟩ := mem_history.mp begun
  cases o with
  | started ticket =>
    cases hbegan
    have started : .started m.ticket ∈ b.ledger.life m.ticket := (Ledger.mem_life rfl).mpr ho
    generalize b.ledger.life m.ticket = life at past mem started
    cases past with
    | dropped | skipped => cases List.mem_singleton.mp started
    | ended => simp at mem
  | _ => cases hbegan

namespace Replied

/-- The first step of a put that fails: the mail is there to be offered, and the last step drops it. -/
theorem first_step (h : w.Replied t body f stack (.failed e) b) (put : body.isPut = true)
    (hs : Stepped x t pick ⟨.run body, stack⟩ n y) (after : y.During t (f :: stack) b) :
    ∃ m receipt, body.Puts m ∧ receipt ≠ .silent ∧ y.threads[t]? = some ⟨.offer m false receipt, f :: stack⟩ ∧ Spares m x y ∧
      ∃ z slept, OwnStep t (f :: stack) y b z b ∧ z.threads[t]? = some ⟨.offer m slept receipt, f :: stack⟩ ∧
        b.task = (z.task.drop m).log (.refused m t) := by
  rcases hs.puts put h.frame with hn | ⟨m, receipt, puts, told, hn, spares⟩
  · cases after.reply_eq (hn ▸ hs.own) h.back
  · have hy : y.threads[t]? = some ⟨.offer m false receipt, f :: stack⟩ := hn ▸ hs.own
    exact ⟨m, receipt, puts, told, hy, spares, after.refused told hy h.back⟩

/-- No step of a put that fails changes anything but for the mail that is dropped in the end. -/
theorem spares (h : w.Replied t body f stack (.failed e) b) (put : body.isPut = true)
    (task : b.task = (x.task.drop m).log (.refused m t)) {x' y' : World σ ν} (own : OwnStep t (f :: stack) w b x' y') :
    Spares m x' y' := by
  -- The mail of every step is the same, since the journal ends with the refusal of it.
  have same : ∀ {m' : Letter σ ν} {z : World σ ν}, b.task = (z.task.drop m').log (.refused m' t) → m' = m := by
    intro m' z task'
    have hj := congrArg Task.journal (task'.symm.trans task)
    exact (Occurrence.refused.inj (List.cons.inj hj).1).1
  obtain ⟨pick, step⟩ := own.step
  obtain ⟨th, n, hs⟩ := step?_eq_some step
  rcases own.before.leaves (S := fun th => th = ⟨.run body, stack⟩) ⟨_, h.call, rfl⟩ with
    ⟨_, hx, rfl⟩ | ⟨x₁, pick₁, _, n₁, y₁, own₁, hs₁, rfl, -⟩
  · obtain rfl : th = ⟨.run body, stack⟩ := Option.some.inj (hs.thread.symm.trans hx)
    obtain ⟨m', _, -, -, -, spares, _, _, -, -, task'⟩ := h.first_step put hs own.after
    exact same task' ▸ spares
  · obtain ⟨m', receipt, -, told, hy, -, _, _, -, -, task'⟩ := h.first_step put hs₁ (own₁.after.trans own.rest)
    obtain rfl := same task'
    rcases own₁.after.offering told hy with ⟨slept, hx⟩ | ⟨r, hx⟩
    · obtain rfl : th = ⟨.offer m' slept receipt, f :: stack⟩ := Option.some.inj (hs.thread.symm.trans hx)
      rcases hs.offers told with ⟨-, spares⟩ | ⟨r, hn, well⟩ | ⟨_, -, -, spares⟩
      · exact spares
      · exact absurd (own.after.reply_eq (hn ▸ hs.own) h.back).symm (well e)
      · exact spares
    · exact absurd (.inl ⟨r, hx⟩) own.away

end Replied

/-- A put that has failed has changed nothing, and its mail is gone. -/
theorem Possible.turned_away (possible : w.Possible) (put : body.isPut = true) (h : w.Replied t body f stack (.failed e) b) :
    ∃ m, body.Puts m ∧ w.TurnedAway t (f :: stack) m b := by
  obtain ⟨x, pick, n, y, own, hs⟩ := h.during.next_own (.inl ⟨_, h.back⟩) h.call (not_isBack_of_stage h.call rfl)
  obtain ⟨m, receipt, puts, -, -, -, z, slept, last, hz, task⟩ := h.first_step put hs own.after
  refine ⟨m, puts, fun x' y' => h.spares put task, ⟨z, last.later own.during, task⟩, fun c hc => ?_⟩
  have possible : z.Possible := possible.reach (own.during.trans last.before).reach
  have alive : m ∈ z.ledger.alive :=
    List.mem_append_left _ (List.mem_flatMap.mpr ⟨_, List.mem_of_getElem? hz, List.mem_singleton_self m⟩)
  have offered := last.rest.reach.offered possible (possible.good.sound.offered m alive)
  refine (possible.reach last.rest.reach).never offered ?_ hc
  rw [task]
  exact List.mem_cons_of_mem _ List.mem_cons_self

end World

end Mailroom
