import Mailroom.Proofs.Arrival
import Mailroom.Proofs.Exit

/-!
# Mail that is run by mail

A body that yields runs a mail, whose body may yield again, to any depth (`Level`); and below all of them lies whoever runs the first body
(`Bottom`). When a body ends, the mail that it belongs to is done with, once and for all (`Consumed`), and whoever runs that mail learns
of it: nothing, if the mail was submitted, and else the failure or the panic. Apart from what is told to a handle, nothing that threads
share changes by that (`Notes`), whatever other threads do meanwhile.
-/

namespace Mailroom

variable {σ ν : Type}

/-! ## Levels -/

/-- The frame of the run of a mail; a panic of it is caught, or goes through. -/
def Tag.frame (g : Tag) (caught : Bool) : Frame σ ν :=
  match g.handle? with
  | none => .action g.ticket g.description caught
  | some h => .capture h g.ticket g.description

theorem Tag.frame_of_none {g : Tag} (h : g.handle? = none) (caught : Bool) :
    (g.frame caught : Frame σ ν) = .action g.ticket g.description caught := by
  simp [Tag.frame, h]

theorem Tag.frame_of_some {g : Tag} {i : HandleId} (h : g.handle? = some i) (caught : Bool) :
    (g.frame caught : Frame σ ν) = .capture i g.ticket g.description := by
  simp [Tag.frame, h]

theorem Tag.tag?_frame (g : Tag) (caught : Bool) : (g.frame caught : Frame σ ν).tag? = some g := by
  obtain ⟨ticket, description, handle?⟩ := g
  cases handle? <;> rfl

/-- A mail that a body runs by a yield, and the body, which goes on with the reply of the yield. -/
structure Level (σ ν : Type) where
  mail : Tag
  guarded : Bool
  threshold : Priority
  patient : Bool
  k : Reply ν → Body σ ν

/-- The frame of the body that yields. -/
def Level.caller (l : Level σ ν) : Frame σ ν := .caller l.guarded (.yield l.threshold l.patient) l.k

/-- What whoever runs a mail that was not submitted hears of the end of its action. -/
def Tag.heard (g : Tag) (caught : Bool) : Ending ν → Stage σ ν
  | .returned _ => .answer .done
  | .failed f => .answer (.failed (Thread.actionFailed g.description f))
  | .panicked p => if caught then .answer (.failed (Thread.actionPanicked g.description p)) else .unwind p

def Level.frames (l : Level σ ν) : List (Frame σ ν) := [l.mail.frame false, .yield l.patient, l.caller]

/-- The reply of a yield whose mail went well. -/
def yielded (patient : Bool) : Reply ν := if patient then .done else .flag true

/-- Where the body is that yielded to a mail that was not submitted, after the end of that. It catches a panic only if it guards its
call. -/
def Level.heard (l : Level σ ν) : Ending ν → Stage σ ν
  | .returned _ => .run (l.k (yielded l.patient))
  | .failed f => .run (l.k (.failed (Thread.actionFailed l.mail.description f)))
  | .panicked p => if l.guarded then .run (l.k (.panicked p)) else .unwind p

/-- Who runs the first body. -/
inductive Bottom where
  /-- The main loop (`whole`) or a step runs a mail. -/
  | serve (whole : Bool) (mail : Tag)
  /-- A yield does that none of these bodies made. -/
  | yield (patient : Bool) (mail : Tag)
  /-- A mail in hand is run. -/
  | run (mail : Tag)
  /-- The main loop calls the default action. -/
  | default

namespace Bottom

/-- The mail of the first body, unless that is the default action. -/
def mail? : Bottom → Option Tag
  | serve _ g => some g
  | yield _ g => some g
  | run g => some g
  | default => none

def frames : Bottom → List (Frame σ ν)
  | serve whole g => [g.frame true, .serve whole]
  | yield patient g => [g.frame false, .yield patient]
  | run g => [g.frame false]
  | default => [.default]

variable (base : List (Frame σ ν))

/-- Where the thread is when the first body has gone well. -/
def resumed : Bottom → Thread σ ν
  | serve whole _ => ⟨if whole then .consult else .answer (.flag true), base⟩
  | yield patient _ => ⟨.answer (yielded patient), base⟩
  | run _ => ⟨.answer .done, base⟩
  | default => ⟨.consult, base⟩

/-- Where the thread is when the first body has failed. -/
def failed (e : Failure) : Bottom → Thread σ ν
  | serve _ g => ⟨.abort (.fatal (Thread.actionFailed g.description e)), base⟩
  | yield _ g => ⟨.answer (.failed (Thread.actionFailed g.description e)), base⟩
  | run g => ⟨.answer (.failed (Thread.actionFailed g.description e)), base⟩
  | default => ⟨.abort (.fatal (.actionFailed Thread.defaultName e)), base⟩

/-- Where the thread is when the first body has panicked. -/
def panicked (p : Payload) : Bottom → Thread σ ν
  | serve _ g => ⟨.abort (.fatal (Thread.actionPanicked g.description p)), base⟩
  | yield _ _ => ⟨.unwind p, base⟩
  | run _ => ⟨.unwind p, base⟩
  | default => ⟨.abort (.fatal (.actionPanicked Thread.defaultName p.message)), base⟩

/-- Where the thread is when the first body, which is not that of a submitted mail, has ended. -/
def struck : Ending ν → Bottom → Thread σ ν
  | .returned _ => resumed base
  | .failed f => failed base f
  | .panicked p => panicked base p

end Bottom

/-- The frames of bodies that run one above the other, innermost first. -/
def nested (levels : List (Level σ ν)) (bottom : Bottom) (base : List (Frame σ ν)) : List (Frame σ ν) :=
  levels.flatMap Level.frames ++ (bottom.frames ++ base)

theorem nested_append (above below : List (Level σ ν)) (bottom : Bottom) (base : List (Frame σ ν)) :
    nested (above ++ below) bottom base = above.flatMap Level.frames ++ nested below bottom base := by
  rw [nested, nested, List.flatMap_append, List.append_assoc]

theorem nested_cons (l : Level σ ν) (levels : List (Level σ ν)) (bottom : Bottom) (base : List (Frame σ ν)) :
    nested (l :: levels) bottom base = l.frames ++ nested levels bottom base := by
  rw [nested, nested, List.flatMap_cons, List.append_assoc]

/-- A body above these frames ends: by itself, or by a panic that has come out of a call. -/
inductive Breaks (e : Ending ν) (stack : List (Frame σ ν)) : Thread σ ν → Prop where
  | ends : Breaks e stack ⟨.run (.finish e), stack⟩
  | panics (p : Payload) (h : e = .panicked p) : Breaks e stack ⟨.unwind p, stack⟩

theorem Breaks.stack {e : Ending ν} {stack : List (Frame σ ν)} {th : Thread σ ν} (h : Breaks e stack th) : th.stack = stack := by
  cases h with
  | ends | panics => rfl

namespace World

/-- The step changes nothing but the journal and the slot behind this handle. -/
def Notes (h? : Option HandleId) (a b : World σ ν) : Prop :=
  b.task = { a.task with
    journal := b.task.journal
    slots := b.task.slots } ∧ ∀ i : HandleId, h? ≠ some i → b.task.slots[i]? = a.task.slots[i]?

/-- The action of the mail has ended, the mail is gone, and its handle, if it has one, gives the outcome that goes with that end; and so it
stays. -/
structure Consumed (w : World σ ν) (g : Tag) (e : Ending ν) : Prop where
  ended : ∃ caught, .ended g.ticket e caught ∈ w.task.journal
  /-- The action began, and it does so once only. -/
  once : ∀ b, w.Reach b → b.task.begun.count g.ticket = 1
  gone : ∀ b, w.Reach b → ∀ m ∈ b.ledger.alive, m.ticket ≠ g.ticket
  told : ∀ b, w.Reach b → ∀ i, g.handle? = some i → ∃ s, b.task.slots[i]? = some s ∧ s.outcome = some (g.outcome e)

/-- The thread is about to end a body. -/
def AtEnd (w : World σ ν) (t : ThreadId) (e : Ending ν) (stack : List (Frame σ ν)) : Prop :=
  ∃ th, w.threads[t]? = some th ∧ Breaks e stack th

variable {a b w x : World σ ν} {t : ThreadId} {base stack rest : List (Frame σ ν)} {h? : Option HandleId} {i : HandleId} {e : Ending ν}
variable {f : Failure} {p : Payload} {g : Tag} {caught : Bool} {l : Level σ ν} {bottom : Bottom}

/-! ## Mail that is done with -/

theorem Consumed.reach (h : w.Consumed g e) (possible : w.Possible) (reach : w.Reach x) : x.Consumed g e :=
  ⟨h.ended.imp fun _ he => reach.mem_journal possible he, fun b hb => h.once b (reach.trans hb), fun b hb => h.gone b (reach.trans hb),
    fun b hb => h.told b (reach.trans hb)⟩

/-- What has become of a mail whose action has ended; a submitted mail has caught whatever there was to catch. -/
theorem Possible.life_of_ended (possible : w.Possible) {m : Letter σ ν} (offered : w.ledger.Offered m)
    (ended : .ended m.ticket e caught ∈ w.task.journal) : m ∉ w.ledger.alive ∧
      w.ledger.life m.ticket = [.ended m.ticket e caught, .started m.ticket] ∧ (m.handle? ≠ none → caught = true) := by
  have mem : .ended m.ticket e caught ∈ w.ledger.life m.ticket := (Ledger.mem_life rfl).mpr ended
  obtain ⟨dead, past⟩ := possible.good.sound.over offered mem nofun
  refine ⟨dead, ?_⟩
  generalize w.ledger.life m.ticket = life at mem past ⊢
  cases past with
  | dropped | skipped => cases List.mem_singleton.mp mem
  | ended how c hc =>
    cases List.mem_cons.mp mem with
    | inl he => cases he; exact ⟨rfl, hc⟩
    | inr he => cases List.mem_singleton.mp he

/-- A mail whose action has ended is done with. -/
theorem Possible.consumed (possible : w.Possible) (offered : ∃ m, w.ledger.Offered m ∧ m.tag = g)
    (ended : .ended g.ticket e caught ∈ w.task.journal) : w.Consumed g e := by
  obtain ⟨m, hm, rfl⟩ := offered
  have later : ∀ {b}, w.Reach b → b.ledger.Offered m ∧ b.Possible ∧ .ended m.ticket e caught ∈ b.task.journal := fun hb =>
    ⟨hb.offered possible hm, possible.reach hb, hb.mem_journal possible ended⟩
  refine ⟨⟨caught, ended⟩, fun b hb => ?_, fun b hb m' hm' same => ?_, fun b hb i hi => ?_⟩
  · obtain ⟨offered, possible, ended⟩ := later hb
    obtain ⟨-, life, -⟩ := possible.life_of_ended offered ended
    have started : .started m.ticket ∈ b.ledger.life m.ticket := by rw [life]; exact List.mem_cons_of_mem _ List.mem_cons_self
    refine List.count_eq_one_of_mem possible.begun_nodup ?_
    exact List.mem_filterMap.mpr ⟨_, List.mem_reverse.mpr ((Ledger.mem_life rfl).mp started), rfl⟩
  · obtain ⟨offered, possible, ended⟩ := later hb
    have sound := possible.good.sound
    exact (possible.life_of_ended offered ended).1 (sound.ticket_inj m' m (sound.offered m' hm') offered same ▸ hm')
  · obtain ⟨offered, possible, ended⟩ := later hb
    obtain ⟨-, life, -⟩ := possible.life_of_ended offered ended
    obtain ⟨s, hs, outcome⟩ := possible.good.sound.slot m i offered hi
    exact ⟨s, hs, by rw [outcome, life]; rfl⟩

/-- A mail whose action a thread is running was put into the mailbox. -/
theorem Possible.offered_of_frame (possible : w.Possible) {th : Thread σ ν} (hx : w.threads[t]? = some th)
    (mem : g.frame caught ∈ th.stack) : ∃ m, w.ledger.Offered m ∧ m.tag = g := by
  refine possible.good.sound.offered_running g ?_
  exact List.mem_flatMap.mpr ⟨th, List.mem_of_getElem? hx, List.mem_filterMap.mpr ⟨_, mem, g.tag?_frame caught⟩⟩

/-! ## The end of one body -/

theorem notes_of_journal (f : Task σ ν → Task σ ν) (h : ∀ task, f task = { task with journal := (f task).journal }) (a b : World σ ν)
    (task : b.task = f a.task) : Notes h? a b := by
  rw [Notes, task, h a.task]
  exact ⟨rfl, fun _ _ => rfl⟩

/-- A body ends, and the innermost frame, which lets no panic pass by itself, learns how. -/
theorem AtEnd.next {P : World σ ν → Prop} (h : w.AtEnd t e stack) (possible : w.Possible) (f : Task σ ν → Task σ ν) {th : Thread σ ν}
    (unwind : ∀ task p, Thread.stepUnwind task p stack = Thread.stepEnd task (.panicked p) stack)
    (step : ∀ task, Thread.stepEnd task e stack = some (f task, th)) (fine : ∀ a b : World σ ν, b.task = f a.task → Notes h? a b)
    (rest : ∀ a b : World σ ν, w.Reach b → b.task = f a.task → b.threads[t]? = some th → P b) :
    w.Arrives t (·.Able t) (Notes h?) P := by
  obtain ⟨_, hx, breaks⟩ := h
  cases breaks with
  | ends => exact .next f possible hx rfl rfl (fun task _ => step task) fine fun a b reach task hb => .here (rest a b reach task hb)
  | panics p he =>
    subst he
    exact .next f possible hx rfl rfl (fun task _ => (unwind task p).trans (step task)) fine fun a b reach task hb =>
      .here (rest a b reach task hb)

/-- The body of a mail ends whose frame keeps the end in the journal, and the mail is done with. -/
theorem AtEnd.consumes (h : w.AtEnd t e (g.frame caught :: stack)) (possible : w.Possible) (c : Bool)
    (f : Task σ ν → Task σ ν) {th : Thread σ ν} (step : ∀ task, Thread.stepEnd task e (g.frame caught :: stack) = some (f task, th))
    (ended : ∀ task, .ended g.ticket e c ∈ (f task).journal) (fine : ∀ a b : World σ ν, b.task = f a.task → Notes h? a b) :
    w.Arrives t (·.Able t) (Notes h?) fun x => x.Consumed g e ∧ x.threads[t]? = some th := by
  have offered : ∃ m, w.ledger.Offered m ∧ m.tag = g := by
    obtain ⟨th, hx, breaks⟩ := h
    exact possible.offered_of_frame hx (breaks.stack ▸ List.mem_cons_self)
  refine h.next possible f (fun task p => ?_) step fine fun a b reach task hb => ⟨?_, hb⟩
  · obtain ⟨ticket, description, handle?⟩ := g
    cases handle? <;> rfl
  · obtain ⟨m, hm, hg⟩ := offered
    have offered : ∃ m, b.ledger.Offered m ∧ m.tag = g := ⟨m, reach.offered possible hm, hg⟩
    exact (possible.reach reach).consumed offered (by rw [task]; exact ended a.task)

/-- The action of a submitted mail ends: whoever runs the mail sees it go well. -/
theorem AtEnd.submitted (h : w.AtEnd t e (g.frame caught :: stack)) (possible : w.Possible) (submitted : g.handle? = some i) :
    w.Arrives t (·.Able t) (Notes (some i)) fun x => x.Consumed g e ∧ x.threads[t]? = some ⟨.answer .done, stack⟩ := by
  have resolved : ∀ (task : Task σ ν), ∃ (o : Outcome ν) (journal : List (Occurrence σ ν)),
      Thread.endCapture (task.log (.ended g.ticket e true)) i g.ticket g.description e =
        { task with
          journal := journal
          slots := task.slots.modify i (·.resolve o) } ∧ .ended g.ticket e true ∈ journal := by
    intro task
    cases e with
    | returned v => exact ⟨_, _, rfl, List.mem_cons_self⟩
    | failed f => exact ⟨_, _, rfl, List.mem_cons_of_mem _ List.mem_cons_self⟩
    | panicked p => exact ⟨_, _, rfl, List.mem_cons_of_mem _ List.mem_cons_self⟩
  refine h.consumes possible true (fun task => Thread.endCapture (task.log (.ended g.ticket e true)) i g.ticket g.description e)
    (fun _ => by rw [g.frame_of_some submitted]; rfl) (fun task => ?_) fun a b task => ?_
  · obtain ⟨o, journal, hf, mem⟩ := resolved task
    rw [hf]
    exact mem
  · obtain ⟨o, journal, hf, -⟩ := resolved a.task
    rw [Notes, task, hf]
    exact ⟨rfl, fun l hl => List.getElem?_modify_ne _ _ fun hjl => hl (congrArg some hjl)⟩

/-- The action of another mail ends: whoever runs the mail hears of it. -/
theorem AtEnd.plain (h : w.AtEnd t e (g.frame caught :: stack)) (possible : w.Possible) (plain : g.handle? = none) :
    w.Arrives t (·.Able t) (Notes h?) fun x => x.Consumed g e ∧ x.threads[t]? = some ⟨g.heard caught e, stack⟩ := by
  have step : ∀ (task : Task σ ν), ∃ journal, .ended g.ticket e caught ∈ journal ∧
      Thread.stepEnd task e (g.frame caught :: stack) = some ({ task with journal := journal }, ⟨g.heard caught e, stack⟩) := by
    intro task
    rw [g.frame_of_none plain]
    cases e with
    | returned v => exact ⟨_, List.mem_cons_self, rfl⟩
    | failed f => exact ⟨_, List.mem_cons_of_mem _ List.mem_cons_self, rfl⟩
    | panicked p =>
      cases caught with
      | true => exact ⟨_, List.mem_cons_of_mem _ List.mem_cons_self, rfl⟩
      | false => exact ⟨_, List.mem_cons_self, rfl⟩
  choose journal mem step using step
  refine h.consumes possible caught _ step mem (notes_of_journal (fun task => { task with journal := journal task }) fun _ => rfl)

/-- From there the thread takes a step by which nothing changes but its place. -/
theorem Arrives.on {stage : Stage σ ν} {th : Thread σ ν}
    (h : w.Arrives t (·.Able t) (Notes h?) fun x => x.Consumed g e ∧ x.threads[t]? = some ⟨stage, stack⟩) (possible : w.Possible)
    (take : stage.isTake = false) (retrying : stage.isRetrying = false)
    (step : ∀ task pick, Thread.stepStage task t pick stack stage = some (task, th)) :
    w.Arrives t (·.Able t) (Notes h?) fun x => x.Consumed g e ∧ x.threads[t]? = some th := by
  refine h.trans fun x reach ⟨consumed, hx⟩ => ?_
  refine .next id (possible.reach reach) hx take retrying step (notes_of_journal id fun _ => rfl) fun _ y hy _ hth => .here ⟨?_, hth⟩
  exact consumed.reach (possible.reach reach) hy

/-! ## One level -/

/-- The body that yielded to a submitted mail goes on, however that mail ended. -/
theorem AtEnd.level_submitted (h : w.AtEnd t e (l.frames ++ rest)) (possible : w.Possible) (submitted : l.mail.handle? = some i) :
    w.Arrives t (·.Able t) (Notes (some i)) fun x => x.Consumed l.mail e ∧ x.threads[t]? = some ⟨.run (l.k (yielded l.patient)), rest⟩ := by
  have done := AtEnd.submitted h possible submitted
  have reply := done.on possible rfl rfl fun _ _ => rfl
  exact reply.on possible rfl rfl fun _ _ => rfl

/-- The body that yielded to another mail hears of the end of that. -/
theorem AtEnd.level_plain (h : w.AtEnd t e (l.frames ++ rest)) (possible : w.Possible) (plain : l.mail.handle? = none) :
    w.Arrives t (·.Able t) (Notes h?) fun x => x.Consumed l.mail e ∧ x.threads[t]? = some ⟨l.heard e, rest⟩ := by
  have heard : w.Arrives t (·.Able t) (Notes h?) fun x => _ ∧ _ := AtEnd.plain h possible plain
  cases e with
  | returned v =>
    have reply := heard.on possible rfl rfl fun _ _ => rfl
    exact reply.on possible rfl rfl fun _ _ => rfl
  | failed f =>
    have reply := heard.on possible rfl rfl fun _ _ => rfl
    exact reply.on possible rfl rfl fun _ _ => rfl
  | panicked p =>
    have reply := heard.on possible rfl rfl fun _ _ => rfl
    refine reply.on possible rfl rfl fun task _ => ?_
    rw [Level.caller, Level.heard]
    cases l.guarded <;> rfl

/-! ## The bottom -/

/-- A submitted mail at the bottom ends: whoever runs it goes on. -/
theorem AtEnd.bottom_submitted (h : w.AtEnd t e (bottom.frames ++ base)) (possible : w.Possible) (mail : bottom.mail? = some g)
    (submitted : g.handle? = some i) :
    w.Arrives t (·.Able t) (Notes (some i)) fun x => x.Consumed g e ∧ x.threads[t]? = some (bottom.resumed base) := by
  cases bottom with
  | serve whole g' =>
    cases mail
    exact (AtEnd.submitted h possible submitted).on possible rfl rfl fun _ _ => rfl
  | yield patient g' =>
    cases mail
    exact (AtEnd.submitted h possible submitted).on possible rfl rfl fun _ _ => rfl
  | run g' =>
    cases mail
    exact AtEnd.submitted h possible submitted
  | default => cases mail

/-- Another mail at the bottom ends: whoever runs it hears of that. -/
theorem AtEnd.bottom_plain (h : w.AtEnd t e (bottom.frames ++ base)) (possible : w.Possible) (mail : bottom.mail? = some g)
    (plain : g.handle? = none) :
    w.Arrives t (·.Able t) (Notes h?) fun x => x.Consumed g e ∧ x.threads[t]? = some (bottom.struck base e) := by
  cases bottom with
  | serve whole g' =>
    cases mail
    have heard : w.Arrives t (·.Able t) (Notes h?) fun x => _ ∧ _ := AtEnd.plain h possible plain
    cases e with
    | returned | failed | panicked => exact heard.on possible rfl rfl fun _ _ => rfl
  | yield patient g' =>
    cases mail
    have heard : w.Arrives t (·.Able t) (Notes h?) fun x => _ ∧ _ := AtEnd.plain h possible plain
    cases e with
    | returned | failed | panicked => exact heard.on possible rfl rfl fun _ _ => rfl
  | run g' =>
    cases mail
    have heard : w.Arrives t (·.Able t) (Notes h?) fun x => _ ∧ _ := AtEnd.plain h possible plain
    cases e with
    | returned | failed | panicked => exact heard
  | default => cases mail

/-- The body at the bottom ends, which may be the default action, but not that of a submitted mail. -/
theorem AtEnd.bottom_struck (h : w.AtEnd t e (bottom.frames ++ base)) (possible : w.Possible)
    (plain : ∀ g ∈ bottom.mail?, g.handle? = none) : w.Arrives t (·.Able t) (Notes h?) fun x =>
      (∀ g ∈ bottom.mail?, x.Consumed g e) ∧ x.threads[t]? = some (bottom.struck base e) := by
  cases mail : bottom.mail? with
  | some g =>
    refine (h.bottom_plain possible mail (plain g mail)).imp fun x _ ⟨consumed, hx⟩ => ⟨?_, hx⟩
    rintro _ ⟨⟩
    exact consumed
  | none =>
    cases bottom with
    | serve | yield | run => cases mail
    | default =>
      refine AtEnd.next h possible id (fun _ _ => rfl) (fun task => ?_) (notes_of_journal id fun _ => rfl) fun _ b _ _ hb => ⟨nofun, hb⟩
      cases e with
      | returned | failed | panicked => rfl

end World

end Mailroom
