import Mailroom.Proofs.Catching
import Mailroom.Proofs.Outcome

/-!
# When descriptions are rendered

The description of a mail is rendered each time somebody asks for it, and once more if the action of the mail fails, or panics and that is
caught (`rendered_on_demand`). Renderings and the reasons for them are counted step by step (`Possible.reckoned`); how often an action fails
is read off the life of the mail, in which an action ends at most once.
-/

namespace Mailroom

variable {σ ν : Type}

namespace Occurrence

/-- Somebody asked for the description of the mail. -/
def isViewOf (t : Ticket) : Occurrence σ ν → Bool
  | viewed t' => t' = t
  | _ => false

/-- The action of the mail failed, or it panicked and whoever ran the mail caught that. -/
def isFailureOf (t : Ticket) : Occurrence σ ν → Bool
  | ended t' how caught => t' = t && how.isFailure caught
  | _ => false

/-- The counted arguments that were formatted when the description of the mail was rendered. -/
def renderingOf? (t : Ticket) : Occurrence σ ν → Option (List String)
  | rendered t' names => if t' = t then some names else none
  | _ => none

end Occurrence

namespace Task

/-- How often somebody asked for the description of the mail. -/
def views (w : Task σ ν) (t : Ticket) : Nat := w.showings.countP (·.isViewOf t)

/-- How often the action of the mail failed, or panicked and whoever ran the mail caught that. -/
def failures (w : Task σ ν) (t : Ticket) : Nat := w.showings.countP (·.isFailureOf t)

/-- The renderings of the mail's description, oldest first: which counted arguments each of them formatted. -/
def renderings (w : Task σ ν) (t : Ticket) : List (List String) := history (Occurrence.renderingOf? t) w.showings

end Task

/-! ## Renderings are called for -/

namespace World

variable {a b w : World σ ν} {t : ThreadId} {pick : Nat} {th : Thread σ ν} {n : Next σ ν} {m : Letter σ ν} {how : Ending ν}
variable {caught : Bool}

/-- A description was rendered as often as somebody asked for it or the action failed, and each time it was the description of the mail. -/
structure Reckoned (w : World σ ν) : Prop where
  number : ∀ t, (w.task.renderings t).length = w.task.views t + w.task.failures t
  content : ∀ t, ∀ names ∈ w.task.renderings t, ∃ m, w.ledger.Offered m ∧ m.ticket = t ∧ names = m.description.formatted

/-- Nothing was rendered, and there was no reason to. -/
theorem Reckoned.same (h : Reckoned a) (offered : ∀ m, a.ledger.Offered m → b.ledger.Offered m)
    (views : ∀ t, b.task.views t = a.task.views t) (failures : ∀ t, b.task.failures t = a.task.failures t)
    (renderings : ∀ t, b.task.renderings t = a.task.renderings t) : Reckoned b := by
  refine ⟨fun t => ?_, fun t names mem => ?_⟩
  · rw [renderings, views, failures, h.number]
  · rw [renderings] at mem
    exact (h.content t names mem).imp fun m hm => ⟨offered m hm.1, hm.2⟩

/-- One more rendering, and one reason for it. -/
theorem Reckoned.rendered (h : Reckoned a) (hm : b.ledger.Offered m) (offered : ∀ m, a.ledger.Offered m → b.ledger.Offered m)
    {e : Occurrence σ ν} (showings : b.task.showings = .rendered m.ticket m.description.formatted :: e :: a.task.showings)
    (reason : ∀ t, (if e.isViewOf t then 1 else 0) + (if e.isFailureOf t then 1 else 0) = if m.ticket = t then 1 else 0)
    (silent : ∀ t, e.renderingOf? t = none) : Reckoned b := by
  have renderings : ∀ t, b.task.renderings t =
      a.task.renderings t ++ (if m.ticket = t then [m.description.formatted] else []) := by
    intro t
    rw [Task.renderings, showings, history_cons, history_cons_of_none (silent t), Task.renderings, Occurrence.renderingOf?]
    split <;> rfl
  refine ⟨fun t => ?_, fun t names mem => ?_⟩
  · have views : b.task.views t = a.task.views t + if e.isViewOf t then 1 else 0 := by
      rw [Task.views, showings, List.countP_cons_of_neg Bool.false_ne_true, List.countP_cons, Task.views]
    have failures : b.task.failures t = a.task.failures t + if e.isFailureOf t then 1 else 0 := by
      rw [Task.failures, showings, List.countP_cons_of_neg Bool.false_ne_true, List.countP_cons, Task.failures]
    have one : (if m.ticket = t then [m.description.formatted] else []).length = if m.ticket = t then 1 else 0 := by
      split <;> rfl
    rw [renderings, List.length_append, one, ← reason t, h.number, views, failures]
    omega
  · rw [renderings, List.mem_append] at mem
    rcases mem with mem | mem
    · exact (h.content t names mem).imp fun m hm => ⟨offered m hm.1, hm.2⟩
    · split at mem
      · exact ⟨m, hm, ‹_›, List.mem_singleton.mp mem⟩
      · cases mem

/-- In every world that is possible the renderings are the ones that were called for. -/
theorem Possible.reckoned (possible : w.Possible) : Reckoned w := by
  refine possible.invariant ?_ ?_ fun _ ih => ⟨ih.number, ih.content⟩
  · intro config owner defaultAction handler client programs
    exact ⟨fun _ => rfl, fun _ _ mem => by cases mem⟩
  · intro a t pick th n b possible ih hs
    have kept : ∀ m, a.ledger.Offered m → b.ledger.Offered m := fun _ => (Reach.here.step hs.step?_eq).offered possible
    have shows := hs.turn.shows
    rw [← hs.task] at shows
    cases shows with
    | nothing showings =>
      exact ih.same kept (fun t => by rw [Task.views, showings, Task.views]) (fun t => by rw [Task.failures, showings, Task.failures])
        fun t => by rw [Task.renderings, showings, Task.renderings]
    | viewed m held journal =>
      have alive : m ∈ a.ledger.alive := List.mem_append_right _ (List.mem_append_right _ held)
      refine ih.rendered (kept m (possible.good.sound.offered m alive)) kept (e := .viewed m.ticket) ?_ (fun t => ?_) fun _ => rfl
      · rw [Task.showings, journal]
        rfl
      · simp [Occurrence.isViewOf, Occurrence.isFailureOf]
    | ended g how caught rest frame journal =>
      obtain ⟨m, hm, rfl⟩ := possible.offered_of_frame hs.thread (frame ▸ List.mem_cons_self)
      cases failure : how.isFailure caught with
      | true =>
        refine ih.rendered (kept m hm) kept (e := .ended m.ticket how caught) ?_ (fun t => ?_) fun _ => rfl
        · rw [Task.showings, journal, failure]
          rfl
        · simp [Occurrence.isViewOf, Occurrence.isFailureOf, failure]
      | false =>
        have showings : b.task.showings = .ended m.ticket how caught :: a.task.showings := by
          rw [Task.showings, journal, failure]
          rfl
        refine ih.same kept (fun t => ?_) (fun t => ?_) fun t => ?_
        · rw [Task.views, showings, List.countP_cons_of_neg Bool.false_ne_true, Task.views]
        · rw [Task.failures, showings, List.countP_cons_of_neg (by simp [Occurrence.isFailureOf, failure]), Task.failures]
        · rw [Task.renderings, showings, history_cons_of_none rfl, Task.renderings]

end World

/-! ## Failures -/

/-- A cancellation that came in time did so. -/
theorem CancelledInTime.mono {journal journal' : List (Occurrence σ ν)} {t : Ticket} {h : HandleId} (hc : CancelledInTime journal t h)
    (suffix : journal <:+ journal') : CancelledInTime journal' t h := by
  obtain ⟨later, earlier, rfl, unstarted⟩ := hc
  obtain ⟨latest, rfl⟩ := suffix
  exact ⟨latest ++ later, earlier, by rw [List.append_assoc], unstarted⟩

namespace World

variable {a b w : World σ ν} {m : Letter σ ν} {how : Ending ν} {caught : Bool}

/-- The journal only grows, and what is new comes on top. -/
theorem Reach.journal_suffix (h : a.Reach b) : a.task.journal <:+ b.task.journal := by
  refine h.invariant (P := fun x => a.task.journal <:+ x.task.journal) (List.suffix_refl _) (fun _ ih hs => ?_) fun _ ih => ih
  obtain ⟨entries, journal, -⟩ := hs.turn.writes
  rw [hs.task, journal]
  exact ih.trans (List.suffix_append ..)

/-- Whether its action failed is a matter of the life of the mail. -/
theorem failures_eq (w : World σ ν) (t : Ticket) : w.task.failures t = (w.ledger.life t).countP (·.isFailureOf t) := by
  rw [Task.failures, Task.showings, Ledger.life, List.countP_filter, List.countP_filter]
  refine List.countP_congr fun e _ => ?_
  cases e with
  | ended => simp +contextual [Occurrence.isFailureOf, Occurrence.isShowing, Occurrence.lifeOf?]
  | _ => exact .rfl

/-- When its action has ended, it is known whether the mail has failed. -/
theorem Possible.failures_of_ended (possible : w.Possible) (offered : w.ledger.Offered m)
    (ended : .ended m.ticket how caught ∈ w.task.journal) : w.task.failures m.ticket = if how.isFailure caught then 1 else 0 := by
  obtain ⟨-, life, -⟩ := possible.life_of_ended offered ended
  rw [failures_eq, life]
  simp [List.countP_cons, Occurrence.isFailureOf]

/-- Mail whose action has not begun has not failed. -/
theorem Possible.failures_of_unstarted (possible : w.Possible) (offered : w.ledger.Offered m)
    (unstarted : .started m.ticket ∉ w.task.journal) : w.task.failures m.ticket = 0 := by
  rw [failures_eq, List.countP_eq_zero]
  intro e he failure
  cases e with
  | ended t how caught =>
    obtain rfl : t = m.ticket := by simpa [Ledger.life, Occurrence.lifeOf?] using (List.mem_filter.mp he).2
    obtain ⟨-, life, -⟩ := possible.life_of_ended offered ((Ledger.mem_life rfl).mp he)
    refine unstarted ((Ledger.mem_life (a := w.ledger) (t := m.ticket) rfl).mp ?_)
    rw [life]
    exact List.mem_cons_of_mem _ List.mem_cons_self
  | _ => cases failure

/-- The action of a mail that was dropped or skipped has not begun. -/
theorem Possible.unstarted_of_unrun (possible : w.Possible) (offered : w.ledger.Offered m) {e : Occurrence σ ν} (he : e ∈ w.task.journal)
    (unrun : e = .dropped m.ticket ∨ e = .skipped m.ticket) : .started m.ticket ∉ w.task.journal := by
  have own : e.lifeOf? = some m.ticket := by rcases unrun with rfl | rfl <;> rfl
  have mem : e ∈ w.ledger.life m.ticket := (Ledger.mem_life own).mpr he
  obtain ⟨-, past⟩ := possible.good.sound.over offered mem (by rcases unrun with rfl | rfl <;> simp)
  intro started
  have begun : .started m.ticket ∈ w.ledger.life m.ticket := (Ledger.mem_life rfl).mpr started
  generalize w.ledger.life m.ticket = life at mem past begun
  cases past with
  | dropped | skipped => cases List.mem_singleton.mp begun
  | ended how caught => rcases unrun with rfl | rfl <;> simp at mem

/-- Mail that was turned away was dropped. -/
theorem Possible.dropped_of_refused (possible : w.Possible) {sender : ThreadId} (refused : .refused m sender ∈ w.task.journal) :
    .dropped m.ticket ∈ w.task.journal := by
  refine possible.invariant (P := fun w => .refused m sender ∈ w.task.journal → .dropped m.ticket ∈ w.task.journal)
    (fun _ _ _ _ _ _ h => (List.not_mem_nil h).elim) ?_ (fun _ ih => ih) refused
  intro a t pick th n b possible ih hs refused
  by_cases before : .refused m sender ∈ a.task.journal
  · exact hs.mem_journal possible (ih before)
  · obtain ⟨entries, journal, written⟩ := hs.turn.writes
    rw [hs.task] at refused ⊢
    have here : (Occurrence.refused m sender).isWrittenAt th.stage = true := by
      rw [journal] at refused
      exact written _ ((List.mem_append.mp refused).resolve_right before)
    obtain ⟨stage, stack⟩ := th
    cases stage with
    | offer m' =>
      have turn := hs.turn
      cases turn with
      | accepted => simp [Task.dropDisplaced_journal, before] at refused
      | refused =>
        obtain ⟨rfl, -⟩ : m = m' ∧ sender = t := by simpa [before] using refused
        simp
      | waited => exact absurd refused before
    | _ => cases here

/-- What keeps the action of a mail from failing for good: the mail was turned away, dropped, cancelled in time or skipped, or its action
returned, or panicked through a run that catches nothing. -/
inductive Unfailed (w : World σ ν) (m : Letter σ ν) : Prop where
  | refused (sender : ThreadId) (h : .refused m sender ∈ w.task.journal)
  | dropped (h : .dropped m.ticket ∈ w.task.journal)
  | cancelled (i : HandleId) (submitted : m.handle? = some i) (h : CancelledInTime w.task.journal m.ticket i)
  | skipped (h : .skipped m.ticket ∈ w.task.journal)
  | returned (v : ν) (caught : Bool) (h : .ended m.ticket (.returned v) caught ∈ w.task.journal)
  | escaped (p : Payload) (caught : Bool) (h : .ended m.ticket (.panicked p) caught ∈ w.task.journal) (plain : m.handle? = none)
    (unserved : ¬w.task.Serves m.ticket)

/-- A mail that was kept from failing never fails. -/
theorem Unfailed.failures (h : w.Unfailed m) (possible : w.Possible) (offered : w.ledger.Offered m) (reach : w.Reach b) :
    b.task.failures m.ticket = 0 := by
  have later := possible.reach reach
  have offered' := reach.offered possible offered
  have unrun : ∀ e ∈ w.task.journal, e = .dropped m.ticket ∨ e = .skipped m.ticket → b.task.failures m.ticket = 0 := fun e he he' =>
    later.failures_of_unstarted offered' (later.unstarted_of_unrun offered' (reach.mem_journal possible he) he')
  cases h with
  | refused sender h => exact unrun _ (possible.dropped_of_refused h) (.inl rfl)
  | dropped h => exact unrun _ h (.inl rfl)
  | cancelled i submitted h =>
    exact later.failures_of_unstarted offered' (later.good.not_started offered' submitted (h.mono reach.journal_suffix))
  | skipped h => exact unrun _ h (.inr rfl)
  | returned v caught h => exact later.failures_of_ended offered' (reach.mem_journal possible h)
  | escaped p caught h plain unserved =>
    obtain rfl : caught = false := by
      refine Bool.eq_false_iff.mpr fun yes => ?_
      exact ((possible.caught_iff offered h).mp yes).elim (fun submitted => submitted plain) unserved
    exact later.failures_of_ended offered' (reach.mem_journal possible h)

end World

/-! ## The counted arguments -/

/-- If only one mail's descriptions format an argument, the argument was formatted as often as the renderings of that mail say. -/
theorem Task.count_formattings (w : Task σ ν) {t : Ticket} {name : String}
    (own : ∀ t' names, .rendered t' names ∈ w.journal → name ∈ names → t' = t) :
    w.formattings.count name = (w.renderings t).flatten.count name := by
  rw [formattings, renderings, showings]
  generalize w.journal = journal at own ⊢
  induction journal with
  | nil => rfl
  | cons e journal ih =>
    have before := ih fun t' names h => own t' names (List.mem_cons_of_mem e h)
    cases e with
    | rendered t' names =>
      have elsewhere : t' ≠ t → names.count name = 0 := fun other =>
        List.count_eq_zero.mpr fun h => other (own t' names List.mem_cons_self h)
      rw [List.flatMap_cons, List.count_append, before, List.filter_cons_of_pos rfl, history_cons, List.flatten_append,
        List.count_append, Nat.add_comm]
      congr 1
      by_cases here : t' = t
      · simp [Occurrence.renderingOf?, here]
      · simp [Occurrence.renderingOf?, here, elsewhere here]
    | viewed | ended => rw [List.flatMap_cons, List.filter_cons_of_pos rfl, history_cons_of_none rfl, ← before]; rfl
    | _ => rw [List.flatMap_cons, List.filter_cons_of_neg Bool.false_ne_true, ← before]; rfl

theorem count_flatten_replicate (n : Nat) (names : List String) (name : String) :
    (List.replicate n names).flatten.count name = n * names.count name := by
  induction n with
  | zero => simp
  | succ n ih => rw [List.replicate_succ, List.flatten_cons, List.count_append, ih, Nat.succ_mul, Nat.add_comm]

/-- What there is to say of the renderings of one mail's description. -/
structure World.RendersOnDemand (w : World σ ν) (m : Letter σ ν) : Prop where
  /-- The description was rendered each time somebody asked for it, and as often as the action failed, and every time it formatted the same
  arguments. -/
  renderings : w.task.renderings m.ticket =
    List.replicate (w.task.views m.ticket + w.task.failures m.ticket) m.description.formatted
  once : w.task.failures m.ticket ≤ 1
  /-- That once is for an action that failed, or that panicked and had somebody who caught that: a submitted mail catches its own panics,
  and the main loop and a step catch those of the mail that they take. -/
  failed : w.task.failures m.ticket = 1 ↔ (∃ e caught, .ended m.ticket (.failed e) caught ∈ w.task.journal) ∨
    (∃ p caught, .ended m.ticket (.panicked p) caught ∈ w.task.journal) ∧ (m.handle? ≠ none ∨ w.task.Serves m.ticket)
  /-- Before the action begins nobody renders the description who was not asked for it. -/
  unstarted : .started m.ticket ∉ w.task.journal → w.task.failures m.ticket = 0
  /-- Nor does anybody ever if the mail comes to another end. -/
  unfailed : w.Unfailed m → ∀ b, w.Reach b →
    b.task.renderings m.ticket = List.replicate (b.task.views m.ticket) m.description.formatted
  /-- After the end of the action only those who ask for the description render it. A failure has the text of the description, so whoever
  shows the failure renders nothing. -/
  later : ∀ how caught, .ended m.ticket how caught ∈ w.task.journal → ∀ b, w.Reach b →
    (b.task.renderings m.ticket).length + w.task.views m.ticket = (w.task.renderings m.ticket).length + b.task.views m.ticket
  /-- An argument that no other mail's description formats was formatted that often. -/
  counted : ∀ name, (∀ m', w.ledger.Offered m' → name ∈ m'.description.formatted → m' = m) →
    w.task.formattings.count name = (w.task.views m.ticket + w.task.failures m.ticket) * m.description.formatted.count name

namespace World

variable {b w : World σ ν} {m : Letter σ ν}

/-- Each rendering of the mail formatted what its description formats, and there are as many as were called for. -/
theorem Possible.renderings_eq (possible : w.Possible) (offered : w.ledger.Offered m) : w.task.renderings m.ticket =
    List.replicate (w.task.views m.ticket + w.task.failures m.ticket) m.description.formatted := by
  have reckoned := possible.reckoned
  refine List.eq_replicate_iff.mpr ⟨reckoned.number _, fun names mem => ?_⟩
  obtain ⟨m', offered', ticket, content⟩ := reckoned.content _ names mem
  rw [content, possible.good.sound.ticket_inj m' m offered' offered ticket]

/-- Behind a failure there is the end of an action. -/
theorem ended_of_failures {t : Ticket} (h : w.task.failures t ≠ 0) :
    ∃ how caught, .ended t how caught ∈ w.task.journal ∧ how.isFailure caught = true := by
  obtain ⟨e, mem, counts⟩ := List.countP_pos_iff.mp (Nat.pos_of_ne_zero h)
  cases e with
  | ended t' how caught =>
    obtain ⟨rfl, failure⟩ : t' = t ∧ how.isFailure caught = true := by simpa [Occurrence.isFailureOf] using counts
    exact ⟨how, caught, (List.mem_filter.mp mem).1, failure⟩
  | _ => cases counts

/-- A mail fails once at most. -/
theorem Possible.failures_le_one (possible : w.Possible) (offered : w.ledger.Offered m) : w.task.failures m.ticket ≤ 1 := by
  by_cases none : w.task.failures m.ticket = 0
  · exact Nat.le_trans (Nat.le_of_eq none) (Nat.zero_le 1)
  · obtain ⟨how, caught, ended, failure⟩ := ended_of_failures none
    rw [possible.failures_of_ended offered ended, failure]
    exact Nat.le_refl 1

/-- What it is for a mail to have failed: that its action did, or that a panic of it was caught. -/
theorem Possible.failures_eq_one_iff (possible : w.Possible) (offered : w.ledger.Offered m) : w.task.failures m.ticket = 1 ↔
    (∃ e caught, .ended m.ticket (.failed e) caught ∈ w.task.journal) ∨
      (∃ p caught, .ended m.ticket (.panicked p) caught ∈ w.task.journal) ∧ (m.handle? ≠ none ∨ w.task.Serves m.ticket) := by
  constructor
  · intro one
    obtain ⟨how, caught, ended, failure⟩ := ended_of_failures (one ▸ Nat.one_ne_zero)
    cases how with
    | returned => cases failure
    | failed e => exact .inl ⟨e, caught, ended⟩
    | panicked p => exact .inr ⟨⟨p, caught, ended⟩, (possible.caught_iff offered ended).mp failure⟩
  · rintro (⟨e, caught, ended⟩ | ⟨⟨p, caught, ended⟩, catcher⟩)
    · exact possible.failures_of_ended offered ended
    · obtain rfl := (possible.caught_iff offered ended).mpr catcher
      exact possible.failures_of_ended offered ended

/-- Of every mail in every world that is possible, the renderings are those that somebody asked for or a failure called for. -/
theorem Possible.rendersOnDemand (possible : w.Possible) (offered : w.ledger.Offered m) : w.RendersOnDemand m where
  renderings := possible.renderings_eq offered
  once := possible.failures_le_one offered
  failed := possible.failures_eq_one_iff offered
  unstarted := possible.failures_of_unstarted offered
  unfailed unfailed b reach := by
    rw [(possible.reach reach).renderings_eq (reach.offered possible offered), unfailed.failures possible offered reach, Nat.add_zero]
  later how caught ended b reach := by
    have later := possible.reach reach
    have offered' := reach.offered possible offered
    have same : b.task.failures m.ticket = w.task.failures m.ticket := by
      rw [possible.failures_of_ended offered ended, later.failures_of_ended offered' (reach.mem_journal possible ended)]
    rw [later.reckoned.number, possible.reckoned.number, same]
    omega
  counted name own := by
    have once : ∀ t' names, .rendered t' names ∈ w.task.journal → name ∈ names → t' = m.ticket := by
      intro t' names rendered mem
      have here : names ∈ w.task.renderings t' :=
        mem_history.mpr ⟨_, List.mem_filter.mpr ⟨rendered, rfl⟩, if_pos rfl⟩
      obtain ⟨m', offered', rfl, rfl⟩ := possible.reckoned.content t' names here
      rw [own m' offered' mem]
    rw [w.task.count_formattings once, possible.renderings_eq offered, count_flatten_replicate]

end World

/-- Descriptions are rendered when somebody asks for them or an action fails, and not otherwise. Of every mail the number of renderings is
the number of times that somebody asked for its description, and one more if its action failed, or panicked and that was caught; and
there are no renderings of anything else. -/
theorem rendered_on_demand {w : World σ ν} (possible : w.Possible) : (∀ m, w.ledger.Offered m → w.RendersOnDemand m) ∧
    ∀ t, (∀ m, w.ledger.Offered m → m.ticket ≠ t) → w.task.renderings t = [] := by
  refine ⟨fun m offered => possible.rendersOnDemand offered, fun t none => List.eq_nil_iff_forall_not_mem.mpr fun names mem => ?_⟩
  obtain ⟨m, offered, ticket, -⟩ := possible.reckoned.content t names mem
  exact none m offered ticket

/-- A task whose only thread sends a mail with a counted argument in its description, takes it, asks for the description and runs the mail,
whose action fails. -/
def shownTask : World Unit Nat :=
  .start (.new ⟨1⟩ 0 none (fun _ => .finish (.returned 0)) ())
    [.post ⟨⟨"flush {}", [.counted "size" "7"]⟩, .empty, 0⟩ (.finish (.failed (.plain "disk full"))) fun _ =>
      .call false (.take .oldest false) fun _ => .call false (.display 0) fun _ => .call false (.run 0) fun _ =>
        .finish (.returned 0)]

/-- The description is rendered when the thread asks for it, and once more when the mail fails. -/
theorem rendered_on_demand_of_shownTask : ∃ m, (shownTask.advanced 12).ledger.Offered m ∧ (shownTask.advanced 12).RendersOnDemand m ∧
    (shownTask.advanced 12).task.renderings m.ticket = [["size"], ["size"]] ∧
      (shownTask.advanced 12).task.formattings = ["size", "size"] := by
  have possible : shownTask.Possible := ⟨⟨1⟩, 0, none, _, (), _, .here⟩
  have demand := (rendered_on_demand (possible.reach (shownTask.reach_advanced 12))).1
  have offered : (shownTask.advanced 12).ledger.Offered
      ⟨⟨⟨"flush {}", [.counted "size" "7"]⟩, .empty, 0⟩, 0, .run (.finish (.failed (.plain "disk full")))⟩ :=
    ⟨0, List.mem_of_getElem? (i := 7) rfl⟩
  exact ⟨_, offered, demand _ offered, (demand _ offered).renderings, rfl⟩

end Mailroom
