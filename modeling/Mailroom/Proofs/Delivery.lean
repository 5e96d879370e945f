import Mathlib.Algebra.BigOperators.Group.List.Basic
import Mathlib.Data.List.Nodup
import Mailroom.Proofs.Custody
import Mailroom.Proofs.Journal
import Mailroom.Proofs.Serving

/-!
# Every accepted mail is delivered once, in order

What the journal says of the mail that was put into the mailbox, as lists in the order of time: the puts that were begun, accepted
and turned away, the mail that was taken, and the mail with which the mailbox was closed. In every world that is possible, whatever
the order of steps was, these lists account for each other (`delivery`): what was accepted was taken, or thrown out by the one
closing, or is queued, mail of one kind in the order in which it was accepted; no action begins twice; and the count of the task is
the count of the mail that was taken for the main loop or a step.
-/

namespace Mailroom

variable {σ ν : Type}

namespace Occurrence

/-- A put that was begun: the mail, and the thread that puts it. -/
def offer? : Occurrence σ ν → Option (Letter σ ν × ThreadId)
  | offered m sender => some (m, sender)
  | _ => none

/-- A put that was accepted. -/
def acceptance? : Occurrence σ ν → Option (Letter σ ν × ThreadId)
  | accepted m sender => some (m, sender)
  | _ => none

/-- A put that was turned away. -/
def refusal? : Occurrence σ ν → Option (Letter σ ν × ThreadId)
  | refused m sender => some (m, sender)
  | _ => none

/-- A put that was accepted or turned away. -/
def settlement? : Occurrence σ ν → Option (Letter σ ν × ThreadId)
  | accepted m sender => some (m, sender)
  | refused m sender => some (m, sender)
  | _ => none

/-- A mail that was taken, and what for. -/
def taking? : Occurrence σ ν → Option (Letter σ ν × Purpose)
  | taken m _ purpose => some (m, purpose)
  | _ => none

/-- The mail with which the mailbox was closed. -/
def closing? : Occurrence σ ν → Option (List (Letter σ ν))
  | cleared ms => some ms
  | _ => none

/-- The action of a mail that began. -/
def beginning? : Occurrence σ ν → Option Ticket
  | started t => some t
  | _ => none

end Occurrence

namespace Task

variable (w : Task σ ν)

/-- The puts that were begun: each mail, and the thread that puts it. -/
def offers : List (Letter σ ν × ThreadId) := history Occurrence.offer? w.traffic

/-- The puts that were accepted. -/
def accepted : List (Letter σ ν × ThreadId) := history Occurrence.acceptance? w.traffic

/-- The puts that were turned away. -/
def refused : List (Letter σ ν × ThreadId) := history Occurrence.refusal? w.traffic

/-- The puts that were accepted or turned away. -/
def settled : List (Letter σ ν × ThreadId) := history Occurrence.settlement? w.traffic

/-- The mail that was taken, and what for. -/
def taken : List (Letter σ ν × Purpose) := history Occurrence.taking? w.traffic

/-- Each closing of the mailbox, with the mail it threw out. -/
def closings : List (List (Letter σ ν)) := history Occurrence.closing? w.traffic

/-- The mail that was thrown out by a closing. -/
def discarded : List (Letter σ ν) := w.closings.flatten

/-- The tickets of the actions that began. -/
def begun : List Ticket := history Occurrence.beginning? w.journal

section

variable {a b : Task σ ν} {m : Letter σ ν}

/-- A put that is accepted is one more of those that were, and no other put is settled by it. -/
theorem accepted_of_entry {sender : ThreadId} (journal : b.traffic = .accepted m sender :: a.traffic) :
    b.accepted = a.accepted ++ [(m, sender)] ∧ b.refused = a.refused := by
  rw [accepted, refused, journal]
  exact ⟨history_cons_of_some (f := Occurrence.acceptance?) rfl _, history_cons_of_none rfl _⟩

/-- A put that is turned away is one more of those that were, and no other put is settled by it. -/
theorem refused_of_entry {sender : ThreadId} (journal : b.traffic = .refused m sender :: a.traffic) :
    b.accepted = a.accepted ∧ b.refused = a.refused ++ [(m, sender)] := by
  rw [accepted, refused, journal]
  exact ⟨history_cons_of_none rfl _, history_cons_of_some (f := Occurrence.refusal?) rfl _⟩

/-- A mail that is taken comes last among those that were. -/
theorem taken_of_entry {choice : Choice} {purpose : Purpose} (journal : b.traffic = .taken m choice purpose :: a.traffic) :
    b.taken = a.taken ++ [(m, purpose)] := by
  rw [taken, journal]
  exact history_cons_of_some (f := Occurrence.taking?) rfl _

/-- A closing comes last among those that were. -/
theorem closings_of_entry {ms : List (Letter σ ν)} (journal : b.traffic = .cleared ms :: a.traffic) :
    b.closings = a.closings ++ [ms] := by
  rw [closings, journal]
  exact history_cons_of_some (f := Occurrence.closing?) rfl _

end

end Task

/-! ## Mail of one kind keeps its order -/

/-- The mail of one kind. -/
def ofKind (κ : Kind) (ms : List (Letter σ ν)) : List (Letter σ ν) := ms.filter fun m => m.kind = κ

@[simp] theorem ofKind_nil (κ : Kind) : ofKind κ ([] : List (Letter σ ν)) = [] := rfl

theorem ofKind_append (κ : Kind) (ms ms' : List (Letter σ ν)) : ofKind κ (ms ++ ms') = ofKind κ ms ++ ofKind κ ms' :=
  List.filter_append ..

/-- Where no mail is of a kind, there is none of it. -/
theorem ofKind_eq_nil {κ : Kind} {ms : List (Letter σ ν)} (h : ∀ m ∈ ms, m.kind ≠ κ) : ofKind κ ms = [] :=
  List.filter_eq_nil_iff.mpr fun m hm => by simpa using h m hm

namespace Lanes

/-- In the lanes of one kind, a mail that is put stands last. -/
theorem ofKind_push {l : Lanes (Job σ ν)} (hw : l.WellFormed) {n : Nat} (hc : l.Counted n) (hn : n < 2 ^ 64) (m : Letter σ ν)
    (κ : Kind) : ofKind κ (l.push m).toList = ofKind κ l.toList ++ ofKind κ [m] := by
  by_cases hm : m.isUrgent = true
  · have hu : (l.push m).urgent = l.urgent ++ [m] := by rw [urgent_push, if_pos hm]
    have hn : (l.push m).normal = l.normal := by simp [push, hm]
    rw [toList, hu, hn, toList, ofKind_append, ofKind_append, ofKind_append, List.append_assoc, List.append_assoc]
    by_cases hκ : m.kind = κ
    · have hκ' : κ = .urgent := hκ ▸ (Envelope.kind_eq_urgent_iff _).mpr hm
      have hnil : ofKind κ (l.normal.map (·.2)) = [] := by
        refine ofKind_eq_nil fun x hx hxκ => ?_
        obtain ⟨e, he, rfl⟩ := List.mem_map.mp hx
        have := (Envelope.kind_eq_urgent_iff _).mp (hxκ.trans hκ')
        rw [hw.normal e he] at this
        cases this
      rw [hnil, List.append_nil, List.nil_append]
    · have hnil : ofKind κ [m] = [] := ofKind_eq_nil (by simpa using hκ)
      rw [hnil, List.nil_append, List.append_nil]
  · have hu : (l.push m).urgent = l.urgent := by rw [urgent_push, if_neg hm]
    have hn : (l.push m).normal = l.normal ++ [(l.nextKey, m)] := hc.normal_push hn (by simpa using hm)
    rw [toList, hu, hn, toList, List.map_append, ← List.append_assoc, ofKind_append _ (_ ++ _)]
    rfl

/-- Among the mail of one kind, a take takes the first, or none. -/
theorem ofKind_pop {l l' : Lanes (Job σ ν)} (hw : l.WellFormed) {choice : Choice} {m : Letter σ ν}
    (hp : l.pop choice = some (m, l')) (κ : Kind) : ofKind κ l.toList = ofKind κ [m] ++ ofKind κ l'.toList := by
  obtain ⟨before, after, hl, hl', hbefore⟩ := (pop_eq_some hw hp).toList hw
  rw [hl, hl', List.append_cons, ofKind_append, ofKind_append, ofKind_append]
  by_cases hκ : m.kind = κ
  · have hnil : ofKind κ before = [] := by
      refine ofKind_eq_nil fun x hx hxκ => ?_
      exact kind_ne_of_passedOver (hbefore x hx) (hxκ.trans hκ.symm)
    rw [hnil, List.nil_append, List.nil_append]
  · have hnil : ofKind κ [m] = [] := ofKind_eq_nil (by simpa using hκ)
    rw [hnil, List.append_nil, List.nil_append]

end Lanes

/-- Where the mail is that was accepted: taken, thrown out, or queued, each kind in the order in which it was accepted. The mailbox
is closed once, and that ends all traffic. -/
structure Flow (w : Task σ ν) : Prop where
  fifo : ∀ κ, ofKind κ (w.accepted.map (·.1)) = ofKind κ (w.taken.map (·.1)) ++ ofKind κ w.discarded ++ ofKind κ w.queued
  counted : w.mailbox.lanes.Counted (w.accepted.countP fun put => !put.1.isUrgent)
  unclosed : w.mailbox.status ≠ .closed → w.closings = []
  closed : w.mailbox.status = .closed → w.closings.length = 1

/-- No mail has gone anywhere when a task is new. -/
theorem flow_new (config : Config) (owner : ThreadId) (defaultAction : Option (Body σ ν)) (handler : Failure → Body σ ν)
    (client : σ) : Flow (.new config owner defaultAction handler client) :=
  ⟨fun _ => rfl, Lanes.counted_empty, fun _ => rfl, nofun⟩

/-- Lists that a step leaves as they are. -/
structure SameFlow (a b : Task σ ν) : Prop where
  accepted : b.accepted = a.accepted
  taken : b.taken = a.taken
  closings : b.closings = a.closings

/-- The lists are read off the traffic alone. -/
theorem SameFlow.of_eq {a b : Task σ ν} (h : b.traffic = a.traffic) : SameFlow a b := by
  refine ⟨?_, ?_, ?_⟩
  · rw [Task.accepted, h, Task.accepted]
  · rw [Task.taken, h, Task.taken]
  · rw [Task.closings, h, Task.closings]

/-- An entry that tells of a put that was begun or turned away is no part of the flow. -/
theorem SameFlow.of_cons {a b : Task σ ν} {e : Occurrence σ ν} (h : b.traffic = e :: a.traffic) (ha : e.acceptance? = none)
    (ht : e.taking? = none) (hc : e.closing? = none) : SameFlow a b := by
  refine ⟨?_, ?_, ?_⟩
  · rw [Task.accepted, h, history_cons_of_none ha, Task.accepted]
  · rw [Task.taken, h, history_cons_of_none ht, Task.taken]
  · rw [Task.closings, h, history_cons_of_none hc, Task.closings]

namespace Flow

variable {a b : Task σ ν}

/-- The flow depends on the lists, on the lanes, and on whether the mailbox is closed. -/
theorem congr (h : Flow a) (hs : SameFlow a b) (lanes : b.mailbox.lanes = a.mailbox.lanes)
    (status : b.mailbox.status = .closed ↔ a.mailbox.status = .closed) : Flow b where
  fifo κ := by
    rw [hs.accepted, hs.taken, Task.discarded, hs.closings, Task.queued, lanes]
    exact h.fifo κ
  counted := by
    rw [hs.accepted, lanes]
    exact h.counted
  unclosed hb := by
    rw [hs.closings]
    exact h.unclosed fun ha => hb (status.mpr ha)
  closed hb := by
    rw [hs.closings]
    exact h.closed (status.mp hb)

/-- Nothing was thrown out as long as the mailbox is not closed. -/
theorem discarded (h : Flow a) (hs : a.mailbox.status ≠ .closed) : a.discarded = [] := by
  rw [Task.discarded, h.unclosed hs]
  rfl

/-- Mail that is accepted is queued, as the last one of its kind. -/
theorem entered (h : Flow a) {m : Letter σ ν} {me : ThreadId} (was : a.mailbox.status = .accepting)
    (mailbox : b.mailbox.wakeAll = { a.mailbox.wakeAll with lanes := a.mailbox.lanes.push m })
    (journal : b.traffic = .accepted m me :: a.traffic) (hw : a.mailbox.lanes.WellFormed)
    (few : a.accepted.countP (fun put => !put.1.isUrgent) < 2 ^ 64) : Flow b := by
  have hne : a.mailbox.status ≠ .closed := by
    rw [was]
    exact nofun
  have haccepted : b.accepted = a.accepted ++ [(m, me)] := (Task.accepted_of_entry journal).1
  have htaken : b.taken = a.taken := by
    rw [Task.taken, journal]
    exact history_cons_of_none rfl _
  have hclosings : b.closings = [] := by
    rw [Task.closings, journal]
    exact (history_cons_of_none rfl _).trans (h.unclosed hne)
  have hlanes : b.mailbox.lanes = a.mailbox.lanes.push m := Mailbox.lanes_of_wakeAll mailbox
  have hstatus : b.mailbox.status = a.mailbox.status := (Mailbox.status_of_wakeAll mailbox).trans rfl
  have hdiscarded : b.discarded = [] := by
    rw [Task.discarded, hclosings]
    rfl
  refine ⟨fun κ => ?_, ?_, fun _ => hclosings, fun hb => absurd (hstatus.symm.trans hb) hne⟩
  · have hfifo := h.fifo κ
    rw [h.discarded hne, ofKind_nil, List.append_nil] at hfifo
    rw [haccepted, htaken, hdiscarded, Task.queued, hlanes, Lanes.ofKind_push hw h.counted few, List.map_append, ofKind_append,
      hfifo, ofKind_nil, List.append_nil, List.append_assoc]
    rfl
  · rw [haccepted, hlanes, List.countP_append]
    by_cases hm : m.isUrgent = true
    · have hcount : List.countP (fun put : Letter σ ν × ThreadId => !put.1.isUrgent) [(m, me)] = 0 := by simp [hm]
      rw [hcount]
      exact h.counted.push_urgent hm
    · have hcount : List.countP (fun put : Letter σ ν × ThreadId => !put.1.isUrgent) [(m, me)] = 1 := by simp [hm]
      rw [hcount]
      exact h.counted.push_plain (by simpa using hm)

/-- Mail that is taken was queued, as the first one of its kind. -/
theorem left (h : Flow a) {m : Letter σ ν} {choice : Choice} {purpose : Purpose} {l : Lanes (Job σ ν)}
    (was : a.mailbox.status ≠ .closed) (pop : a.mailbox.lanes.pop choice = some (m, l))
    (mailbox : b.mailbox.wakeAll = { a.mailbox.wakeAll with lanes := l })
    (journal : b.traffic = .taken m choice purpose :: a.traffic) (hw : a.mailbox.lanes.WellFormed) : Flow b := by
  have haccepted : b.accepted = a.accepted := by
    rw [Task.accepted, journal]
    exact history_cons_of_none rfl _
  have htaken : b.taken = a.taken ++ [(m, purpose)] := Task.taken_of_entry journal
  have hclosings : b.closings = [] := by
    rw [Task.closings, journal]
    exact (history_cons_of_none rfl _).trans (h.unclosed was)
  have hlanes : b.mailbox.lanes = l := Mailbox.lanes_of_wakeAll mailbox
  have hstatus : b.mailbox.status = a.mailbox.status := (Mailbox.status_of_wakeAll mailbox).trans rfl
  have hdiscarded : b.discarded = [] := by
    rw [Task.discarded, hclosings]
    rfl
  refine ⟨fun κ => ?_, ?_, fun _ => hclosings, fun hb => absurd (hstatus.symm.trans hb) was⟩
  · have hfifo := h.fifo κ
    rw [h.discarded was, ofKind_nil, List.append_nil, Task.queued, Lanes.ofKind_pop hw pop] at hfifo
    rw [haccepted, htaken, hdiscarded, Task.queued, hlanes, hfifo, List.map_append, ofKind_append, ofKind_nil, List.append_nil,
      List.append_assoc]
    rfl
  · rw [haccepted, hlanes]
    exact (Lanes.pop_eq_some hw pop).counted h.counted

/-- Mail that was queued when the mailbox is closed is thrown out, in the order in which it was queued. -/
theorem emptied (h : Flow a) (was : a.mailbox.status ≠ .closed)
    (mailbox : b.mailbox.wakeAll = { a.mailbox.wakeAll with status := .closed, lanes := a.mailbox.lanes.cleared })
    (journal : b.traffic = .cleared a.mailbox.lanes.toList :: a.traffic) : Flow b := by
  have haccepted : b.accepted = a.accepted := by
    rw [Task.accepted, journal]
    exact history_cons_of_none rfl _
  have htaken : b.taken = a.taken := by
    rw [Task.taken, journal]
    exact history_cons_of_none rfl _
  have hclosings : b.closings = [a.mailbox.lanes.toList] := by rw [Task.closings_of_entry journal, h.unclosed was, List.nil_append]
  have hlanes : b.mailbox.lanes = a.mailbox.lanes.cleared := Mailbox.lanes_of_wakeAll mailbox
  have hstatus : b.mailbox.status = .closed := Mailbox.status_of_wakeAll mailbox
  have hdiscarded : b.discarded = a.queued := by
    rw [Task.discarded, hclosings]
    exact List.append_nil _
  refine ⟨fun κ => ?_, ?_, fun hb => absurd hstatus hb, fun _ => by rw [hclosings]; rfl⟩
  · have hfifo := h.fifo κ
    rw [h.discarded was, ofKind_nil, List.append_nil] at hfifo
    have hqueued : b.queued = [] := by
      rw [Task.queued, hlanes]
      rfl
    rw [haccepted, htaken, hdiscarded, hqueued, ofKind_nil, List.append_nil, hfifo]
  · rw [haccepted, hlanes]
    exact h.counted.cleared

/-- Every step keeps the flow, before the count of keys has come around. -/
theorem step {me : ThreadId} {s s' : Stage σ ν} (h : Flow a) (ht : Traffic me a s b s') (ha : a.mailbox.Orderly)
    (few : a.accepted.countP (fun put => !put.1.isUrgent) < 2 ^ 64) : Flow b := by
  have same : b.mailbox.wakeAll = a.mailbox.wakeAll → SameFlow a b → Flow b := by
    intro mailbox hs
    have hlanes : b.mailbox.lanes = a.mailbox.lanes := (Mailbox.lanes_of_wakeAll mailbox).trans rfl
    have hstatus : b.mailbox.status = a.mailbox.status := (Mailbox.status_of_wakeAll mailbox).trans rfl
    exact h.congr hs hlanes (by rw [hstatus])
  cases ht with
  | quiet mailbox journal => exact same mailbox (.of_eq journal)
  | begun m mailbox journal => exact same mailbox (.of_cons journal rfl rfl rfl)
  | refused m mailbox journal => exact same mailbox (.of_cons journal rfl rfl rfl)
  | quiesced was mailbox journal =>
    have hlanes : b.mailbox.lanes = a.mailbox.lanes := (Mailbox.lanes_of_wakeAll mailbox).trans rfl
    have hstatus : b.mailbox.status = .quiesced := Mailbox.status_of_wakeAll mailbox
    refine h.congr (.of_eq journal) hlanes ?_
    rw [hstatus, was]
    exact ⟨nofun, nofun⟩
  | entered m was room mailbox journal => exact h.entered was mailbox journal ha.wellFormed few
  | left m choice purpose l was pop mailbox journal => exact h.left was pop mailbox journal ha.wellFormed
  | emptied was mailbox journal => exact h.emptied was mailbox journal

end Flow

/-! ## Every put is settled once -/

/-- The mail that a thread put, in the order in which it did. -/
def putBy (p : ThreadId) (puts : List (Letter σ ν × ThreadId)) : List (Letter σ ν) := (puts.filter fun put => put.2 = p).map (·.1)

theorem putBy_append (p : ThreadId) (puts puts' : List (Letter σ ν × ThreadId)) :
    putBy p (puts ++ puts') = putBy p puts ++ putBy p puts' := by
  simp [putBy]

theorem putBy_self (p : ThreadId) (m : Letter σ ν) : putBy p [(m, p)] = [m] := by simp [putBy]

theorem putBy_other {p me : ThreadId} (h : p ≠ me) (m : Letter σ ν) : putBy p [(m, me)] = [] := by simp [putBy, h.symm]

namespace World

/-- The mail that a thread is putting into the mailbox. -/
def pendingOf (w : World σ ν) (p : ThreadId) : List (Letter σ ν) := ((w.threads[p]?).map fun th => th.stage.pending).getD []

/-- The mail that is being put into the mailbox. -/
def pending (w : World σ ν) : List (Letter σ ν) := w.threads.flatMap fun th => th.stage.pending

/-- The number of mails that were taken to be run by the main loop or a step, and are not counted yet. -/
def uncounted (w : World σ ν) : Nat := (w.threads.map fun th => th.stage.uncounted).sum

end World

/-- Every put that was begun is accepted, turned away, or under way, and every mail that was taken to be run is counted, or about to
be. -/
structure Posted (w : World σ ν) : Prop where
  each : ∀ p, putBy p w.task.offers = putBy p w.task.settled ++ w.pendingOf p
  all : (w.task.offers.map (·.1)).Perm (w.task.settled.map (·.1) ++ w.pending)
  count : w.task.processor.processed + w.uncounted = (w.task.taken.map fun taking => taking.2.counts).sum

section

variable {a b : World σ ν} {t : ThreadId} {pick : Nat} {th : Thread σ ν} {n : Next σ ν}

open World

/-- Before a step, what its thread is putting stands in the stage of the thread. -/
theorem pendingOf_own_before (h : Stepped a t pick th n b) : a.pendingOf t = th.stage.pending := by
  rw [pendingOf, h.thread]
  rfl

/-- After a step, what its thread is putting stands in the stage that the step has led to. -/
theorem pendingOf_own (h : Stepped a t pick th n b) : b.pendingOf t = n.2.stage.pending := by
  rw [pendingOf, h.own]
  rfl

/-- A thread that was just started puts nothing. -/
theorem pendingOf_other (h : Stepped a t pick th n b) {p : ThreadId} (hp : p ≠ t) : b.pendingOf p = a.pendingOf p := by
  cases ha : a.threads[p]? with
  | some x => rw [pendingOf, pendingOf, h.other hp ha, ha]
  | none =>
    have hnone : a.pendingOf p = [] := by
      rw [pendingOf, ha]
      rfl
    cases hb : b.threads[p]? with
    | none =>
      rw [hnone, pendingOf, hb]
      rfl
    | some x =>
      rcases h.thread_cases hb with ⟨hpt, -⟩ | ⟨-, hx⟩ | ⟨program, rfl⟩
      · exact absurd hpt hp
      · rw [ha] at hx
        cases hx
      · rw [hnone, pendingOf, hb]
        rfl

/-- Only the thread that steps changes how many mails are still to be counted. -/
theorem uncounted_step (h : Stepped a t pick th n b) : a.uncounted + n.2.stage.uncounted = b.uncounted + th.stage.uncounted := by
  obtain ⟨rest, ha, hb⟩ := h.flatMap_perm (fun th => List.replicate th.stage.uncounted ()) fun _ => rfl
  have hla := ha.length_eq
  have hlb := hb.length_eq
  simp only [List.length_flatMap, List.length_append, List.length_replicate] at hla hlb
  simp only [uncounted]
  omega

/-- A step that settles no put and begins none, if it leaves the lists alone. -/
theorem Posted.same (hp : Posted a) (h : Stepped a t pick th n b) (offers : b.task.offers = a.task.offers)
    (settled : b.task.settled = a.task.settled) (pending : n.2.stage.pending = th.stage.pending)
    (count : b.task.processor.processed + b.uncounted = (b.task.taken.map fun taking => taking.2.counts).sum) : Posted b where
  each p := by
    rw [offers, settled]
    by_cases hpt : p = t
    · rw [hpt, pendingOf_own h, pending, ← pendingOf_own_before h]
      exact hp.each t
    · rw [pendingOf_other h hpt]
      exact hp.each p
  all := by
    obtain ⟨rest, ha, hb⟩ := h.flatMap_perm (fun th => th.stage.pending) fun _ => rfl
    rw [offers, settled]
    have hall : b.pending.Perm a.pending := by
      refine hb.trans ?_
      rw [pending]
      exact ha.symm
    exact hp.all.trans (hall.symm.append_left _)
  count := count

/-- A step that begins a put has the put under way. -/
theorem Posted.began (hp : Posted a) (h : Stepped a t pick th n b) {m : Letter σ ν} (offers : b.task.offers = a.task.offers ++ [(m, t)])
    (settled : b.task.settled = a.task.settled) (before : th.stage.pending = []) (after : n.2.stage.pending = [m])
    (count : b.task.processor.processed + b.uncounted = (b.task.taken.map fun taking => taking.2.counts).sum) : Posted b where
  each p := by
    rw [offers, settled, putBy_append]
    by_cases hpt : p = t
    · have heach := hp.each t
      rw [pendingOf_own_before h, before, List.append_nil] at heach
      rw [hpt, pendingOf_own h, after, heach, putBy_self]
    · rw [pendingOf_other h hpt, putBy_other hpt, List.append_nil]
      exact hp.each p
  all := by
    obtain ⟨rest, ha, hb⟩ := h.flatMap_perm (fun th => th.stage.pending) fun _ => rfl
    rw [before] at ha
    rw [after] at hb
    have hpend : b.pending.Perm (a.pending ++ [m]) :=
      (hb.trans (ha.symm.cons m)).trans (List.perm_append_singleton m a.pending).symm
    rw [offers, settled, List.map_append]
    refine (hp.all.append_right [m]).trans ?_
    rw [List.append_assoc]
    exact hpend.symm.append_left _
  count := count

/-- A step that settles a put had the put under way, and has none any more. -/
theorem Posted.settle (hp : Posted a) (h : Stepped a t pick th n b) {m : Letter σ ν} (offers : b.task.offers = a.task.offers)
    (settled : b.task.settled = a.task.settled ++ [(m, t)]) (before : th.stage.pending = [m]) (after : n.2.stage.pending = [])
    (count : b.task.processor.processed + b.uncounted = (b.task.taken.map fun taking => taking.2.counts).sum) : Posted b where
  each p := by
    rw [offers, settled, putBy_append]
    by_cases hpt : p = t
    · have heach := hp.each t
      rw [pendingOf_own_before h, before] at heach
      rw [hpt, pendingOf_own h, after, heach, putBy_self, List.append_nil]
    · rw [pendingOf_other h hpt, putBy_other hpt, List.append_nil]
      exact hp.each p
  all := by
    obtain ⟨rest, ha, hb⟩ := h.flatMap_perm (fun th => th.stage.pending) fun _ => rfl
    rw [before] at ha
    rw [after] at hb
    have hpend : a.pending.Perm ([m] ++ b.pending) := ha.trans (hb.symm.append_left [m])
    rw [offers, settled, List.map_append, List.append_assoc]
    exact hp.all.trans (hpend.append_left _)
  count := count

/-- Every step keeps the account of the puts and the count of the mail. -/
theorem Posted.step (hp : Posted a) (h : Stepped a t pick th n b) : Posted b := by
  have hmoved := uncounted_step h
  have hcount := hp.count
  have same : b.task.traffic = a.task.traffic → n.2.stage.pending = th.stage.pending →
      b.task.processor.processed + n.2.stage.uncounted = a.task.processor.processed + th.stage.uncounted → Posted b := by
    intro journal pending count
    refine hp.same h (by rw [Task.offers, journal, Task.offers]) (by rw [Task.settled, journal, Task.settled]) pending ?_
    rw [Task.taken, journal, ← Task.taken]
    omega
  have other : ∀ {e : Occurrence σ ν}, b.task.traffic = e :: a.task.traffic → e.taking? = none →
      b.task.processor.processed + n.2.stage.uncounted = a.task.processor.processed + th.stage.uncounted →
      b.task.processor.processed + b.uncounted = (b.task.taken.map fun taking => taking.2.counts).sum := by
    intro e journal he count
    rw [Task.taken, journal, history_cons_of_none he, ← Task.taken]
    omega
  cases h.traffic with
  | quiet mailbox journal pending count => exact same journal pending count
  | quiesced was mailbox journal pending count => exact same journal pending count
  | begun m mailbox journal before after count =>
    refine hp.began h (m := m) ?_ ?_ before after (other journal rfl count)
    · rw [Task.offers, journal]
      exact history_cons_of_some (f := Occurrence.offer?) rfl _
    · rw [Task.settled, journal]
      exact history_cons_of_none rfl _
  | refused m mailbox journal before after count =>
    refine hp.settle h (m := m) ?_ ?_ before after (other journal rfl count)
    · rw [Task.offers, journal]
      exact history_cons_of_none rfl _
    · rw [Task.settled, journal]
      exact history_cons_of_some (f := Occurrence.settlement?) rfl _
  | entered m was room mailbox journal before after count =>
    refine hp.settle h (m := m) ?_ ?_ before after (other journal rfl count)
    · rw [Task.offers, journal]
      exact history_cons_of_none rfl _
    · rw [Task.settled, journal]
      exact history_cons_of_some (f := Occurrence.settlement?) rfl _
  | left m choice purpose l was pop mailbox journal pending count =>
    refine hp.same h ?_ ?_ pending ?_
    · rw [Task.offers, journal]
      exact history_cons_of_none rfl _
    · rw [Task.settled, journal]
      exact history_cons_of_none rfl _
    · have hone : ([(m, purpose)].map fun taking => taking.2.counts).sum = purpose.counts := by simp
      rw [Task.taken_of_entry journal, List.map_append, List.sum_append, hone]
      omega
  | emptied was mailbox journal pending count =>
    refine hp.same h ?_ ?_ pending (other journal rfl count)
    · rw [Task.offers, journal]
      exact history_cons_of_none rfl _
    · rw [Task.settled, journal]
      exact history_cons_of_none rfl _

end

/-- At the start there are no puts, and nothing is counted. -/
theorem posted_start (config : Config) (owner : ThreadId) (defaultAction : Option (Body σ ν)) (handler : Failure → Body σ ν)
    (client : σ) (programs : List (Body σ ν)) :
    Posted (World.start (.new config owner defaultAction handler client) programs) := by
  have hpend : ∀ program : Body σ ν, (Thread.start program).stage.pending = [] := fun _ => rfl
  refine ⟨fun p => ?_, ?_, ?_⟩
  · have hnone : (World.start (.new config owner defaultAction handler client) programs).pendingOf p = [] := by
      simp only [World.pendingOf, World.start, List.getElem?_map, Option.map_map]
      cases programs[p]? with
      | none => rfl
      | some program => rfl
    rw [hnone]
    rfl
  · have hnone : (World.start (.new config owner defaultAction handler client) programs).pending = [] := by
      simp [World.pending, World.start, hpend]
    rw [hnone]
    exact List.Perm.refl _
  · have hzero : (World.start (.new config owner defaultAction handler client) programs).uncounted = 0 := by
      have huncounted : ∀ program : Body σ ν, (Thread.start program).stage.uncounted = 0 := fun _ => rfl
      simp [World.uncounted, World.start, huncounted, Function.comp_def]
    rw [hzero]
    rfl

namespace World.Possible

variable {w : World σ ν}

/-- The account of the puts and the count are right in every world that is possible. -/
theorem posted (h : Possible w) : Posted w :=
  h.invariant (posted_start · · · · · ·) (fun _ ih hs => ih.step hs) fun _ ih => ⟨ih.each, ih.all, ih.count⟩

/-- What is accepted stays accepted. -/
theorem accepted_step {a b : World σ ν} {t : ThreadId} {pick : Nat} {th : Thread σ ν} {n : Next σ ν} (h : Stepped a t pick th n b) :
    a.task.accepted.countP (fun put => !put.1.isUrgent) ≤ b.task.accepted.countP (fun put => !put.1.isUrgent) := by
  have log : ∀ {e : Occurrence σ ν}, b.task.traffic = e :: a.task.traffic →
      a.task.accepted.countP (fun put => !put.1.isUrgent) ≤ b.task.accepted.countP (fun put => !put.1.isUrgent) := by
    intro e journal
    rw [Task.accepted, Task.accepted, journal, history_cons, List.countP_append]
    exact Nat.le_add_right _ _
  cases h.traffic with
  | quiet _ journal | quiesced _ _ journal =>
    have hsame : b.task.accepted = a.task.accepted := congrArg (history Occurrence.acceptance?) journal
    exact Nat.le_of_eq (by rw [hsame])
  | begun _ _ journal | refused _ _ journal | entered _ _ _ _ journal | left _ _ _ _ _ _ _ journal | emptied _ _ journal =>
    exact log journal

/-- The flow is right in every world that is possible, as long as no key is given out twice. -/
theorem flow (h : Possible w) (few : w.task.accepted.countP (fun put => !put.1.isUrgent) < 2 ^ 64) : Flow w.task := by
  have hinv := h.invariant (P := fun w => w.task.accepted.countP (fun put => !put.1.isUrgent) < 2 ^ 64 → Flow w.task)
    (fun _ _ _ _ _ _ _ => flow_new ..) ?_ fun _ ih hfew => (ih hfew).congr (.of_eq rfl) rfl .rfl
  · exact hinv few
  · intro a t pick th n b before ih hs hfew
    have hless := Nat.lt_of_le_of_lt (accepted_step hs) hfew
    exact (ih hless).step hs.traffic before.orderly hless

end World.Possible

/-! ## Lists in which something stands once -/

section

variable {α : Type}

/-- What a test admits once is one thing. -/
theorem eq_of_countP_eq_one {p : α → Bool} {l : List α} (h : l.countP p = 1) {x y : α} (hx : x ∈ l) (hpx : p x = true)
    (hy : y ∈ l) (hpy : p y = true) : x = y := by
  rw [List.countP_eq_length_filter] at h
  obtain ⟨z, hz⟩ := List.length_eq_one_iff.mp h
  have hxz : x ∈ [z] := hz ▸ List.mem_filter.mpr ⟨hx, hpx⟩
  have hyz : y ∈ [z] := hz ▸ List.mem_filter.mpr ⟨hy, hpy⟩
  rw [List.mem_singleton.mp hxz, List.mem_singleton.mp hyz]

/-- What has one of two tickets is counted under one of them. -/
theorem countP_or_of_ne {t : α → Ticket} {r r' : Ticket} (h : r ≠ r') (l : List α) :
    l.countP (fun z => t z == r || t z == r') = l.countP (fun z => t z == r) + l.countP (fun z => t z == r') := by
  induction l with
  | nil => rfl
  | cons z l ih =>
    simp only [List.countP_cons, ih]
    by_cases hz : t z = r
    · have hz' : t z ≠ r' := fun hz' => h (hz.symm.trans hz')
      simp only [beq_iff_eq, hz, h, beq_self_eq_true, Bool.true_or, if_true, if_false]
      omega
    · by_cases hz' : t z = r'
      · simp only [beq_iff_eq, hz', h.symm, beq_self_eq_true, Bool.or_true, if_true, if_false]
        omega
      · simp [hz, hz']

/-- Two things that stand once in a list stand in the same order in each part of it that has both. -/
theorem pair_sublist_of_sublist {t : α → Ticket} {l l' : List α} (h : List.Sublist l' l) {x y : α} (hxy : List.Sublist [x, y] l)
    (hx : l.countP (fun z => t z == t x) = 1) (hy : l.countP (fun z => t z == t y) = 1) (hx' : x ∈ l') (hy' : y ∈ l') :
    List.Sublist [x, y] l' := by
  have hne : t x ≠ t y := by
    intro he
    have hle := hxy.countP_le (p := fun z => t z == t x)
    rw [hx] at hle
    simp [he] at hle
  let q : α → Bool := fun z => t z == t x || t z == t y
  have hcount : (l.filter q).length = 2 := by
    rw [← List.countP_eq_length_filter]
    have hor : l.countP q = l.countP (fun z => t z == t x) + l.countP (fun z => t z == t y) := countP_or_of_ne hne l
    rw [hor, hx, hy]
  have hpair : [x, y] = l.filter q := by
    have hsub : List.Sublist ([x, y].filter q) (l.filter q) := hxy.filter q
    have hself : [x, y].filter q = [x, y] := by simp [q]
    rw [hself] at hsub
    exact hsub.eq_of_length (by rw [hcount]; rfl)
  have hsub : List.Sublist (l'.filter q) [x, y] := hpair ▸ h.filter q
  have hmem : x ∈ l'.filter q ∧ y ∈ l'.filter q := by simp [q, hx', hy']
  have hlen : 2 ≤ (l'.filter q).length := by
    cases hl : l'.filter q with
    | nil => simp [hl] at hmem
    | cons z rest =>
      cases rest with
      | cons => simp
      | nil =>
        rw [hl, List.mem_singleton, List.mem_singleton] at hmem
        exact absurd (congrArg t (hmem.1.trans hmem.2.symm)) hne
  have heq : l'.filter q = [x, y] := hsub.eq_of_length_le (by simpa using hlen)
  exact heq ▸ List.filter_sublist

/-- A pair whose second part does not stand in the rest of a list stands before the rest. -/
theorem pair_sublist_of_append {l l' : List α} {x y : α} (h : List.Sublist [x, y] (l ++ l')) (hy : y ∉ l') :
    List.Sublist [x, y] l := by
  obtain ⟨r, r', he, hr, hr'⟩ := List.sublist_append_iff.mp h
  cases r' with
  | nil =>
    rw [List.append_nil] at he
    exact he ▸ hr
  | cons z r' =>
    have hlast : ([x, y] : List α).getLast? = (r ++ z :: r').getLast? := congrArg List.getLast? he
    rw [List.getLast?_append_of_ne_nil _ (List.cons_ne_nil z r')] at hlast
    have hmem : y ∈ z :: r' := List.mem_of_getLast? hlast.symm
    exact absurd (hr'.subset hmem) hy

end

/-- A sum is at most one if only one summand can be positive, and that one is at most one. -/
theorem sum_le_one {α : Type} {f : α → Nat} {l : List α} {o : Nat}
    (h : ∀ (i : Nat) x, l[i]? = some x → f x ≤ 1 ∧ (0 < f x → i = o)) : (l.map f).sum ≤ 1 := by
  induction l generalizing o with
  | nil => exact Nat.zero_le 1
  | cons z l ih =>
    rw [List.map_cons, List.sum_cons]
    obtain ⟨hz, hzo⟩ := h 0 z rfl
    by_cases hpos : 0 < f z
    · have hzero : ∀ n ∈ l.map f, n = 0 := by
        intro n hn
        obtain ⟨x, hx, rfl⟩ := List.mem_map.mp hn
        obtain ⟨i, hi⟩ := List.mem_iff_getElem?.mp hx
        have hxo := (h (i + 1) x hi).2
        have hzero := hzo hpos
        omega
      rw [List.sum_eq_zero hzero]
      exact hz
    · have hrest : (l.map f).sum ≤ 1 := by
        refine ih (o := o - 1) fun i x hi => ?_
        obtain ⟨hx, hxo⟩ := h (i + 1) x hi
        exact ⟨hx, fun hp => by have := hxo hp; omega⟩
      omega

/-! ## What senders are told -/

/-- What a step of thread `t` does to the puts that are settled, and what it tells the sender of one. -/
inductive Told (a : World σ ν) (t : ThreadId) (pick : Nat) (b : World σ ν) : Prop where
  /-- The mail is in the mailbox, and its sender is told so, and is given the handle if the mail was submitted. -/
  | accepted (m : Letter σ ν) (slept : Bool) (receipt : Receipt) (stack : List (Frame σ ν))
    (before : a.threads[t]? = some ⟨.offer m slept receipt, stack⟩)
    (after : b.threads[t]? = some ⟨.answer (Thread.received receipt), stack⟩)
    (accepted : b.task.accepted = a.task.accepted ++ [(m, t)]) (refused : b.task.refused = a.task.refused)
  /-- The mailbox turned the mail away, and its sender is told why, unless it is to hear nothing. -/
  | refused (m : Letter σ ν) (slept : Bool) (receipt : Receipt) (stack : List (Frame σ ν)) (why : Failure)
    (before : a.threads[t]? = some ⟨.offer m slept receipt, stack⟩) (reason : a.task.mailbox.offer t m pick = .refused why)
    (after : b.threads[t]? = some ⟨.answer (Thread.turnedAway why receipt), stack⟩)
    (accepted : b.task.accepted = a.task.accepted) (refused : b.task.refused = a.task.refused ++ [(m, t)])
  /-- No put is settled, and whoever was about to put a mail falls asleep over it. -/
  | neither (accepted : b.task.accepted = a.task.accepted) (refused : b.task.refused = a.task.refused)
    (waits : ∀ m slept receipt stack, a.threads[t]? = some ⟨.offer m slept receipt, stack⟩ →
      b.threads[t]? = some ⟨.offer m true receipt, stack⟩)

namespace World.Stepped

variable {a b : World σ ν} {t : ThreadId} {pick : Nat} {th : Thread σ ν} {n : Next σ ν}

/-- A put is settled only where a thread is about to put a mail. -/
theorem settled_same (h : Stepped a t pick th n b) (other : ∀ m slept receipt, th.stage ≠ .offer m slept receipt) :
    b.task.accepted = a.task.accepted ∧ b.task.refused = a.task.refused := by
  have written : Writes th.stage a.task b.task := h.task ▸ h.turn.writes
  have unwritten : ∀ e : Occurrence σ ν, e.isWrittenAt th.stage = true → e.acceptance? = none ∧ e.refusal? = none := by
    intro e he
    cases e with
    | accepted | refused =>
      generalize th.stage = stage at he other
      cases stage with
      | offer m slept receipt => exact absurd rfl (other m slept receipt)
      | _ => cases he
    | _ => exact ⟨rfl, rfl⟩
  have accepted : ∀ w : Task σ ν, w.accepted = history Occurrence.acceptance? w.journal :=
    Task.history_traffic fun e he => by cases e <;> first | rfl | cases he
  have refused : ∀ w : Task σ ν, w.refused = history Occurrence.refusal? w.journal :=
    Task.history_traffic fun e he => by cases e <;> first | rfl | cases he
  rw [accepted, accepted, refused, refused]
  exact ⟨written.history_eq fun e he => (unwritten e he).1, written.history_eq fun e he => (unwritten e he).2⟩

/-- Whoever puts a mail is told what the journal says of it. -/
theorem told (h : Stepped a t pick th n b) : Told a t pick b := by
  obtain ⟨stage, stack⟩ := th
  by_cases offering : ∃ m slept receipt, stage = .offer m slept receipt
  · obtain ⟨m, slept, receipt, rfl⟩ := offering
    have turn := h.turn
    have own := h.own
    have task := h.task
    cases turn with
    | accepted =>
      have journal : b.task.traffic = .accepted m t :: a.task.traffic := by
        rw [task, Task.traffic_log_of_isTraffic _ rfl, Task.traffic_dropDisplaced]
        rfl
      obtain ⟨accepted, refused⟩ := Task.accepted_of_entry journal
      exact .accepted m slept receipt stack h.thread own accepted refused
    | refused _ _ _ why _ reason =>
      have journal : b.task.traffic = .refused m t :: a.task.traffic := by
        rw [task, Task.traffic_log_of_isTraffic _ rfl, Task.traffic_drop]
      obtain ⟨accepted, refused⟩ := Task.refused_of_entry journal
      exact .refused m slept receipt stack why h.thread reason own accepted refused
    | waited =>
      have journal : b.task.traffic = a.task.traffic := by
        rw [task]
        rfl
      refine .neither (congrArg (history _) journal) (congrArg (history _) journal) fun m' slept' receipt' stack' before => ?_
      cases h.thread.symm.trans before
      exact own
  · obtain ⟨accepted, refused⟩ := h.settled_same fun m slept receipt hs => offering ⟨m, slept, receipt, hs⟩
    refine .neither accepted refused fun m slept receipt stack' before => ?_
    cases h.thread.symm.trans before
    exact absurd ⟨m, slept, receipt, rfl⟩ offering

end World.Stepped

/-! ## Exactly once -/

/-- How often a mail, known by its ticket, stands in a list. -/
def times (t : Ticket) (ms : List (Letter σ ν)) : Nat := ms.countP fun m => m.ticket == t

theorem times_append (t : Ticket) (ms ms' : List (Letter σ ν)) : times t (ms ++ ms') = times t ms + times t ms' :=
  List.countP_append

theorem times_perm {ms ms' : List (Letter σ ν)} (h : ms.Perm ms') (t : Ticket) : times t ms = times t ms' := h.countP_eq _

theorem times_pos {m : Letter σ ν} {ms : List (Letter σ ν)} (h : m ∈ ms) : 0 < times m.ticket ms :=
  List.countP_pos_iff.mpr ⟨m, h, by simp⟩

/-- Lists with the same mail of each kind have the same mail. -/
theorem perm_of_ofKind {ms ms' : List (Letter σ ν)} (h : ∀ κ, ofKind κ ms = ofKind κ ms') : ms.Perm ms' := by
  classical
  refine List.perm_iff_count.mpr fun m => ?_
  have hcount : ∀ ms : List (Letter σ ν), (ofKind m.kind ms).count m = ms.count m := fun ms => List.count_filter (by simp)
  rw [← hcount ms, ← hcount ms', h]

/-- What the history of a world says of the mail that was put into the mailbox. -/
structure Delivered (w : World σ ν) : Prop where
  /-- Every put that was begun was accepted, or was turned away, or is under way. -/
  settled : ∀ t, times t (w.task.offers.map (·.1)) =
    times t (w.task.accepted.map (·.1)) + times t (w.task.refused.map (·.1)) + times t w.pending
  /-- What was accepted was taken, or thrown out when the mailbox was closed, or is queued. -/
  placed : ∀ t, times t (w.task.accepted.map (·.1)) =
    times t (w.task.taken.map (·.1)) + times t w.task.discarded + times t w.task.queued
  /-- Mail that was put once and accepted is in one of these places, and there once. -/
  once : ∀ m p, (m, p) ∈ w.task.accepted → times m.ticket (w.task.offers.map (·.1)) = 1 →
    times m.ticket (w.task.taken.map (·.1)) + times m.ticket w.task.discarded + times m.ticket w.task.queued = 1
  /-- Mail that was put once and turned away is in none of them. -/
  nowhere : ∀ m p, (m, p) ∈ w.task.refused → times m.ticket (w.task.offers.map (·.1)) = 1 →
    times m.ticket (w.task.taken.map (·.1)) + times m.ticket w.task.discarded + times m.ticket w.task.queued = 0
  /-- The mailbox was closed once if it is closed, and not at all otherwise. -/
  closing : w.task.closings.length = if w.task.mailbox.status = .closed then 1 else 0
  /-- No action began twice. -/
  begun : w.task.begun.Nodup
  /-- Mail of one kind was accepted in the order in which it was taken, and then thrown out, and is queued. -/
  fifo : ∀ κ, ofKind κ (w.task.accepted.map (·.1)) =
    ofKind κ (w.task.taken.map (·.1)) ++ ofKind κ w.task.discarded ++ ofKind κ w.task.queued
  /-- Mail of one kind that a thread put is taken in the order in which the thread put it: once the later of two mails was taken, the
  earlier one was taken before, unless it was turned away. -/
  order : ∀ p a b, times a.ticket (w.task.offers.map (·.1)) = 1 → times b.ticket (w.task.offers.map (·.1)) = 1 →
    [a, b].Sublist (putBy p w.task.offers) → a.kind = b.kind → a ∈ w.task.accepted.map (·.1) → b ∈ w.task.taken.map (·.1) →
    [a, b].Sublist (w.task.taken.map (·.1))
  /-- The count of the task is the number of mails that were taken to be run by the main loop or a step, but for one at most that is
  about to be counted. -/
  counted : w.task.processor.processed + w.uncounted = w.task.taken.countP fun taking => taking.2 = .loop ∨ taking.2 = .step
  late : w.uncounted ≤ 1
  /-- The count is not above the number of mails that were accepted. -/
  bounded : w.task.processor.processed ≤ w.task.accepted.length
  /-- So a word of 64 bits holds it, and does not start over, as long as it can hold that number. -/
  word : w.task.accepted.length < 2 ^ 64 → w.task.processor.processed.toUInt64.toNat = w.task.processor.processed
  /-- Whatever step comes next, a put that it adds to the accepted ones is answered as accepted, and one that it adds to those that were
  turned away is answered with the reason. -/
  told : ∀ t pick b, w.step? t pick = some b → Told w t pick b

/-- What one reading of the entries finds, a reading that finds more finds too. -/
theorem history_sublist {β : Type} {f g : Occurrence σ ν → Option β} (h : ∀ e b, f e = some b → g e = some b)
    (journal : List (Occurrence σ ν)) : List.Sublist (history f journal) (history g journal) := by
  induction journal with
  | nil => exact List.Sublist.refl _
  | cons e journal ih =>
    rw [history_cons, history_cons]
    refine ih.append ?_
    cases hf : f e with
    | none => exact List.nil_sublist _
    | some b => rw [h e b hf]

/-- Each mail that was taken for the main loop or a step counts once. -/
theorem sum_counts (takings : List (Letter σ ν × Purpose)) : (takings.map fun taking => taking.2.counts).sum =
    takings.countP fun taking => taking.2 = .loop ∨ taking.2 = .step := by
  induction takings with
  | nil => rfl
  | cons taking takings ih =>
    obtain ⟨m, purpose⟩ := taking
    rw [List.map_cons, List.sum_cons, List.countP_cons, ih]
    cases purpose <;> simp [Purpose.counts] <;> omega

/-- A put is settled by being accepted or turned away. -/
theorem settled_perm (w : Task σ ν) : w.settled.Perm (w.accepted ++ w.refused) := by
  unfold Task.settled Task.accepted Task.refused
  induction w.traffic with
  | nil => exact List.Perm.refl _
  | cons e journal ih =>
    rw [history_cons, history_cons, history_cons]
    cases e with
    | accepted m sender =>
      refine (ih.append_right _).trans ?_
      simp only [Occurrence.refusal?, Option.toList_none, List.append_nil, List.append_assoc]
      exact List.perm_append_comm.append_left _
    | refused m sender =>
      refine (ih.append_right _).trans ?_
      simp only [Occurrence.acceptance?, Option.toList_none, List.append_nil, List.append_assoc]
      exact List.Perm.refl _
    | _ =>
      simp only [Occurrence.acceptance?, Occurrence.refusal?, Occurrence.settlement?, Option.toList_none, List.append_nil]
      exact ih

namespace World.Possible

variable {w : World σ ν}

/-- An action that began twice would have begun twice in the life of its mail. -/
theorem begun_nodup (h : Possible w) : w.task.begun.Nodup := by
  refine List.nodup_iff_count_le_one.mpr fun t => ?_
  have hcount : w.task.begun.count t = (w.ledger.life t).countP fun e => e.beginning?.isSome := by
    rw [Ledger.life, List.countP_filter, Task.begun, history, List.count_filterMap, List.countP_reverse]
    refine List.countP_congr fun e _ => ?_
    cases e with
    | started t' => simp [Occurrence.beginning?, Occurrence.lifeOf?]
    | _ => simp [Occurrence.beginning?]
  rw [hcount]
  have hs := h.good.sound
  by_cases hoff : ∃ m, w.ledger.Offered m ∧ m.ticket = t
  · obtain ⟨m, hm, rfl⟩ := hoff
    rcases hs.places m hm with hp | hp | hp | ⟨-, hp⟩
    · rw [hs.waiting m hp]
      exact Nat.zero_le 1
    · have hrun : w.ledger.life m.ticket = [.started m.ticket] := hs.running m.tag hp
      rw [hrun]
      exact Nat.le_refl 1
    · generalize w.ledger.life m.ticket = life at hp ⊢
      cases hp with
      | dropped => exact Nat.zero_le 1
      | skipped => exact Nat.zero_le 1
      | ended how caught hc => exact Nat.le_refl 1
    · rw [hp]
      exact Nat.zero_le 1
  · rw [hs.fresh t fun m hm hmt => hoff ⟨m, hm, hmt⟩]
    exact Nat.zero_le 1

/-- What was accepted was taken, or thrown out, or is queued. -/
theorem accepted_perm (h : Flow w.task) :
    (w.task.accepted.map (·.1)).Perm (w.task.taken.map (·.1) ++ w.task.discarded ++ w.task.queued) := by
  refine perm_of_ofKind fun κ => ?_
  rw [h.fifo κ, ofKind_append, ofKind_append]

/-- The same for each mail, by how often it stands in the lists. -/
theorem placed (h : Flow w.task) (t : Ticket) : times t (w.task.accepted.map (·.1)) =
    times t (w.task.taken.map (·.1)) + times t w.task.discarded + times t w.task.queued := by
  rw [times_perm (accepted_perm h), times_append, times_append]

/-- No more mail was taken than was accepted. -/
theorem length_taken_le (h : Flow w.task) : w.task.taken.length ≤ w.task.accepted.length := by
  have hlength := (accepted_perm h).length_eq
  simp only [List.length_append, List.length_map] at hlength
  omega

/-- Each put that was begun is accepted, turned away, or under way. -/
theorem settled (h : Possible w) (t : Ticket) : times t (w.task.offers.map (·.1)) =
    times t (w.task.accepted.map (·.1)) + times t (w.task.refused.map (·.1)) + times t w.pending := by
  rw [times_perm h.posted.all, times_append, times_perm ((settled_perm w.task).map _), List.map_append, times_append]

/-- A thread has begun the puts of it that were accepted, in the same order. -/
theorem accepted_sublist (h : Possible w) (p : ThreadId) : List.Sublist (putBy p w.task.accepted) (putBy p w.task.offers) := by
  rw [h.posted.each p]
  have hsub : List.Sublist w.task.accepted w.task.settled := by
    refine history_sublist (fun e put he => ?_) w.task.traffic
    cases e with
    | accepted m sender => exact he
    | _ => cases he
  exact ((hsub.filter _).map _).trans (List.sublist_append_left _ _)

/-- A put that was accepted was begun by the same thread. -/
theorem mem_offers_of_accepted (h : Possible w) {m : Letter σ ν} {p : ThreadId} (hm : (m, p) ∈ w.task.accepted) :
    (m, p) ∈ w.task.offers := by
  have hby : m ∈ putBy p w.task.accepted := List.mem_map.mpr ⟨(m, p), List.mem_filter.mpr ⟨hm, by simp⟩, rfl⟩
  obtain ⟨⟨m', q⟩, hput, hmm⟩ := List.mem_map.mp ((h.accepted_sublist p).subset hby)
  obtain ⟨hmem, hq⟩ := List.mem_filter.mp hput
  have hq' : q = p := by simpa using hq
  have hm' : m' = m := hmm
  rw [hq', hm'] at hmem
  exact hmem

/-- Mail that a thread put once was accepted from that thread, if it was accepted. -/
theorem mem_putBy_accepted (h : Possible w) {m : Letter σ ν} {p : ThreadId} (hoff : m ∈ putBy p w.task.offers)
    (hone : times m.ticket (w.task.offers.map (·.1)) = 1) (hacc : m ∈ w.task.accepted.map (·.1)) :
    m ∈ putBy p w.task.accepted := by
  obtain ⟨⟨m', q⟩, hput, hmm⟩ := List.mem_map.mp hacc
  obtain ⟨⟨m'', p'⟩, hput', hmm'⟩ := List.mem_map.mp hoff
  obtain ⟨hmem, hp⟩ := List.mem_filter.mp hput'
  have hm' : m' = m := hmm
  have hm'' : m'' = m := hmm'
  have hp' : p' = p := by simpa using hp
  rw [hm'] at hput
  rw [hm'', hp'] at hmem
  have hcount : w.task.offers.countP (fun put => put.1.ticket == m.ticket) = 1 := by
    rw [times, List.countP_map] at hone
    exact hone
  have heq := eq_of_countP_eq_one hcount (h.mem_offers_of_accepted hput) (by simp) hmem (by simp)
  cases heq
  exact List.mem_map.mpr ⟨(m, p), List.mem_filter.mpr ⟨hput, by simp⟩, rfl⟩

/-- Once the later of two mails was taken that a thread put, the earlier one was taken before. -/
theorem taken_in_order (h : Possible w) (hf : Flow w.task) {p : ThreadId} {a b : Letter σ ν}
    (ha : times a.ticket (w.task.offers.map (·.1)) = 1) (hb : times b.ticket (w.task.offers.map (·.1)) = 1)
    (hab : [a, b].Sublist (putBy p w.task.offers)) (hkind : a.kind = b.kind) (hacc : a ∈ w.task.accepted.map (·.1))
    (htaken : b ∈ w.task.taken.map (·.1)) : [a, b].Sublist (w.task.taken.map (·.1)) := by
  have hplaced := placed hf b.ticket
  have hsettled := h.settled b.ticket
  have hpos := times_pos htaken
  have hb' : b ∈ w.task.accepted.map (·.1) := by
    have hκ : b ∈ ofKind b.kind (w.task.accepted.map (·.1)) := by
      rw [hf.fifo]
      have hmem : b ∈ ofKind b.kind (w.task.taken.map (·.1)) := List.mem_filter.mpr ⟨htaken, by simp⟩
      exact List.mem_append_left _ (List.mem_append_left _ hmem)
    exact (List.mem_filter.mp hκ).1
  have hmemA := h.mem_putBy_accepted (hab.subset (by simp)) ha hacc
  have hmemB := h.mem_putBy_accepted (hab.subset (by simp)) hb hb'
  have hsubO : List.Sublist (putBy p w.task.offers) (w.task.offers.map (·.1)) := List.filter_sublist.map _
  have hcount : ∀ c ∈ putBy p w.task.offers, times c.ticket (w.task.offers.map (·.1)) = 1 →
      (putBy p w.task.offers).countP (fun z => z.ticket == c.ticket) = 1 := by
    intro c hc hone
    have hle : times c.ticket (putBy p w.task.offers) ≤ times c.ticket (w.task.offers.map (·.1)) := hsubO.countP_le
    have hge := times_pos hc
    unfold times at hle hge hone
    omega
  have hpair : [a, b].Sublist (putBy p w.task.accepted) :=
    pair_sublist_of_sublist (t := Mail.ticket) (h.accepted_sublist p) hab (hcount a (hab.subset (by simp)) ha)
      (hcount b (hab.subset (by simp)) hb) hmemA hmemB
  have hsubA : List.Sublist (putBy p w.task.accepted) (w.task.accepted.map (·.1)) := List.filter_sublist.map _
  have hpairA : [a, b].Sublist (ofKind b.kind (w.task.accepted.map (·.1))) := by
    have hself : ofKind b.kind [a, b] = [a, b] := by simp [ofKind, hkind]
    rw [← hself]
    exact (hpair.trans hsubA).filter _
  rw [hf.fifo, List.append_assoc] at hpairA
  have hlast : b ∉ ofKind b.kind w.task.discarded ++ ofKind b.kind w.task.queued := by
    rw [List.mem_append]
    rintro (hmem | hmem)
    · have := times_pos (List.mem_filter.mp hmem).1
      omega
    · have := times_pos (List.mem_filter.mp hmem).1
      omega
  exact (pair_sublist_of_append hpairA hlast).trans List.filter_sublist

/-- Only the mailbox thread takes mail that it has to count, one mail at a time. -/
theorem uncounted_le (h : Possible w) : w.uncounted ≤ 1 := by
  have hle : ∀ stage : Stage σ ν, stage.uncounted ≤ stage.servings := by
    intro stage
    induction stage with
    | shut next ih | wakeAll next ih | drop ms next ih | markClosed next ih => exact ih
    | serve m whole => exact Nat.le_refl 1
    | _ => exact Nat.zero_le _
  refine sum_le_one (o := w.task.mailbox.owner) fun i th hi => ?_
  obtain ⟨hone, howner⟩ := h.serving hi
  have hth : th.stage.uncounted ≤ th.servings := Nat.le_trans (hle th.stage) (Nat.le_add_left _ _)
  exact ⟨Nat.le_trans hth hone, fun hpos => howner (Nat.lt_of_lt_of_le hpos hth)⟩

/-- The count of the task, with the mails still to be counted, is the number of mails that the main loop and the steps took. -/
theorem counted (h : Possible w) : w.task.processor.processed + w.uncounted =
    w.task.taken.countP fun taking => taking.2 = .loop ∨ taking.2 = .step := by
  rw [h.posted.count, sum_counts]

/-- What is counted was taken, and what was taken was accepted. -/
theorem processed_le (h : Possible w) (hf : Flow w.task) : w.task.processor.processed ≤ w.task.accepted.length :=
  calc w.task.processor.processed
    _ ≤ w.task.taken.countP fun taking => taking.2 = .loop ∨ taking.2 = .step := h.counted ▸ Nat.le_add_right _ _
    _ ≤ w.task.taken.length := List.countP_le_length
    _ ≤ w.task.accepted.length := length_taken_le hf

end World.Possible

/-- In every world that is possible, and so at every moment under every order of steps, mail is delivered exactly once and in
order, as `Delivered` says. This holds as long as fewer than `2 ^ 64` mails that are not urgent were accepted. -/
theorem delivery {w : World σ ν} (h : w.Possible) (few : w.task.accepted.countP (fun put => !put.1.isUrgent) < 2 ^ 64) :
    Delivered w := by
  have hf := h.flow few
  have hplaced := World.Possible.placed hf
  have hsettled := h.settled
  have hbounded := h.processed_le hf
  exact {
    settled := hsettled
    placed := hplaced
    once := fun m p hm hone => by
      have hpos : 0 < times m.ticket (w.task.accepted.map (·.1)) := times_pos (List.mem_map.mpr ⟨(m, p), hm, rfl⟩)
      have := hsettled m.ticket
      have := hplaced m.ticket
      omega
    nowhere := fun m p hm hone => by
      have hpos : 0 < times m.ticket (w.task.refused.map (·.1)) := times_pos (List.mem_map.mpr ⟨(m, p), hm, rfl⟩)
      have := hsettled m.ticket
      have := hplaced m.ticket
      omega
    closing := by
      split
      · rename_i hc
        exact hf.closed hc
      · rename_i hc
        rw [hf.unclosed hc]
        rfl
    begun := h.begun_nodup
    fifo := hf.fifo
    order := fun p a b ha hb hab hkind hacc htaken => h.taken_in_order hf ha hb hab hkind hacc htaken
    counted := h.counted
    late := h.uncounted_le
    bounded := hbounded
    word := fun small => UInt64.toNat_ofNat_of_lt (Nat.lt_of_le_of_lt hbounded small)
    told := fun t pick b hstep => by
      obtain ⟨th, n, hs⟩ := World.step?_eq_some hstep
      exact hs.told }

/-- A task with one slot, whose thread makes a step, and two other threads that send mail. -/
def twoSenders : World Unit Nat :=
  .start (.new ⟨1⟩ 0 none (fun _ => .finish (.returned 0)) ())
    [.call false .step fun _ => .finish (.returned 0),
      .post ⟨⟨"first", []⟩, .empty, 0⟩ (.finish (.returned 1)) fun _ => .finish (.returned 0),
      .post ⟨⟨"second", []⟩, .empty, 0⟩ (.finish (.returned 2)) fun _ => .finish (.returned 0)]

/-- The second mail waits for the first one to be taken. -/
def secondWaits : List Move :=
  [.step 1 0, .step 2 0, .step 1 0, .step 2 0, .step 0 0, .step 0 0, .step 2 0, .step 0 0]

/-- With a mailbox of one slot both mails come in, one after the other, and the account is right. -/
theorem delivery_of_two_senders : ∃ w : World Unit Nat, twoSenders.moves secondWaits = some w ∧ w.task.accepted.length = 2 ∧
    w.task.taken.length = 1 ∧ Delivered w := by
  have possible : twoSenders.Possible := ⟨⟨1⟩, 0, none, _, (), _, .here⟩
  refine ⟨_, rfl, rfl, rfl, delivery (possible.reach ?_) ?_⟩
  · exact .of_moves secondWaits rfl
  · decide

end Mailroom
