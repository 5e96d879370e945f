import Mailroom.Proofs.Lanes
import Mailroom.Proofs.Task
import Mailroom.Thread.Step

/-!
# One list instead of two lanes

A mailbox behaves like one list of mail in the order of acceptance, with a status and a capacity (`Reference`): a put appends, and
a take removes the first urgent mail, else the first mail that it may take. `Operation.run` carries out operations of any threads on
a task, each as the section under the lock that it is; `Reference.run` carries them out on the list. Both give the same answers
(`run_eq_reference`), as long as the count of keys has not come around.
-/

namespace Mailroom

variable {α σ ν : Type}

/-- What a thread does with a mailbox. -/
inductive Operation (σ ν : Type) where
  | put (m : Letter σ ν)
  | take (choice : Choice) (patient : Bool)
  | quiesce
  | close

/-- What comes of an operation. -/
structure Answer (σ ν : Type) where
  /-- What the caller is told; nothing, if it waits. -/
  reply : Option (Reply ν)
  /-- The mail that the caller is handed. -/
  handed : List (Letter σ ν)

/-- One try of thread `me` at an operation; a thread that waits tries again later. `pick` says which sleeper is woken. -/
structure Attempt (σ ν : Type) where
  me : ThreadId
  pick : Nat
  operation : Operation σ ν

/-! ## The mailbox of a task -/

namespace Operation

/-- Where a thread stands that has called. -/
def enter (w : Task σ ν) (me : ThreadId) : Operation σ ν → Stage σ ν
  | put m => .offer m false .plain
  | take choice patient => (Thread.call w me [] (.take choice patient)).2
  | quiesce => (Thread.call w me [] .quiesceMailbox).2
  | close => (Thread.call w me [] .closeMailbox).2

/-- The reply that a thread has, or has once it has woken all sleepers. -/
def told? : Stage σ ν → Option (Reply ν)
  | .answer r => some r
  | .wakeAll next => told? next
  | _ => none

/-- The section under the lock that an operation is, unless the call is answered before. -/
def perform (w : Task σ ν) (a : Attempt σ ν) : Task σ ν × Option (Reply ν) :=
  match told? (a.operation.enter w a.me) with
  | some r => (w, some r)
  | none =>
    match Thread.stepStage w a.me a.pick [] (a.operation.enter w a.me) with
    | some (after, thread) => (after, told? thread.stage)
    | none => (w, none)

/-- An operation on a task, with its answer: the mail that comes into hand is the mail that is handed out. -/
def apply (w : Task σ ν) (a : Attempt σ ν) : Task σ ν × Answer σ ν :=
  let next := perform w a
  (next.1, ⟨next.2, next.1.hand.drop w.hand.length⟩)

/-- Operations in a row, with their answers. -/
def run (w : Task σ ν) : List (Attempt σ ν) → Task σ ν × List (Answer σ ν)
  | [] => (w, [])
  | a :: rest =>
    let next := apply w a
    let final := run next.1 rest
    (final.1, next.2 :: final.2)

/-- The operation puts mail that is not urgent. -/
def isPlainPut : Operation σ ν → Bool
  | put m => !m.isUrgent
  | _ => false

end Operation

/-! ## The reference -/

/-- A queue in one list, oldest mail first. -/
structure Reference (α : Type) where
  queue : List (Mail α)
  status : Mailbox.Status
  capacity : Nat

namespace Reference

/-- The first element that a test admits, and the list without it. -/
def pickFirst {β : Type} (p : β → Bool) (l : List β) : Option (β × List β) := (l.find? p).map fun b => (b, l.eraseP p)

/-- A yield with threshold `p` may take this mail, urgent mail aside. -/
def isOpen (p : Priority) (m : Mail α) : Bool := !m.isDeferrable && p ≤ m.priority

/-- The mail that a take chooses, and the queue without it: the first urgent mail, else the first mail that the take may take. -/
def choose (queue : List (Mail α)) (choice : Choice) : Option (Mail α × List (Mail α)) :=
  match pickFirst (·.isUrgent) queue with
  | some chosen => some chosen
  | none =>
    match choice with
    | .oldest => pickFirst (fun _ => true) queue
    | .eligible p => pickFirst (isOpen p) queue

/-- The queue in the order in which closing gives it back: urgent mail first. -/
def closing (queue : List (Mail α)) : List (Mail α) := queue.filter (·.isUrgent) ++ queue.filter (!·.isUrgent)

def new (config : Config) : Reference α := ⟨[], .accepting, max config.capacity 1⟩

/-- What a take is told that finds nothing in a quiesced mailbox and would have to wait. -/
def drained : Choice → Reply ν
  | .oldest => .mail none
  | .eligible _ => .failed (.rejected .nothingEligible)

/-- An operation on the reference. -/
def apply (r : Reference (Job σ ν)) (owner : ThreadId) (a : Attempt σ ν) : Reference (Job σ ν) × Answer σ ν :=
  match a.operation with
  | .put m =>
    match r.status with
    | .closed => (r, ⟨some (.failed .closed), []⟩)
    | .quiesced => (r, ⟨some (.failed (.rejected .quiesced)), []⟩)
    | .accepting =>
      if r.queue.length < r.capacity then ({ r with queue := r.queue ++ [m] }, ⟨some .done, []⟩)
      else if a.me = owner then (r, ⟨some (.failed (.rejected .full)), []⟩)
      else (r, ⟨none, []⟩)
  | .take choice patient =>
    if a.me ≠ owner then (r, ⟨some (.failed (.wrongThread (Thread.dutyOfTake choice patient))), []⟩)
    else if r.status = .closed then (r, ⟨some (.failed .closed), []⟩)
    else
      match choose r.queue choice with
      | some (m, rest) => ({ r with queue := rest }, ⟨some (.mail (some m.ticket)), [m]⟩)
      | none =>
        if !patient then (r, ⟨some (.mail none), []⟩)
        else if r.status = .quiesced then (r, ⟨some (drained choice), []⟩)
        else (r, ⟨none, []⟩)
  | .quiesce => (if r.status = .accepting then { r with status := .quiesced } else r, ⟨some .done, []⟩)
  | .close =>
    if r.status = .closed then (r, ⟨some (.mails []), []⟩)
    else ({ r with queue := [], status := .closed }, ⟨some (.mails ((closing r.queue).map Mail.ticket)), closing r.queue⟩)

/-- Operations in a row on the reference, with their answers. -/
def run (r : Reference (Job σ ν)) (owner : ThreadId) : List (Attempt σ ν) → Reference (Job σ ν) × List (Answer σ ν)
  | [] => (r, [])
  | a :: rest =>
    let next := r.apply owner a
    let final := run next.1 owner rest
    (final.1, next.2 :: final.2)

theorem pickFirst_eq_none {β : Type} {p : β → Bool} {l : List β} (h : ∀ x ∈ l, ¬p x = true) : pickFirst p l = none := by
  simp [pickFirst, List.find?_eq_none.mpr h]

theorem pickFirst_eq_some {β : Type} {p : β → Bool} {pre post : List β} {b : β} (hpre : ∀ x ∈ pre, ¬p x = true)
    (hb : p b = true) : pickFirst p (pre ++ b :: post) = some (b, pre ++ post) := by
  have hf : (pre ++ b :: post).find? p = some b :=
    List.find?_eq_some_iff_append.mpr ⟨hb, pre, post, rfl, by simpa using hpre⟩
  simp [pickFirst, hf, List.eraseP_append_right _ hpre, hb]

end Reference

/-- A mailbox stands for a reference: the two lanes are the urgent mail of the queue and the rest of it, each in its order. -/
structure Represents (b : Mailbox α) (r : Reference α) : Prop where
  urgent : b.lanes.urgent = r.queue.filter (·.isUrgent)
  normal : b.lanes.normal.map (·.2) = r.queue.filter (!·.isUrgent)
  status : b.status = r.status
  capacity : b.capacity = r.capacity

namespace Represents

variable {b : Mailbox α} {r : Reference α}

theorem new (config : Config) (owner : ThreadId) : Represents (Mailbox.new config owner : Mailbox α) (.new config) :=
  ⟨rfl, rfl, rfl, rfl⟩

/-- As many mails are queued in both. -/
theorem length (h : Represents b r) : b.length = r.queue.length := by
  have hn := congrArg List.length h.normal
  rw [List.length_map] at hn
  have hsplit := List.length_eq_countP_add_countP (fun m : Mail α => m.isUrgent) (l := r.queue)
  simp only [Mailbox.length, Lanes.length, h.urgent, hn, ← List.countP_eq_length_filter]
  simpa using hsplit.symm

theorem isFull (h : Represents b r) : b.isFull = decide (r.capacity ≤ r.queue.length) := by
  rw [Mailbox.isFull, h.length, h.capacity]

/-- What closing gives back. -/
theorem toList (h : Represents b r) : b.lanes.toList = Reference.closing r.queue := by
  rw [Lanes.toList, h.urgent, h.normal, Reference.closing]

/-- Both take the same mail, or none. -/
theorem choose_of_pop_eq_some (h : Represents b r) (hw : b.lanes.WellFormed) {choice : Choice} {m : Mail α} {l' : Lanes α}
    (hp : b.lanes.pop choice = some (m, l')) : ∃ rest, Reference.choose r.queue choice = some (m, rest) ∧
      l'.urgent = rest.filter (·.isUrgent) ∧ l'.normal.map (·.2) = rest.filter (!·.isUrgent) := by
  rcases (Lanes.pop_eq_some hw hp).lanes with ⟨rest, hu, hu', hn'⟩ | ⟨hu, hu', pre, key, post, hn, hn', hc⟩
  · obtain ⟨before, after, hq, hbefore, hm, hafter⟩ := List.filter_eq_cons_iff.mp (h.urgent.symm.trans hu)
    refine ⟨before ++ after, ?_, ?_, ?_⟩
    · unfold Reference.choose
      rw [hq, Reference.pickFirst_eq_some hbefore hm]
    · rw [hu', List.filter_append, List.filter_eq_nil_iff.mpr hbefore, hafter, List.nil_append]
    · rw [hn', h.normal, hq]
      simp [hm]
  · have hall : ∀ x ∈ r.queue, ¬x.isUrgent = true := List.filter_eq_nil_iff.mp (h.urgent.symm.trans hu)
    have hself : r.queue.filter (!·.isUrgent) = r.queue := List.filter_eq_self.mpr (by simpa using hall)
    have hq : r.queue = pre.map (·.2) ++ m :: post.map (·.2) := by
      rw [← hself, ← h.normal, hn]
      simp
    have hrest : ∀ x ∈ pre.map (·.2) ++ post.map (·.2), ¬x.isUrgent = true := by
      intro x hx
      refine hall x ?_
      rw [hq]
      rcases List.mem_append.mp hx with hx | hx
      · exact List.mem_append_left _ hx
      · exact List.mem_append_right _ (List.mem_cons_of_mem _ hx)
    have hm : ¬m.isUrgent = true := hall m (by rw [hq]; simp)
    refine ⟨pre.map (·.2) ++ post.map (·.2), ?_, ?_, ?_⟩
    · unfold Reference.choose
      rw [Reference.pickFirst_eq_none hall, hq]
      rcases hc with ⟨rfl, rfl⟩ | ⟨p, rfl, hel, hpre⟩
      · exact Reference.pickFirst_eq_some (by simp) rfl
      · refine Reference.pickFirst_eq_some (fun x hx => ?_) ?_
        · obtain ⟨e, he, rfl⟩ := List.mem_map.mp hx
          have hne := hpre e he
          simp only [Envelope.isEligible, Bool.or_eq_false_iff] at hne
          simpa [Reference.isOpen] using hne.2
        · simpa [Envelope.isEligible, hm, Reference.isOpen] using hel
    · rw [hu', List.filter_eq_nil_iff.mpr hrest]
    · rw [hn', List.filter_eq_self.mpr (by simpa using hrest), List.map_append]

theorem choose_of_pop_eq_none (h : Represents b r) (hw : b.lanes.WellFormed) {choice : Choice}
    (hp : b.lanes.pop choice = none) : Reference.choose r.queue choice = none := by
  obtain ⟨hu, hn⟩ := (Lanes.pop_eq_none_iff hw).mp hp
  have hall : ∀ x ∈ r.queue, ¬x.isUrgent = true := List.filter_eq_nil_iff.mp (h.urgent.symm.trans hu)
  have hq : r.queue = b.lanes.normal.map (·.2) := by
    rw [h.normal, List.filter_eq_self.mpr (by simpa using hall)]
  unfold Reference.choose
  rw [Reference.pickFirst_eq_none hall, hq]
  cases choice with
  | oldest =>
    refine Reference.pickFirst_eq_none fun x hx => ?_
    obtain ⟨e, he, rfl⟩ := List.mem_map.mp hx
    obtain ⟨p, hp, -⟩ := hn e he
    exact absurd hp (by simp)
  | eligible q =>
    refine Reference.pickFirst_eq_none fun x hx => ?_
    obtain ⟨e, he, rfl⟩ := List.mem_map.mp hx
    obtain ⟨p, hp, hel⟩ := hn e he
    cases hp
    simp only [Envelope.isEligible, Bool.or_eq_false_iff] at hel
    simpa [Reference.isOpen] using hel.2

end Represents

/-! ## One operation, and operations in a row -/

/-- A task stands for a reference, after `n` mails were put that are not urgent. -/
structure Simulates (n : Nat) (w : Task σ ν) (r : Reference (Job σ ν)) : Prop where
  represents : Represents w.mailbox r
  wellFormed : w.mailbox.lanes.WellFormed
  counted : w.mailbox.lanes.Counted n

namespace Simulates

variable {n : Nat} {w : Task σ ν} {r : Reference (Job σ ν)}

/-- Another task with the same lanes, status and capacity stands for the same reference. -/
theorem congr (h : Simulates n w r) {w' : Task σ ν} (hl : w'.mailbox.lanes = w.mailbox.lanes)
    (hs : w'.mailbox.status = w.mailbox.status) (hc : w'.mailbox.capacity = w.mailbox.capacity) : Simulates n w' r :=
  ⟨⟨hl ▸ h.represents.urgent, hl ▸ h.represents.normal, hs ▸ h.represents.status, hc ▸ h.represents.capacity⟩,
    hl ▸ h.wellFormed, hl ▸ h.counted⟩

end Simulates

/-- A task and a reference after the same operation: they gave the same answer, and the one stands for the other. -/
structure InStep (n : Nat) (owner : ThreadId) (x : Task σ ν × Answer σ ν) (y : Reference (Job σ ν) × Answer σ ν) : Prop where
  answer : x.2 = y.2
  owner : x.1.mailbox.owner = owner
  simulates : Simulates n x.1 y.1

section

variable {n : Nat} {w : Task σ ν} {r : Reference (Job σ ν)}

/-- A mail for which there is room stands at the end of its lane, and at the end of the queue. -/
theorem Represents.push {b : Mailbox α} {r : Reference α} (h : Represents b r) (hc : b.lanes.Counted n) (hn : n < 2 ^ 64)
    (m : Mail α) (takers : List ThreadId) :
    Represents { b with lanes := b.lanes.push m, takers := takers } { r with queue := r.queue ++ [m] } := by
  refine ⟨?_, ?_, h.status, h.capacity⟩
  · simp only [Lanes.urgent_push, List.filter_append, h.urgent]
    by_cases hm : m.isUrgent = true <;> simp [hm]
  · by_cases hm : m.isUrgent = true
    · simp [Lanes.push, hm, h.normal]
    · simp [hc.normal_push hn (by simpa using hm), hm, h.normal]

/-- What comes of a put is what comes of the section under the lock. -/
theorem apply_put (w : Task σ ν) (me : ThreadId) (pick : Nat) (m : Letter σ ν) : Operation.apply w ⟨me, pick, .put m⟩ =
    ((Thread.stepOffer w me pick m .plain).1, ⟨Operation.told? (Thread.stepOffer w me pick m .plain).2,
      (Thread.stepOffer w me pick m .plain).1.hand.drop w.hand.length⟩) := rfl

/-- A put that is turned away leaves the lanes as they are. -/
theorem refused_inStep (h : Simulates n w r) {m : Letter σ ν} {me : ThreadId} {pick : Nat} (why : Failure)
    (ho : w.mailbox.offer me m pick = .refused why) (hr : r.apply w.mailbox.owner ⟨me, pick, .put m⟩ = (r, ⟨some (.failed why), []⟩)) :
    InStep n w.mailbox.owner (Operation.apply w ⟨me, pick, .put m⟩) (r.apply w.mailbox.owner ⟨me, pick, .put m⟩) := by
  have hstep : Thread.stepOffer w me pick m .plain = ((w.drop m).log (.refused m me), .answer (.failed why)) := by
    simp [Thread.stepOffer, ho, Thread.turnedAway]
  rw [apply_put, hstep, hr]
  exact ⟨by simp [Operation.told?], by simp, h.congr (by simp) (by simp) (by simp)⟩

/-- Putting a mail, whatever comes of it. -/
theorem put_inStep (h : Simulates n w r) (hn : n < 2 ^ 64) (me : ThreadId) (pick : Nat) (m : Letter σ ν) :
    ∃ n' ≤ n + (if m.isUrgent then 0 else 1), InStep n' w.mailbox.owner (Operation.apply w ⟨me, pick, .put m⟩)
      (r.apply w.mailbox.owner ⟨me, pick, .put m⟩) := by
  have hs := h.represents.status
  have hf := h.represents.isFull
  cases hst : w.mailbox.status with
  | closed =>
    exact ⟨n, by omega, refused_inStep h .closed (by simp [Mailbox.offer, hst]) (by simp [Reference.apply, ← hs, hst])⟩
  | quiesced =>
    exact ⟨n, by omega, refused_inStep h (.rejected .quiesced) (by simp [Mailbox.offer, hst])
      (by simp [Reference.apply, ← hs, hst])⟩
  | accepting =>
    by_cases hroom : r.queue.length < r.capacity
    · have hfull : w.mailbox.isFull = false := by rw [hf]; simpa using hroom
      have hstep : Thread.stepOffer w me pick m .plain =
          ({ w with mailbox := { w.mailbox with lanes := w.mailbox.lanes.push m, takers := Mailbox.wakeOne pick w.mailbox.takers } }.log
            (.accepted m me), .answer .done) := by
        simp [Thread.stepOffer, Mailbox.offer, hst, hfull, h.counted.displaced hn, Thread.received]
      have href : r.apply w.mailbox.owner ⟨me, pick, .put m⟩ = ({ r with queue := r.queue ++ [m] }, ⟨some .done, []⟩) := by
        simp [Reference.apply, ← hs, hst, hroom]
      rw [apply_put, hstep, href]
      refine ⟨if m.isUrgent then n else n + 1, by split <;> omega, by simp [Operation.told?], rfl,
        h.represents.push h.counted hn m _, h.wellFormed.push m, ?_⟩
      by_cases hm : m.isUrgent = true
      · rw [if_pos hm]
        exact h.counted.push_urgent hm
      · rw [if_neg hm]
        exact h.counted.push_plain (by simpa using hm)
    · have hfull : w.mailbox.isFull = true := by rw [hf]; simpa using hroom
      by_cases howner : me = w.mailbox.owner
      · exact ⟨n, by omega, refused_inStep h (.rejected .full) (by simp [Mailbox.offer, hst, hfull, howner])
          (by simp [Reference.apply, ← hs, hst, hroom, howner])⟩
      · have hstep : Thread.stepOffer w me pick m .plain =
            ({ w with mailbox := { w.mailbox with senders := w.mailbox.senders ++ [me] } }, .offer m true .plain) := by
          simp [Thread.stepOffer, Mailbox.offer, hst, hfull, howner]
        have href : r.apply w.mailbox.owner ⟨me, pick, .put m⟩ = (r, ⟨none, []⟩) := by
          simp [Reference.apply, ← hs, hst, hroom, howner]
        rw [apply_put, hstep, href]
        exact ⟨n, by omega, by simp [Operation.told?], rfl, h.congr rfl rfl rfl⟩

/-- What comes of a take on the mailbox thread is what comes of the section under the lock. -/
theorem apply_take (w : Task σ ν) (pick : Nat) (choice : Choice) (patient : Bool) :
    Operation.apply w ⟨w.mailbox.owner, pick, .take choice patient⟩ =
      ((Thread.stepTake w w.mailbox.owner pick [] choice patient .hold).1,
        ⟨Operation.told? (Thread.stepTake w w.mailbox.owner pick [] choice patient .hold).2.stage,
          (Thread.stepTake w w.mailbox.owner pick [] choice patient .hold).1.hand.drop w.hand.length⟩) := by
  have henter : Operation.enter w w.mailbox.owner (.take choice patient) = .take choice patient .hold := by
    simp [Operation.enter, Thread.call, Thread.onDuty]
  simp only [Operation.apply, Operation.perform, henter]
  rfl

/-- A take that finds a mail takes the same one from the queue. -/
theorem taken_inStep (h : Simulates n w r) (pick : Nat) {choice : Choice} (patient : Bool) (hopen : w.mailbox.status ≠ .closed)
    {m : Letter σ ν} {l : Lanes (Job σ ν)} (hp : w.mailbox.lanes.pop choice = some (m, l)) :
    InStep n w.mailbox.owner (Operation.apply w ⟨w.mailbox.owner, pick, .take choice patient⟩)
      (r.apply w.mailbox.owner ⟨w.mailbox.owner, pick, .take choice patient⟩) := by
  have hs := h.represents.status
  obtain ⟨rest, hchoose, hu, hn⟩ := h.represents.choose_of_pop_eq_some h.wellFormed hp
  have hsplit := Lanes.pop_eq_some h.wellFormed hp
  have hstep : Thread.stepTake w w.mailbox.owner pick [] choice patient .hold =
      (({ w with mailbox := { w.mailbox with lanes := l, senders := Mailbox.wakeOne pick w.mailbox.senders } }.log
        (.taken m choice .hold)).hold [m], ⟨.answer (.mail (some m.ticket)), []⟩) := by
    simp [Thread.stepTake, Mailbox.take_of_pop_eq_some hopen hp, Thread.useTaken]
  have href : r.apply w.mailbox.owner ⟨w.mailbox.owner, pick, .take choice patient⟩ =
      ({ r with queue := rest }, ⟨some (.mail (some m.ticket)), [m]⟩) := by
    simp [Reference.apply, ← hs, hopen, hchoose]
  rw [apply_take, hstep, href]
  exact ⟨by simp [Operation.told?], rfl, ⟨hu, hn, hs, h.represents.capacity⟩, hsplit.wellFormed h.wellFormed,
    hsplit.counted h.counted⟩

/-- A take that finds nothing finds nothing in the queue. -/
theorem missed_inStep (h : Simulates n w r) (pick : Nat) {choice : Choice} (patient : Bool) (hopen : w.mailbox.status ≠ .closed)
    (hp : w.mailbox.lanes.pop choice = none) :
    InStep n w.mailbox.owner (Operation.apply w ⟨w.mailbox.owner, pick, .take choice patient⟩)
      (r.apply w.mailbox.owner ⟨w.mailbox.owner, pick, .take choice patient⟩) := by
  have hs := h.represents.status
  have hchoose := h.represents.choose_of_pop_eq_none h.wellFormed hp
  have htake : w.mailbox.take choice pick = .nothing := Mailbox.take_of_pop_eq_none hopen hp
  rw [apply_take]
  cases patient with
  | false =>
    have hstep : Thread.stepTake w w.mailbox.owner pick [] choice false .hold = (w, ⟨.answer (.mail none), []⟩) := by
      simp [Thread.stepTake, htake, Thread.foundNothing]
    have href : r.apply w.mailbox.owner ⟨w.mailbox.owner, pick, .take choice false⟩ = (r, ⟨some (.mail none), []⟩) := by
      simp [Reference.apply, ← hs, hopen, hchoose]
    rw [hstep, href]
    exact ⟨by simp [Operation.told?], rfl, h⟩
  | true =>
    by_cases hq : w.mailbox.status = .quiesced
    · have hstep : Thread.stepTake w w.mailbox.owner pick [] choice true .hold =
          (w, ⟨.answer (Reference.drained choice), []⟩) := by
        cases choice <;> simp [Thread.stepTake, htake, hq, Thread.foundDrained, Reference.drained]
      have href : r.apply w.mailbox.owner ⟨w.mailbox.owner, pick, .take choice true⟩ =
          (r, ⟨some (Reference.drained choice), []⟩) := by
        simp [Reference.apply, ← hs, hq, hchoose]
      rw [hstep, href]
      exact ⟨by simp [Operation.told?], rfl, h⟩
    · have hstep : Thread.stepTake w w.mailbox.owner pick [] choice true .hold =
          ({ w with mailbox := w.mailbox.restTaker w.mailbox.owner }, ⟨.take choice true .hold, []⟩) := by
        simp [Thread.stepTake, htake, hq]
      have href : r.apply w.mailbox.owner ⟨w.mailbox.owner, pick, .take choice true⟩ = (r, ⟨none, []⟩) := by
        simp [Reference.apply, ← hs, hq, hopen, hchoose]
      rw [hstep, href]
      exact ⟨by simp [Operation.told?], rfl, h.congr rfl rfl rfl⟩

/-- Taking a mail, whatever comes of it. -/
theorem take_inStep (h : Simulates n w r) (me : ThreadId) (pick : Nat) (choice : Choice) (patient : Bool) :
    InStep n w.mailbox.owner (Operation.apply w ⟨me, pick, .take choice patient⟩)
      (r.apply w.mailbox.owner ⟨me, pick, .take choice patient⟩) := by
  by_cases howner : me = w.mailbox.owner
  · subst howner
    by_cases hclosed : w.mailbox.status = .closed
    · have hstep : Thread.stepTake w w.mailbox.owner pick [] choice patient .hold = (w, ⟨.answer (.failed .closed), []⟩) := by
        simp [Thread.stepTake, Mailbox.take, hclosed, Thread.foundClosed]
      have href : r.apply w.mailbox.owner ⟨w.mailbox.owner, pick, .take choice patient⟩ = (r, ⟨some (.failed .closed), []⟩) := by
        simp [Reference.apply, ← h.represents.status, hclosed]
      rw [apply_take, hstep, href]
      exact ⟨by simp [Operation.told?], rfl, h⟩
    · cases hp : w.mailbox.lanes.pop choice with
      | some chosen => exact taken_inStep h pick patient hclosed hp
      | none => exact missed_inStep h pick patient hclosed hp
  · have hstep : Operation.apply w ⟨me, pick, .take choice patient⟩ =
        (w, ⟨some (.failed (.wrongThread (Thread.dutyOfTake choice patient))), []⟩) := by
      simp [Operation.apply, Operation.perform, Operation.enter, Thread.call, Thread.onDuty, howner, Operation.told?]
    have href : r.apply w.mailbox.owner ⟨me, pick, .take choice patient⟩ =
        (r, ⟨some (.failed (.wrongThread (Thread.dutyOfTake choice patient))), []⟩) := by
      simp [Reference.apply, howner]
    rw [hstep, href]
    exact ⟨rfl, rfl, h⟩

/-- No new mail from now on. -/
theorem quiesce_inStep (h : Simulates n w r) (me : ThreadId) (pick : Nat) :
    InStep n w.mailbox.owner (Operation.apply w ⟨me, pick, .quiesce⟩) (r.apply w.mailbox.owner ⟨me, pick, .quiesce⟩) := by
  have hs := h.represents.status
  by_cases ha : w.mailbox.status = .accepting
  · have hstep : Operation.apply w ⟨me, pick, .quiesce⟩ =
        ({ w with mailbox := { w.mailbox with status := .quiesced } }, ⟨some .done, []⟩) := by
      simp [Operation.apply, Operation.perform, Operation.enter, Thread.call, Operation.told?, Thread.stepStage, Thread.stay,
        Thread.stepQuiesceMailbox, Mailbox.quiesce, ha]
    have href : r.apply w.mailbox.owner ⟨me, pick, .quiesce⟩ = ({ r with status := .quiesced }, ⟨some .done, []⟩) := by
      simp [Reference.apply, ← hs, ha]
    rw [hstep, href]
    exact ⟨rfl, rfl, ⟨h.represents.urgent, h.represents.normal, rfl, h.represents.capacity⟩, h.wellFormed, h.counted⟩
  · have hstep : Operation.apply w ⟨me, pick, .quiesce⟩ = (w, ⟨some .done, []⟩) := by
      simp [Operation.apply, Operation.perform, Operation.enter, Thread.call, Operation.told?, Thread.stepStage, Thread.stay,
        Thread.stepQuiesceMailbox, Mailbox.quiesce, ha]
    have href : r.apply w.mailbox.owner ⟨me, pick, .quiesce⟩ = (r, ⟨some .done, []⟩) := by
      simp [Reference.apply, ← hs, ha]
    rw [hstep, href]
    exact ⟨rfl, rfl, h⟩

/-- Closing gives back what is queued, the first time. -/
theorem close_inStep (h : Simulates n w r) (me : ThreadId) (pick : Nat) :
    InStep n w.mailbox.owner (Operation.apply w ⟨me, pick, .close⟩) (r.apply w.mailbox.owner ⟨me, pick, .close⟩) := by
  have hs := h.represents.status
  by_cases hc : w.mailbox.status = .closed
  · have hstep : Operation.apply w ⟨me, pick, .close⟩ = (w, ⟨some (.mails []), []⟩) := by
      simp [Operation.apply, Operation.perform, Operation.enter, Thread.call, Operation.told?, Thread.stepStage, Thread.stay,
        Thread.stepSurrender, Mailbox.close, hc]
    have href : r.apply w.mailbox.owner ⟨me, pick, .close⟩ = (r, ⟨some (.mails []), []⟩) := by
      simp [Reference.apply, ← hs, hc]
    rw [hstep, href]
    exact ⟨rfl, rfl, h⟩
  · have hstep : Operation.apply w ⟨me, pick, .close⟩ =
        (({ w with mailbox := { w.mailbox with status := .closed, lanes := w.mailbox.lanes.cleared } }.hold
          w.mailbox.lanes.toList).log (.cleared w.mailbox.lanes.toList),
          ⟨some (.mails (w.mailbox.lanes.toList.map Mail.ticket)), w.mailbox.lanes.toList⟩) := by
      simp [Operation.apply, Operation.perform, Operation.enter, Thread.call, Operation.told?, Thread.stepStage, Thread.stay,
        Thread.stepSurrender, Mailbox.close, hc]
    have href : r.apply w.mailbox.owner ⟨me, pick, .close⟩ = ({ r with queue := [], status := .closed },
        ⟨some (.mails ((Reference.closing r.queue).map Mail.ticket)), Reference.closing r.queue⟩) := by
      simp [Reference.apply, ← hs, hc]
    rw [hstep, href, h.represents.toList]
    exact ⟨rfl, rfl, ⟨rfl, rfl, rfl, h.represents.capacity⟩, h.wellFormed.cleared, h.counted.cleared⟩

/-- One operation, whichever it is: the task and the reference give the same answer and stay in step. -/
theorem apply_inStep (h : Simulates n w r) (hn : n < 2 ^ 64) (a : Attempt σ ν) :
    ∃ n' ≤ n + (if a.operation.isPlainPut then 1 else 0), InStep n' w.mailbox.owner (Operation.apply w a)
      (r.apply w.mailbox.owner a) := by
  obtain ⟨me, pick, operation⟩ := a
  cases operation with
  | put m =>
    obtain ⟨n', hle, hstep⟩ := put_inStep h hn me pick m
    refine ⟨n', ?_, hstep⟩
    by_cases hm : m.isUrgent = true <;> simpa [Operation.isPlainPut, hm] using hle
  | take choice patient => exact ⟨n, by omega, take_inStep h me pick choice patient⟩
  | quiesce => exact ⟨n, by omega, quiesce_inStep h me pick⟩
  | close => exact ⟨n, by omega, close_inStep h me pick⟩

/-- Operations in a row keep a task and its reference in step. -/
theorem run_inStep (as : List (Attempt σ ν)) : ∀ {n : Nat} {w : Task σ ν} {r : Reference (Job σ ν)}, Simulates n w r →
    n + as.countP (fun a => a.operation.isPlainPut) < 2 ^ 64 →
    (Operation.run w as).2 = (r.run w.mailbox.owner as).2 ∧
      Represents (Operation.run w as).1.mailbox (r.run w.mailbox.owner as).1 := by
  induction as with
  | nil =>
    intro n w r h _
    exact ⟨rfl, h.represents⟩
  | cons a as ih =>
    intro n w r h few
    rw [List.countP_cons] at few
    obtain ⟨n', hle, hstep⟩ := apply_inStep h (by omega) a
    obtain ⟨hanswers, hrep⟩ := ih hstep.simulates (by omega)
    rw [hstep.owner] at hanswers hrep
    simp only [Operation.run, Reference.run]
    exact ⟨by rw [hstep.answer, hanswers], hrep⟩

end

/-- From a new mailbox on, operations of any threads in any order have the answers that they have on the reference, and leave in
the lanes what they leave in the one list: the urgent mail of it in one lane, the rest in the other, each in its order. This holds as
long as fewer than `2 ^ 64` mails that are not urgent are put, so that no key comes around while a mail stands under it. -/
theorem run_eq_reference (config : Config) (owner : ThreadId) (defaultAction : Option (Body σ ν))
    (handler : Failure → Body σ ν) (client : σ) (as : List (Attempt σ ν))
    (few : as.countP (fun a => a.operation.isPlainPut) < 2 ^ 64) :
    let run := Operation.run (Task.new config owner defaultAction handler client) as
    let reference := (Reference.new config).run owner as
    run.2 = reference.2 ∧ Represents run.1.mailbox reference.1 ∧ run.1.mailbox.length = reference.1.queue.length := by
  have hnew : Simulates 0 (Task.new config owner defaultAction handler client) (Reference.new config) :=
    ⟨Represents.new config owner, Lanes.wellFormed_empty, Lanes.counted_empty⟩
  obtain ⟨hanswers, hrep⟩ := run_inStep as hnew (by omega)
  exact ⟨hanswers, hrep, hrep.length⟩

/-- Two puts, a take and a closing. -/
def twoPuts : List (Attempt Unit Nat) :=
  [⟨1, 0, .put ⟨⟨⟨"plain", []⟩, .empty, 0⟩, ⟨0, .nothing⟩⟩⟩, ⟨2, 0, .put ⟨⟨⟨"urgent", []⟩, .urgent, 0⟩, ⟨1, .nothing⟩⟩⟩,
    ⟨0, 0, .take .oldest true⟩, ⟨0, 0, .close⟩]

theorem run_eq_reference_of_two_puts : twoPuts.countP (fun a => a.operation.isPlainPut) < 2 ^ 64 ∧
    (Operation.run (Task.new ⟨2⟩ 0 none (fun _ => .finish (.returned 0)) ()) twoPuts).2 =
      ((Reference.new ⟨2⟩).run 0 twoPuts).2 := by
  have few : twoPuts.countP (fun a => a.operation.isPlainPut) < 2 ^ 64 := by decide
  exact ⟨few, (run_eq_reference ⟨2⟩ 0 none _ () twoPuts few).1⟩

end Mailroom
