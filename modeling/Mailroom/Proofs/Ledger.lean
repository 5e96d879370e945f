import Mailroom.Proofs.Task

/-!
# The ledger of a task's mail

Where each mail is, and what the journal says of it. A mail is issued once, under a ticket of its own, and has one life: it is
dropped, or skipped, or its action begins and ends. An `Entry` is one thing that can happen in that life, and `Sound` says what all
entries keep: mail that may still run has no past, mail whose action runs has begun and no more, every other mail has had its one
end, and the slot behind a handle has the outcome that the life of its mail stands for.
-/

namespace Mailroom

variable {σ ν : Type}

/-- What is left of a mail while its action runs. -/
structure Tag where
  ticket : Ticket
  description : Description
  handle? : Option HandleId

/-- What is left of the mail while its action runs. -/
def Mail.tag (m : Letter σ ν) : Tag := ⟨m.ticket, m.description, m.handle?⟩

/-- The outcome that the end of an action stands for. -/
def Tag.outcome (g : Tag) : Ending ν → Outcome ν
  | .returned v => .ok v
  | .failed e => .error (.actionFailed g.description.display e)
  | .panicked p => .error (.actionPanicked g.description.display p.message)

/-- The outcome that a life stands for, latest entry first; none while the mail may still run, or runs. -/
def Tag.verdict (g : Tag) : List (Occurrence σ ν) → Option (Outcome ν)
  | .dropped _ :: _ => some (.error .closed)
  | .skipped _ :: _ => some (.error .closed)
  | .ended _ how _ :: _ => some (g.outcome how)
  | _ => none

namespace Occurrence

/-- The mail whose life the entry belongs to. -/
def lifeOf? : Occurrence σ ν → Option Ticket
  | started t => some t
  | skipped t => some t
  | dropped t => some t
  | ended t _ _ => some t
  | _ => none

/-- The entry belongs to the life of no mail, issues none, and is no word from a handle or to one. -/
def isPlain : Occurrence σ ν → Bool
  | offered .. => false
  | cancelled _ => false
  | told .. => false
  | e => e.lifeOf?.isNone

end Occurrence

/-- What is known of the mail of a task. The order of mail does not matter. -/
structure Ledger (σ ν : Type) where
  /-- The mail that may still be run or dropped. -/
  alive : List (Letter σ ν)
  /-- The mail whose action runs. -/
  running : List Tag
  slots : List (Slot ν)
  nextTicket : Ticket
  journal : List (Occurrence σ ν)

namespace Ledger

/-- An entry is written into the journal. -/
def log (a : Ledger σ ν) (e : Occurrence σ ν) : Ledger σ ν := { a with journal := e :: a.journal }

/-- The slot behind the handle of a mail, if it has one, is resolved. -/
def settle (a : Ledger σ ν) (handle? : Option HandleId) (o : Outcome ν) : Ledger σ ν :=
  match handle? with
  | some h => { a with slots := a.slots.modify h (·.resolve o) }
  | none => a

/-- What the journal says of the life of a mail, latest entry first. -/
def life (a : Ledger σ ν) (t : Ticket) : List (Occurrence σ ν) := a.journal.filter fun e => e.lifeOf? == some t

/-- Somebody has begun to put the mail into the mailbox. -/
def Offered (a : Ledger σ ν) (m : Letter σ ν) : Prop := ∃ sender, .offered m sender ∈ a.journal

/-- One thing that can happen to the mail of a task. -/
inductive Entry (a : Ledger σ ν) : Ledger σ ν → Prop where
  /-- Mail changes hands. -/
  | sorted (alive : List (Letter σ ν)) (running : List Tag) (ha : a.alive.Perm alive) (hr : a.running.Perm running) :
    Entry a { a with alive, running }
  | noted (e : Occurrence σ ν) (plain : e.isPlain = true) : Entry a (a.log e)
  /-- Mail that was issued before is put into the mailbox again. -/
  | offered (m : Letter σ ν) (sender : ThreadId) (h : m ∈ a.alive) : Entry a (a.log (.offered m sender))
  | issued (m : Letter σ ν) (sender : ThreadId) (ticket : m.ticket = a.nextTicket) (handle : m.handle? = none) :
    Entry a ({ a with alive := m :: a.alive, nextTicket := a.nextTicket + 1 }.log (.offered m sender))
  | submitted (m : Letter σ ν) (sender : ThreadId) (ticket : m.ticket = a.nextTicket) (handle : m.handle? = some a.slots.length) :
    Entry a ({ a with
      alive := m :: a.alive
      slots := a.slots ++ [({} : Slot ν)]
      nextTicket := a.nextTicket + 1 }.log (.offered m sender))
  | dropped (m : Letter σ ν) (rest : List (Letter σ ν)) (h : a.alive = m :: rest) :
    Entry a (({ a with alive := rest }.settle m.handle? (.error .closed)).log (.dropped m.ticket))
  | skipped (m : Letter σ ν) (rest : List (Letter σ ν)) (h : a.alive = m :: rest) (handle : HandleId) (s : Slot ν)
    (hh : m.handle? = some handle) (slot : a.slots[handle]? = some s) (cancelled : s.cancelled = true) :
    Entry a (({ a with alive := rest }.settle m.handle? (.error .closed)).log (.skipped m.ticket))
  | began (m : Letter σ ν) (rest : List (Letter σ ν)) (h : a.alive = m :: rest)
    (free : ∀ handle s, m.handle? = some handle → a.slots[handle]? = some s → s.cancelled = false) :
    Entry a ({ a with alive := rest, running := m.tag :: a.running }.log (.started m.ticket))
  /-- Mail is run that has no action. -/
  | woke (m : Letter σ ν) (rest : List (Letter σ ν)) (h : a.alive = m :: rest) (handle : m.handle? = none) :
    Entry a { a with alive := rest }
  | ended (g : Tag) (rest : List Tag) (how : Ending ν) (caught : Bool) (h : a.running = g :: rest)
    (hc : g.handle? ≠ none → caught = true) :
    Entry a (({ a with running := rest }.settle g.handle? (g.outcome how)).log (.ended g.ticket how caught))
  /-- Somebody looks at a slot and leaves a waker. -/
  | watched (h : HandleId) (f : Slot ν → Slot ν)
    (same : ∀ s, (f s).outcome = s.outcome ∧ (f s).spent = s.spent ∧ (f s).cancelled = s.cancelled) :
    Entry a { a with slots := a.slots.modify h f }
  | cancelled (h : HandleId) (lt : h < a.slots.length) :
    Entry a ({ a with slots := a.slots.modify h Slot.cancel }.log (.cancelled h))
  | told (h : HandleId) (o : Outcome ν) (s after : Slot ν) (slot : a.slots[h]? = some s) (spent : after.spent = true)
    (same : after.outcome = s.outcome ∧ after.cancelled = s.cancelled) (first : s.spent = false → s.outcome = some o) :
    Entry a ({ a with slots := a.slots.modify h fun _ => after }.log (.told h o))

/-- Entries in a row. -/
inductive Entries (a : Ledger σ ν) : Ledger σ ν → Prop where
  | none : Entries a a
  | and {b c : Ledger σ ν} (before : Entries a b) (e : Entry b c) : Entries a c

/-- One entry is a row of entries. -/
theorem Entries.of_entry {a b : Ledger σ ν} (h : Entry a b) : Entries a b := .and .none h

theorem Entries.trans {a b c : Ledger σ ν} (h : Entries a b) (h' : Entries b c) : Entries a c := by
  induction h' with
  | none => exact h
  | and _ e ih => exact ih.and e

/-! ## What all entries keep -/

/-- The life of a mail that is over. -/
inductive Over (m : Letter σ ν) : List (Occurrence σ ν) → Prop where
  | dropped : Over m [.dropped m.ticket]
  | skipped : Over m [.skipped m.ticket]
  | ended (how : Ending ν) (caught : Bool) (hc : m.handle? ≠ none → caught = true) :
    Over m [.ended m.ticket how caught, .started m.ticket]

/-- Every mail is in one place, its life goes with that place, and the slot behind its handle with its life. -/
structure Sound (a : Ledger σ ν) : Prop where
  distinct : (a.alive.map Mail.ticket ++ a.running.map Tag.ticket).Nodup
  offered : ∀ m ∈ a.alive, a.Offered m
  offered_running : ∀ g ∈ a.running, ∃ m, a.Offered m ∧ m.tag = g
  ticket_inj : ∀ m m', a.Offered m → a.Offered m' → m.ticket = m'.ticket → m = m'
  handle_inj : ∀ m m' h, a.Offered m → a.Offered m' → m.handle? = some h → m'.handle? = some h → m = m'
  issued : ∀ m, a.Offered m → m.ticket < a.nextTicket
  fresh : ∀ t, (∀ m, a.Offered m → m.ticket ≠ t) → a.life t = []
  waiting : ∀ m ∈ a.alive, a.life m.ticket = []
  running : ∀ g ∈ a.running, a.life g.ticket = [.started g.ticket]
  places : ∀ m, a.Offered m → m ∈ a.alive ∨ m.tag ∈ a.running ∨ Over m (a.life m.ticket) ∨
    (m.handle? = none ∧ a.life m.ticket = [])
  slot : ∀ m h, a.Offered m → m.handle? = some h →
    ∃ s, a.slots[h]? = some s ∧ s.outcome = m.tag.verdict (a.life m.ticket)

@[simp] theorem log_alive (a : Ledger σ ν) (e : Occurrence σ ν) : (a.log e).alive = a.alive := rfl
@[simp] theorem log_running (a : Ledger σ ν) (e : Occurrence σ ν) : (a.log e).running = a.running := rfl
@[simp] theorem log_slots (a : Ledger σ ν) (e : Occurrence σ ν) : (a.log e).slots = a.slots := rfl
@[simp] theorem log_nextTicket (a : Ledger σ ν) (e : Occurrence σ ν) : (a.log e).nextTicket = a.nextTicket := rfl
@[simp] theorem log_journal (a : Ledger σ ν) (e : Occurrence σ ν) : (a.log e).journal = e :: a.journal := rfl

@[simp] theorem settle_alive (a : Ledger σ ν) (h? : Option HandleId) (o : Outcome ν) : (a.settle h? o).alive = a.alive := by
  unfold settle; split <;> rfl
@[simp] theorem settle_running (a : Ledger σ ν) (h? : Option HandleId) (o : Outcome ν) :
    (a.settle h? o).running = a.running := by
  unfold settle; split <;> rfl
@[simp] theorem settle_nextTicket (a : Ledger σ ν) (h? : Option HandleId) (o : Outcome ν) :
    (a.settle h? o).nextTicket = a.nextTicket := by
  unfold settle; split <;> rfl
@[simp] theorem settle_journal (a : Ledger σ ν) (h? : Option HandleId) (o : Outcome ν) :
    (a.settle h? o).journal = a.journal := by
  unfold settle; split <;> rfl

/-- What the journal says it goes on to say. -/
theorem Entry.mem_journal {a b : Ledger σ ν} (h : Entry a b) {e : Occurrence σ ν} (he : e ∈ a.journal) : e ∈ b.journal := by
  cases h with
  | sorted | woke | watched => exact he
  | noted | offered | issued | submitted | began | cancelled | told => exact List.mem_cons_of_mem _ he
  | dropped | skipped | ended => simp [he]

/-- What the journal says it goes on to say, however many entries are made. -/
theorem Entries.mem_journal {a b : Ledger σ ν} (h : Entries a b) {e : Occurrence σ ν} (he : e ∈ a.journal) : e ∈ b.journal := by
  induction h with
  | none => exact he
  | and _ entry ih => exact entry.mem_journal ih

/-- An entry of a life stands in that life. -/
theorem mem_life {a : Ledger σ ν} {e : Occurrence σ ν} {t : Ticket} (ht : e.lifeOf? = some t) :
    e ∈ a.life t ↔ e ∈ a.journal := by
  simp [life, ht]

/-- An entry belongs to the life of one mail at most. -/
theorem life_log (a : Ledger σ ν) (e : Occurrence σ ν) (t : Ticket) :
    (a.log e).life t = if e.lifeOf? = some t then e :: a.life t else a.life t := by
  simp only [life, log, List.filter_cons, beq_iff_eq]

theorem life_log_own {a : Ledger σ ν} {e : Occurrence σ ν} {t : Ticket} (h : e.lifeOf? = some t) :
    (a.log e).life t = e :: a.life t := by
  rw [life_log, if_pos h]

theorem life_log_other {a : Ledger σ ν} {e : Occurrence σ ν} {t t' : Ticket} (h : e.lifeOf? = some t) (ht : t' ≠ t) :
    (a.log e).life t' = a.life t' := by
  rw [life_log, if_neg]
  rw [h]
  exact fun hc => ht (Option.some.inj hc).symm

/-- A ledger that tells the same of every mail is as sound. -/
theorem Sound.congr {a b : Ledger σ ν} (h : Sound a) (alive : a.alive.Perm b.alive) (running : a.running.Perm b.running)
    (next : b.nextTicket = a.nextTicket) (offered : ∀ m, b.Offered m ↔ a.Offered m) (life : ∀ t, b.life t = a.life t)
    (slots : ∀ i : HandleId, (b.slots[i]?).map Slot.outcome = (a.slots[i]?).map Slot.outcome) : Sound b where
  distinct := ((alive.map _).append (running.map _)).nodup_iff.mp h.distinct
  offered m hm := (offered m).mpr (h.offered m (alive.mem_iff.mpr hm))
  offered_running g hg := by
    obtain ⟨m, hm, htag⟩ := h.offered_running g (running.mem_iff.mpr hg)
    exact ⟨m, (offered m).mpr hm, htag⟩
  ticket_inj m m' hm hm' := h.ticket_inj m m' ((offered m).mp hm) ((offered m').mp hm')
  handle_inj m m' i hm hm' := h.handle_inj m m' i ((offered m).mp hm) ((offered m').mp hm')
  issued m hm := by
    rw [next]
    exact h.issued m ((offered m).mp hm)
  fresh t ht := by
    rw [life]
    exact h.fresh t fun m hm => ht m ((offered m).mpr hm)
  waiting m hm := by
    rw [life]
    exact h.waiting m (alive.mem_iff.mpr hm)
  running g hg := by
    rw [life]
    exact h.running g (running.mem_iff.mpr hg)
  places m hm := by
    rw [life]
    rcases h.places m ((offered m).mp hm) with hp | hp | hp
    · exact .inl (alive.mem_iff.mp hp)
    · exact .inr (.inl (running.mem_iff.mp hp))
    · exact .inr (.inr hp)
  slot m i hm hi := by
    obtain ⟨s, hs, ho⟩ := h.slot m i ((offered m).mp hm) hi
    have hmap := slots i
    rw [hs] at hmap
    obtain ⟨s', hs', ho'⟩ := Option.map_eq_some_iff.mp hmap
    exact ⟨s', hs', by rw [ho', ho, life]⟩

/-- A mail whose place changes, while the life of every other mail and the slot of every other handle stay as they are. -/
theorem Sound.moved {a b : Ledger σ ν} (h : Sound a) {m : Letter σ ν} (hm : a.Offered m)
    (distinct : (b.alive.map Mail.ticket ++ b.running.map Tag.ticket).Nodup) (next : b.nextTicket = a.nextTicket)
    (offered : ∀ x, b.Offered x ↔ a.Offered x) (life : ∀ t, t ≠ m.ticket → b.life t = a.life t)
    (alive : ∀ x, x ∈ b.alive ↔ x ∈ a.alive ∧ x.ticket ≠ m.ticket)
    (running : ∀ g, g.ticket ≠ m.ticket → (g ∈ b.running ↔ g ∈ a.running))
    (own : ∀ g ∈ b.running, g.ticket = m.ticket → g = m.tag ∧ b.life m.ticket = [.started m.ticket])
    (place : m.tag ∈ b.running ∨ Over m (b.life m.ticket) ∨ (m.handle? = none ∧ b.life m.ticket = []))
    (slots : ∀ i : HandleId, m.handle? ≠ some i → b.slots[i]? = a.slots[i]?)
    (slot : ∀ i, m.handle? = some i → ∃ s, b.slots[i]? = some s ∧ s.outcome = m.tag.verdict (b.life m.ticket)) : Sound b where
  distinct := distinct
  offered x hx := (offered x).mpr (h.offered x ((alive x).mp hx).1)
  offered_running g hg := by
    by_cases hg' : g.ticket = m.ticket
    · exact ⟨m, (offered m).mpr hm, (own g hg hg').1.symm⟩
    · obtain ⟨x, hx, htag⟩ := h.offered_running g ((running g hg').mp hg)
      exact ⟨x, (offered x).mpr hx, htag⟩
  ticket_inj x x' hx hx' := h.ticket_inj x x' ((offered x).mp hx) ((offered x').mp hx')
  handle_inj x x' i hx hx' := h.handle_inj x x' i ((offered x).mp hx) ((offered x').mp hx')
  issued x hx := by
    rw [next]
    exact h.issued x ((offered x).mp hx)
  fresh t ht := by
    rw [life t (Ne.symm (ht m ((offered m).mpr hm)))]
    exact h.fresh t fun x hx => ht x ((offered x).mpr hx)
  waiting x hx := by
    obtain ⟨hx, hne⟩ := (alive x).mp hx
    rw [life _ hne]
    exact h.waiting x hx
  running g hg := by
    by_cases hg' : g.ticket = m.ticket
    · rw [hg']
      exact (own g hg hg').2
    · rw [life _ hg']
      exact h.running g ((running g hg').mp hg)
  places x hx := by
    by_cases hxm : x.ticket = m.ticket
    · obtain rfl := h.ticket_inj x m ((offered x).mp hx) hm hxm
      exact .inr place
    · rw [life _ hxm]
      rcases h.places x ((offered x).mp hx) with hp | hp | hp
      · exact .inl ((alive x).mpr ⟨hp, hxm⟩)
      · exact .inr (.inl ((running x.tag hxm).mpr hp))
      · exact .inr (.inr hp)
  slot x i hx hi := by
    have hxa := (offered x).mp hx
    by_cases hxm : x.ticket = m.ticket
    · obtain rfl := h.ticket_inj x m hxa hm hxm
      exact slot i hi
    · have hne : m.handle? ≠ some i := fun hmi => hxm (congrArg Mail.ticket (h.handle_inj x m i hxa hm hi hmi))
      rw [slots i hne, life _ hxm]
      exact h.slot x i hxa hi

/-! ## One entry -/

section

variable {a : Ledger σ ν}

/-- A put is begun by the entry that says so, and by no other. -/
theorem offered_log {e : Occurrence σ ν} {m : Letter σ ν} :
    (a.log e).Offered m ↔ (∃ sender, e = .offered m sender) ∨ a.Offered m := by
  simp only [Offered, log_journal, List.mem_cons, exists_or]
  constructor
  · rintro (⟨sender, hs⟩ | hm)
    · exact .inl ⟨sender, hs.symm⟩
    · exact .inr hm
  · rintro (⟨sender, hs⟩ | hm)
    · exact .inl ⟨sender, hs.symm⟩
    · exact .inr hm

/-- Nobody begins to put mail into the mailbox when a life goes on. -/
theorem offered_log_of_life {e : Occurrence σ ν} {t : Ticket} (h : e.lifeOf? = some t) {m : Letter σ ν} :
    (a.log e).Offered m ↔ a.Offered m := by
  rw [offered_log, or_iff_right]
  rintro ⟨sender, rfl⟩
  cases h

/-- Nobody begins to put mail into the mailbox by a plain entry. -/
theorem offered_log_of_plain {e : Occurrence σ ν} (h : e.isPlain = true) {m : Letter σ ν} :
    (a.log e).Offered m ↔ a.Offered m := by
  rw [offered_log, or_iff_right]
  rintro ⟨sender, rfl⟩
  cases h

/-- Nobody begins to put mail into the mailbox when a life goes on and its slot is resolved. -/
theorem offered_settle_log {b : Ledger σ ν} {h? : Option HandleId} {o : Outcome ν} {e : Occurrence σ ν} {t : Ticket}
    (he : e.lifeOf? = some t) {m : Letter σ ν} : ((b.settle h? o).log e).Offered m ↔ b.Offered m := by
  rw [offered_log_of_life he, Offered, Offered, settle_journal]

theorem life_settle (b : Ledger σ ν) (h? : Option HandleId) (o : Outcome ν) (t : Ticket) : (b.settle h? o).life t = b.life t := by
  rw [life, settle_journal, life]

/-- A plain entry belongs to the life of no mail. -/
theorem lifeOf?_of_plain {e : Occurrence σ ν} (h : e.isPlain = true) : e.lifeOf? = none := by
  cases e with
  | started | skipped | dropped | ended => cases h
  | _ => rfl

/-- Slots other than the one behind the handle are left alone. -/
theorem slots_settle_of_ne {h? : Option HandleId} {o : Outcome ν} {i : HandleId} (h : h? ≠ some i) :
    (a.settle h? o).slots[i]? = a.slots[i]? := by
  cases h? with
  | none => rfl
  | some j => exact List.getElem?_modify_ne _ _ fun hji => h (congrArg some hji)

/-- The slot behind the handle has the outcome, if it had none. -/
theorem slots_settle_of_pending {o : Outcome ν} {i : HandleId} {s : Slot ν} (hs : a.slots[i]? = some s) (ho : s.outcome = none) :
    ∃ s', (a.settle (some i) o).slots[i]? = some s' ∧ s'.outcome = some o := by
  refine ⟨s.resolve o, ?_, s.outcome_resolve o (by simp [Slot.isPending, ho])⟩
  have hmod := List.getElem?_modify_eq (fun s : Slot ν => s.resolve o) i a.slots
  rw [hs] at hmod
  exact hmod

/-- The other mail that is alive has other tickets, and so has all mail whose action runs. -/
theorem Sound.ticket_ne (h : Sound a) {m : Letter σ ν} {rest : List (Letter σ ν)} (ha : a.alive = m :: rest) :
    (∀ x ∈ rest, x.ticket ≠ m.ticket) ∧ ∀ g ∈ a.running, g.ticket ≠ m.ticket := by
  have hd := h.distinct
  rw [ha, List.map_cons, List.cons_append, List.nodup_cons] at hd
  refine ⟨fun x hx hxm => hd.1 ?_, fun g hg hgm => hd.1 ?_⟩
  · exact List.mem_append_left _ (hxm ▸ List.mem_map_of_mem hx)
  · exact List.mem_append_right _ (hgm ▸ List.mem_map_of_mem hg)

/-- The rest is all other mail that is alive. -/
theorem Sound.mem_rest (h : Sound a) {m : Letter σ ν} {rest : List (Letter σ ν)} (ha : a.alive = m :: rest) (x : Letter σ ν) :
    x ∈ rest ↔ x ∈ a.alive ∧ x.ticket ≠ m.ticket := by
  constructor
  · intro hx
    exact ⟨ha ▸ List.mem_cons_of_mem m hx, (h.ticket_ne ha).1 x hx⟩
  · rintro ⟨hx, hne⟩
    rw [ha] at hx
    rcases List.mem_cons.mp hx with rfl | hx
    · exact absurd rfl hne
    · exact hx

/-- Mail that is dropped or skipped is over, and its handle says closed. -/
theorem Sound.unrun (h : Sound a) {m : Letter σ ν} {rest : List (Letter σ ν)} (ha : a.alive = m :: rest) {e : Occurrence σ ν}
    (he : e = .dropped m.ticket ∨ e = .skipped m.ticket) :
    Sound (({ a with alive := rest }.settle m.handle? (.error .closed)).log e) := by
  have hm : m ∈ a.alive := ha ▸ List.mem_cons_self
  have hlife : e.lifeOf? = some m.ticket := by rcases he with rfl | rfl <;> rfl
  have hverdict : m.tag.verdict [e] = some (.error .closed) := by rcases he with rfl | rfl <;> rfl
  have hown : (({ a with alive := rest }.settle m.handle? (.error .closed)).log e).life m.ticket = [e] := by
    rw [life_log_own hlife, life_settle]
    exact congrArg (e :: ·) (h.waiting m hm)
  have hne := h.ticket_ne ha
  refine h.moved (h.offered m hm) ?_ ?_ ?_ ?_ ?_ ?_ ?_ ?_ ?_ ?_
  · have hd := h.distinct
    rw [ha, List.map_cons, List.cons_append, List.nodup_cons] at hd
    simpa using hd.2
  · simp
  · exact fun x => offered_settle_log hlife
  · intro t ht
    rw [life_log_other hlife ht, life_settle]
    rfl
  · intro x
    simpa using h.mem_rest ha x
  · intro g _
    simp
  · intro g hg hgm
    exact absurd hgm (hne.2 g (by simpa using hg))
  · rw [hown]
    rcases he with rfl | rfl
    · exact .inr (.inl .dropped)
    · exact .inr (.inl .skipped)
  · intro i hi
    exact slots_settle_of_ne hi
  · intro i hi
    obtain ⟨s, hs, ho⟩ := h.slot m i (h.offered m hm) hi
    rw [h.waiting m hm] at ho
    rw [hown, hverdict, hi]
    exact slots_settle_of_pending (a := { a with alive := rest }) hs ho

/-- A mail of whose end the journal tells is not alive any more, and its life is over. -/
theorem Sound.over (h : Sound a) {m : Letter σ ν} (hm : a.Offered m) {e : Occurrence σ ν} (he : e ∈ a.life m.ticket)
    (last : e ≠ .started m.ticket) : m ∉ a.alive ∧ Over m (a.life m.ticket) := by
  have unborn : a.life m.ticket ≠ [] := List.ne_nil_of_mem he
  refine ⟨fun alive => unborn (h.waiting m alive), ?_⟩
  rcases h.places m hm with hp | hp | hp | ⟨-, hp⟩
  · exact absurd (h.waiting m hp) unborn
  · have hrun : a.life m.ticket = [.started m.ticket] := h.running m.tag hp
    rw [hrun, List.mem_singleton] at he
    exact absurd he last
  · exact hp
  · exact absurd hp unborn

/-- The handle of a mail that was dropped says closed. -/
theorem Sound.closed_of_dropped (h : Sound a) {m : Letter σ ν} (hm : a.Offered m) {i : HandleId} (hi : m.handle? = some i)
    (hd : .dropped m.ticket ∈ a.journal) : ∃ s, a.slots[i]? = some s ∧ s.outcome = some (.error .closed) := by
  obtain ⟨s, slot, hs⟩ := h.slot m i hm hi
  refine ⟨s, slot, hs.trans ?_⟩
  rw [← mem_life (t := m.ticket) rfl] at hd
  obtain ⟨-, hover⟩ := h.over hm hd nofun
  generalize a.life m.ticket = life at hd hover ⊢
  cases hover with
  | dropped => rfl
  | skipped => rfl
  | ended how caught hc => simp at hd

/-- Mail whose action begins is not alive any more, but runs. -/
theorem Sound.began (h : Sound a) {m : Letter σ ν} {rest : List (Letter σ ν)} (ha : a.alive = m :: rest) :
    Sound ({ a with alive := rest, running := m.tag :: a.running }.log (.started m.ticket)) := by
  have hm : m ∈ a.alive := ha ▸ List.mem_cons_self
  have hown : ({ a with alive := rest, running := m.tag :: a.running }.log (.started m.ticket)).life m.ticket =
      [.started m.ticket] := by
    rw [life_log_own (t := m.ticket) rfl]
    exact congrArg (_ :: ·) (h.waiting m hm)
  have hne := h.ticket_ne ha
  refine h.moved (h.offered m hm) ?_ rfl ?_ ?_ (h.mem_rest ha) ?_ ?_ ?_ ?_ ?_
  · have hd := h.distinct
    rw [ha] at hd
    exact List.perm_middle.nodup_iff.mpr hd
  · intro x
    exact offered_log_of_life (t := m.ticket) rfl
  · intro t ht
    rw [life_log_other (t := m.ticket) rfl ht]
    rfl
  · intro g hg
    refine ⟨fun hmem => ?_, List.mem_cons_of_mem _⟩
    rcases List.mem_cons.mp hmem with rfl | hmem
    · exact absurd rfl hg
    · exact hmem
  · intro g hg hgm
    rcases List.mem_cons.mp hg with rfl | hg
    · exact ⟨rfl, hown⟩
    · exact absurd hgm (hne.2 g hg)
  · exact .inl List.mem_cons_self
  · intro i _
    rfl
  · intro i hi
    obtain ⟨s, hs, ho⟩ := h.slot m i (h.offered m hm) hi
    rw [h.waiting m hm] at ho
    rw [hown]
    exact ⟨s, hs, ho⟩

/-- Mail without an action is gone when it is run. -/
theorem Sound.woke (h : Sound a) {m : Letter σ ν} {rest : List (Letter σ ν)} (ha : a.alive = m :: rest)
    (handle : m.handle? = none) : Sound { a with alive := rest } := by
  have hm : m ∈ a.alive := ha ▸ List.mem_cons_self
  refine h.moved (h.offered m hm) ?_ rfl (fun x => .rfl) (fun t _ => rfl) (h.mem_rest ha) (fun g _ => .rfl) ?_
    (.inr (.inr ⟨handle, h.waiting m hm⟩)) (fun i _ => rfl) ?_
  · have hd := h.distinct
    rw [ha, List.map_cons, List.cons_append, List.nodup_cons] at hd
    exact hd.2
  · intro g hg hgm
    exact absurd hgm ((h.ticket_ne ha).2 g hg)
  · intro i hi
    rw [handle] at hi
    cases hi

/-- The action of a mail ends, and its handle says how. -/
theorem Sound.ended (h : Sound a) {g : Tag} {rest : List Tag} (ha : a.running = g :: rest) (how : Ending ν) {caught : Bool}
    (hc : g.handle? ≠ none → caught = true) :
    Sound (({ a with running := rest }.settle g.handle? (g.outcome how)).log (.ended g.ticket how caught)) := by
  have hg : g ∈ a.running := ha ▸ List.mem_cons_self
  obtain ⟨m, hm, rfl⟩ := h.offered_running g hg
  have hown : (({ a with running := rest }.settle m.tag.handle? (m.tag.outcome how)).log (.ended m.tag.ticket how caught)).life
      m.ticket = [.ended m.ticket how caught, .started m.ticket] := by
    rw [life_log_own (t := m.ticket) rfl, life_settle]
    exact congrArg (_ :: ·) (h.running m.tag hg)
  have hd := h.distinct
  rw [ha, List.map_cons, List.perm_middle.nodup_iff, List.nodup_cons, List.mem_append] at hd
  have hne : (∀ x ∈ a.alive, x.ticket ≠ m.ticket) ∧ ∀ g ∈ rest, g.ticket ≠ m.ticket :=
    ⟨fun x hx hxm => hd.1 (.inl (List.mem_map.mpr ⟨x, hx, hxm⟩)), fun g hg hgm => hd.1 (.inr (List.mem_map.mpr ⟨g, hg, hgm⟩))⟩
  refine h.moved hm ?_ ?_ ?_ ?_ ?_ ?_ ?_ ?_ ?_ ?_
  · simpa using hd.2
  · simp
  · exact fun x => offered_settle_log (t := m.ticket) rfl
  · intro t ht
    rw [life_log_other (t := m.ticket) rfl ht, life_settle]
    rfl
  · intro x
    simpa using hne.1 x
  · intro g hgm
    simp only [log_running, settle_running, ha, List.mem_cons]
    refine ⟨.inr, fun hmem => ?_⟩
    rcases hmem with rfl | hmem
    · exact absurd rfl hgm
    · exact hmem
  · intro g hg hgm
    exact absurd hgm (hne.2 g (by simpa using hg))
  · rw [hown]
    exact .inr (.inl (.ended how caught hc))
  · intro i hi
    exact slots_settle_of_ne hi
  · intro i hi
    obtain ⟨s, hs, ho⟩ := h.slot m i hm hi
    have hrun : a.life m.ticket = [.started m.ticket] := h.running m.tag hg
    rw [hrun] at ho
    have hi' : m.tag.handle? = some i := hi
    rw [hown, hi']
    exact slots_settle_of_pending (a := { a with running := rest }) hs ho

/-- Nothing has happened under the next ticket. -/
theorem Sound.life_nextTicket (h : Sound a) : a.life a.nextTicket = [] :=
  h.fresh _ fun m hm => Nat.ne_of_lt (h.issued m hm)

/-- The ledger after a mail was issued; `slots` are the slots from then on. -/
def issue (a : Ledger σ ν) (m : Letter σ ν) (slots : List (Slot ν)) (sender : ThreadId) : Ledger σ ν :=
  { a with
    alive := m :: a.alive
    slots := slots
    nextTicket := a.nextTicket + 1 }.log (.offered m sender)

/-- The mail has the next ticket, and a slot of its own at the end of the slots if it is submitted. -/
structure IsNew (a : Ledger σ ν) (m : Letter σ ν) (slots : List (Slot ν)) : Prop where
  ticket : m.ticket = a.nextTicket
  handle : (m.handle? = none ∧ slots = a.slots) ∨ (m.handle? = some a.slots.length ∧ slots = a.slots ++ [({} : Slot ν)])

/-- A put of the mail that is issued is begun, and no other. -/
theorem offered_issue {m x : Letter σ ν} {slots : List (Slot ν)} {sender : ThreadId} :
    (a.issue m slots sender).Offered x ↔ x = m ∨ a.Offered x := by
  rw [issue, offered_log]
  refine or_congr ⟨?_, ?_⟩ .rfl
  · rintro ⟨_, hs⟩
    cases hs
    rfl
  · rintro rfl
    exact ⟨sender, rfl⟩

/-- A new mail has no past. -/
theorem IsNew.life {m : Letter σ ν} {slots : List (Slot ν)} (new : a.IsNew m slots) (h : Sound a) : a.life m.ticket = [] :=
  (congrArg a.life new.ticket).trans h.life_nextTicket

/-- A new mail has another ticket than any mail before it. -/
theorem IsNew.ticket_ne {m x : Letter σ ν} {slots : List (Slot ν)} (new : a.IsNew m slots) (h : Sound a) (hx : a.Offered x) :
    x.ticket ≠ m.ticket := by
  rw [new.ticket]
  exact Nat.ne_of_lt (h.issued x hx)

/-- A new mail has another handle than any mail before it. -/
theorem IsNew.handle_ne {m x : Letter σ ν} {slots : List (Slot ν)} (new : a.IsNew m slots) (h : Sound a) {i : HandleId}
    (hx : a.Offered x) (hi : x.handle? = some i) : m.handle? ≠ some i := by
  obtain ⟨s, hs, -⟩ := h.slot x i hx hi
  have hlt : i < a.slots.length := (List.getElem?_eq_some_iff.mp hs).1
  rcases new.handle with ⟨hm, -⟩ | ⟨hm, -⟩
  · simp [hm]
  · rw [hm]
    exact fun heq => Nat.ne_of_gt hlt (Option.some.inj heq)

/-- The slots of the mails before a new one stay where they are. -/
theorem IsNew.slots_eq {m : Letter σ ν} {slots : List (Slot ν)} (new : a.IsNew m slots) {i : HandleId} {s : Slot ν}
    (hs : a.slots[i]? = some s) : slots[i]? = some s := by
  rcases new.handle with ⟨-, rfl⟩ | ⟨-, rfl⟩
  · exact hs
  · exact (List.getElem?_append_left (List.getElem?_eq_some_iff.mp hs).1).trans hs

/-- The slot of a new mail is blank. -/
theorem IsNew.blank {m : Letter σ ν} {slots : List (Slot ν)} (new : a.IsNew m slots) {i : HandleId} (hi : m.handle? = some i) :
    slots[i]? = some {} := by
  rcases new.handle with ⟨hm, -⟩ | ⟨hm, rfl⟩
  · rw [hm] at hi
    cases hi
  · rw [hm] at hi
    cases hi
    simp

/-- A new mail is alive under a ticket of its own, and with a slot of its own if it is submitted. -/
theorem Sound.issue (h : Sound a) {m : Letter σ ν} {slots : List (Slot ν)} (new : a.IsNew m slots) (sender : ThreadId) :
    Sound (a.issue m slots sender) where
  distinct := by
    change (m.ticket :: (a.alive.map Mail.ticket ++ a.running.map Tag.ticket)).Nodup
    refine List.nodup_cons.mpr ⟨fun hmem => ?_, h.distinct⟩
    rcases List.mem_append.mp hmem with hmem | hmem
    · obtain ⟨x, hx, hxm⟩ := List.mem_map.mp hmem
      exact new.ticket_ne h (h.offered x hx) hxm
    · obtain ⟨g, hg, hgm⟩ := List.mem_map.mp hmem
      obtain ⟨x, hx, rfl⟩ := h.offered_running g hg
      exact new.ticket_ne h hx hgm
  offered x hx := offered_issue.mpr ((List.mem_cons.mp hx).imp_right (h.offered x))
  offered_running g hg := by
    obtain ⟨x, hx, htag⟩ := h.offered_running g hg
    exact ⟨x, offered_issue.mpr (.inr hx), htag⟩
  ticket_inj x x' hx hx' hxx' := by
    rcases offered_issue.mp hx with rfl | hxa
    · rcases offered_issue.mp hx' with rfl | hxa'
      · rfl
      · exact absurd hxx'.symm (new.ticket_ne h hxa')
    · rcases offered_issue.mp hx' with rfl | hxa'
      · exact absurd hxx' (new.ticket_ne h hxa)
      · exact h.ticket_inj x x' hxa hxa' hxx'
  handle_inj x x' i hx hx' hi hi' := by
    rcases offered_issue.mp hx with rfl | hxa
    · rcases offered_issue.mp hx' with rfl | hxa'
      · rfl
      · exact absurd hi (new.handle_ne h hxa' hi')
    · rcases offered_issue.mp hx' with rfl | hxa'
      · exact absurd hi' (new.handle_ne h hxa hi)
      · exact h.handle_inj x x' i hxa hxa' hi hi'
  issued x hx := by
    rcases offered_issue.mp hx with rfl | hx
    · exact Nat.lt_succ_of_le (Nat.le_of_eq new.ticket)
    · exact Nat.lt_succ_of_lt (h.issued x hx)
  fresh t ht := h.fresh t fun x hx => ht x (offered_issue.mpr (.inr hx))
  waiting x hx := by
    rcases List.mem_cons.mp hx with rfl | hx
    · exact new.life h
    · exact h.waiting x hx
  running := h.running
  places x hx := by
    rcases offered_issue.mp hx with rfl | hx
    · exact .inl List.mem_cons_self
    · exact (h.places x hx).imp_left (List.mem_cons_of_mem _)
  slot x i hx hi := by
    rcases offered_issue.mp hx with rfl | hx
    · refine ⟨{}, new.blank hi, ?_⟩
      change none = x.tag.verdict (a.life x.ticket)
      rw [new.life h]
      rfl
    · obtain ⟨s, hs, ho⟩ := h.slot x i hx hi
      exact ⟨s, new.slots_eq hs, ho⟩

/-- A change of one slot that leaves the outcome. -/
theorem outcome_modify {slots : List (Slot ν)} {h : HandleId} {f : Slot ν → Slot ν}
    (hf : ∀ s, slots[h]? = some s → (f s).outcome = s.outcome) (i : HandleId) :
    ((slots.modify h f)[i]?).map Slot.outcome = (slots[i]?).map Slot.outcome := by
  by_cases hi : h = i
  · subst hi
    rw [List.getElem?_modify_eq]
    cases hs : slots[h]? with
    | none => rfl
    | some s => exact congrArg some (hf s hs)
  · rw [List.getElem?_modify_ne _ _ hi]

/-- Every entry keeps the ledger sound. -/
theorem Sound.entry {b : Ledger σ ν} (h : Sound a) (e : Entry a b) : Sound b := by
  cases e with
  | sorted alive running ha hr => exact h.congr ha hr rfl (fun _ => .rfl) (fun _ => rfl) fun _ => rfl
  | noted e plain =>
    refine h.congr (.refl _) (.refl _) rfl (fun m => offered_log_of_plain plain) (fun t => ?_) fun _ => rfl
    rw [life_log, if_neg (by simp [lifeOf?_of_plain plain])]
  | offered m sender hm =>
    refine h.congr (.refl _) (.refl _) rfl (fun x => ?_) (fun t => life_log a _ t) fun _ => rfl
    rw [offered_log, or_iff_right_of_imp]
    rintro ⟨_, hs⟩
    cases hs
    exact h.offered m hm
  | issued m sender ticket handle => exact h.issue ⟨ticket, .inl ⟨handle, rfl⟩⟩ sender
  | submitted m sender ticket handle => exact h.issue ⟨ticket, .inr ⟨handle, rfl⟩⟩ sender
  | dropped m rest ha => exact h.unrun ha (.inl rfl)
  | skipped m rest ha handle s hh slot cancelled => exact h.unrun ha (.inr rfl)
  | began m rest ha free => exact h.began ha
  | woke m rest ha handle => exact h.woke ha handle
  | ended g rest how caught ha hc => exact h.ended ha how hc
  | watched i f same =>
    exact h.congr (.refl _) (.refl _) rfl (fun _ => .rfl) (fun _ => rfl) (outcome_modify fun s _ => (same s).1)
  | cancelled i lt =>
    refine h.congr (.refl _) (.refl _) rfl (fun m => ?_) (fun t => life_log _ _ t) (outcome_modify fun s _ => rfl)
    rw [offered_log, or_iff_right (by simp)]
    exact .rfl
  | told i o s after slot spent same first =>
    refine h.congr (.refl _) (.refl _) rfl (fun m => ?_) (fun t => life_log _ _ t) (outcome_modify fun s' hs' => ?_)
    · rw [offered_log, or_iff_right (by simp)]
      exact .rfl
    · rw [slot] at hs'
      cases hs'
      exact same.1

end

/-! ## Words from handles and to them -/

end Ledger

/-- What the entry says that a handle told. -/
def Occurrence.told? (h : HandleId) : Occurrence σ ν → Option (Outcome ν)
  | told i o => if i = h then some o else none
  | _ => none

/-- The first outcome that a handle gave, as a journal says that has its latest entry first. -/
def firstTold? (journal : List (Occurrence σ ν)) (h : HandleId) : Option (Outcome ν) :=
  journal.reverse.findSome? (Occurrence.told? h)

/-- What a handle tells counts only if it has told nothing before. -/
theorem firstTold?_cons (e : Occurrence σ ν) (journal : List (Occurrence σ ν)) (h : HandleId) :
    firstTold? (e :: journal) h = (firstTold? journal h).or (e.told? h) := by
  simp only [firstTold?, List.reverse_cons, List.findSome?_append, List.findSome?_cons, List.findSome?_nil]
  cases e.told? h <;> rfl

/-- The slot has been resolved at most. -/
structure Slot.Follows (s s' : Slot ν) : Prop where
  cancelled : s'.cancelled = s.cancelled
  spent : s'.spent = s.spent
  outcome : ∀ o, s.outcome = some o → s'.outcome = some o

theorem Slot.Follows.refl (s : Slot ν) : s.Follows s := ⟨rfl, rfl, fun _ h => h⟩

/-- A slot that is resolved keeps the outcome that it had. -/
theorem Slot.follows_resolve (s : Slot ν) (o : Outcome ν) : s.Follows (s.resolve o) := by
  unfold resolve
  split
  · exact .refl s
  · rename_i hs
    exact ⟨rfl, rfl, fun o' ho' => by rw [hs] at ho'; cases ho'⟩

namespace Ledger

/-- The slots know which handles asked for the action to be left out and which gave their outcome, and the first outcome that a
handle gave is the one in its slot. -/
structure Heard (a : Ledger σ ν) : Prop where
  cancelled : ∀ (h : HandleId) s, a.slots[h]? = some s → (s.cancelled = true ↔ .cancelled h ∈ a.journal)
  spent : ∀ (h : HandleId) s, a.slots[h]? = some s → (s.spent = true ↔ (firstTold? a.journal h).isSome = true)
  first : ∀ (h : HandleId) s o, a.slots[h]? = some s → firstTold? a.journal h = some o → s.outcome = some o
  fresh : ∀ h, a.slots.length ≤ h → .cancelled h ∉ a.journal ∧ firstTold? a.journal h = none

/-- Slots that were opened or resolved, and nothing heard from a handle. -/
theorem Heard.carry {a b : Ledger σ ν} (h : Heard a) (cancelled : ∀ i, .cancelled i ∈ b.journal ↔ .cancelled i ∈ a.journal)
    (told : ∀ i, firstTold? b.journal i = firstTold? a.journal i) (length : a.slots.length ≤ b.slots.length)
    (slots : ∀ (i : HandleId) s', b.slots[i]? = some s' →
      (∃ s, a.slots[i]? = some s ∧ s.Follows s') ∨ (a.slots.length ≤ i ∧ s' = {})) : Heard b where
  cancelled i s' hs' := by
    rw [cancelled]
    rcases slots i s' hs' with ⟨s, hs, hf⟩ | ⟨hi, rfl⟩
    · rw [hf.cancelled]
      exact h.cancelled i s hs
    · exact ⟨fun hc => absurd hc (by simp), fun hc => absurd hc (h.fresh i hi).1⟩
  spent i s' hs' := by
    rw [told]
    rcases slots i s' hs' with ⟨s, hs, hf⟩ | ⟨hi, rfl⟩
    · rw [hf.spent]
      exact h.spent i s hs
    · rw [(h.fresh i hi).2]
      exact ⟨nofun, nofun⟩
  first i s' o hs' ho := by
    rw [told] at ho
    rcases slots i s' hs' with ⟨s, hs, hf⟩ | ⟨hi, rfl⟩
    · exact hf.outcome o (h.first i s o hs ho)
    · rw [(h.fresh i hi).2] at ho
      cases ho
  fresh i hi := by
    rw [cancelled, told]
    exact h.fresh i (Nat.le_trans length hi)

section

variable {a : Ledger σ ν}

/-- An entry that is no word from a handle or to one, while slots are resolved at most. -/
theorem Heard.log (h : Heard a) {e : Occurrence σ ν} (hc : ∀ i, e ≠ .cancelled i) (ht : ∀ i, e.told? i = none) {b : Ledger σ ν}
    (journal : b.journal = e :: a.journal) (length : a.slots.length ≤ b.slots.length)
    (slots : ∀ (i : HandleId) s', b.slots[i]? = some s' →
      (∃ s, a.slots[i]? = some s ∧ s.Follows s') ∨ (a.slots.length ≤ i ∧ s' = {})) : Heard b := by
  refine h.carry (fun i => ?_) (fun i => ?_) length slots
  · rw [journal, List.mem_cons, or_iff_right (Ne.symm (hc i))]
  · rw [journal, firstTold?_cons, ht i, Option.or_none]

/-- Slots that stay as they are follow themselves. -/
theorem follows_same (i : HandleId) (s' : Slot ν) (hs' : a.slots[i]? = some s') :
    (∃ s, a.slots[i]? = some s ∧ s.Follows s') ∨ (a.slots.length ≤ i ∧ s' = {}) := .inl ⟨s', hs', .refl s'⟩

/-- To resolve the slot of a handle changes that slot in no other way, and no other slot. -/
theorem follows_settle {h? : Option HandleId} {o : Outcome ν} (i : HandleId) (s' : Slot ν)
    (hs' : (a.settle h? o).slots[i]? = some s') :
    (∃ s, a.slots[i]? = some s ∧ s.Follows s') ∨ (a.slots.length ≤ i ∧ s' = {}) := by
  by_cases hi : h? = some i
  · subst hi
    have hmod := List.getElem?_modify_eq (fun s : Slot ν => s.resolve o) i a.slots
    obtain ⟨s, hs, rfl⟩ := Option.map_eq_some_iff.mp (hmod.symm.trans hs')
    exact .inl ⟨s, hs, s.follows_resolve o⟩
  · rw [slots_settle_of_ne hi] at hs'
    exact .inl ⟨s', hs', .refl s'⟩

/-- To open a slot leaves those that there are. -/
theorem follows_append (i : HandleId) (s' : Slot ν) (hs' : (a.slots ++ [({} : Slot ν)])[i]? = some s') :
    (∃ s, a.slots[i]? = some s ∧ s.Follows s') ∨ (a.slots.length ≤ i ∧ s' = {}) := by
  by_cases hi : i < a.slots.length
  · rw [List.getElem?_append_left hi] at hs'
    exact .inl ⟨s', hs', .refl s'⟩
  · have hle : a.slots.length ≤ i := Nat.le_of_not_lt hi
    rw [List.getElem?_append_right hle] at hs'
    exact .inr ⟨hle, List.mem_singleton.mp (List.mem_of_getElem? hs')⟩

/-- To resolve a slot opens none. -/
theorem length_settle (h? : Option HandleId) (o : Outcome ν) : (a.settle h? o).slots.length = a.slots.length := by
  unfold settle
  split
  · exact List.length_modify ..
  · rfl

/-- A slot after a change of one slot is that one, changed, or another one. -/
theorem modify_cases {slots : List (Slot ν)} {i j : HandleId} {f : Slot ν → Slot ν} {s' : Slot ν}
    (h : (slots.modify i f)[j]? = some s') : (i = j ∧ ∃ s, slots[i]? = some s ∧ s' = f s) ∨ (i ≠ j ∧ slots[j]? = some s') := by
  by_cases hij : i = j
  · subst hij
    rw [List.getElem?_modify_eq] at h
    obtain ⟨s, hs, rfl⟩ := Option.map_eq_some_iff.mp h
    exact .inl ⟨rfl, s, hs, rfl⟩
  · rw [List.getElem?_modify_ne _ _ hij] at h
    exact .inr ⟨hij, h⟩

/-- A handle asked for the action to be left out. -/
theorem Heard.cancel (h : Heard a) {i : HandleId} (lt : i < a.slots.length) :
    Heard ({ a with slots := a.slots.modify i Slot.cancel }.log (.cancelled i)) := by
  have htold : ∀ j, firstTold? (.cancelled i :: a.journal) j = firstTold? a.journal j := by
    intro j
    rw [firstTold?_cons]
    exact Option.or_none
  refine ⟨fun j s' hs' => ?_, fun j s' hs' => ?_, fun j s' o hs' ho => ?_, fun j hj => ?_⟩
  · rw [log_journal]
    rcases modify_cases hs' with ⟨rfl, s, hs, rfl⟩ | ⟨hij, hs'⟩
    · exact ⟨fun _ => List.mem_cons_self, fun _ => rfl⟩
    · rw [h.cancelled j s' hs', List.mem_cons, or_iff_right (by simpa using Ne.symm hij)]
  · rw [log_journal, htold]
    rcases modify_cases hs' with ⟨rfl, s, hs, rfl⟩ | ⟨-, hs'⟩
    · exact h.spent i s hs
    · exact h.spent j s' hs'
  · rw [log_journal, htold] at ho
    rcases modify_cases hs' with ⟨rfl, s, hs, rfl⟩ | ⟨-, hs'⟩
    · exact h.first i s o hs ho
    · exact h.first j s' o hs' ho
  · have hj' : a.slots.length ≤ j := by simpa using hj
    rw [log_journal, htold, List.mem_cons]
    refine ⟨fun hmem => ?_, (h.fresh j hj').2⟩
    rcases hmem with hmem | hmem
    · cases hmem
      exact Nat.lt_irrefl _ (Nat.lt_of_lt_of_le lt hj')
    · exact (h.fresh j hj').1 hmem

/-- A handle gave an outcome: its own the first time. -/
theorem Heard.tell (h : Heard a) {i : HandleId} {o : Outcome ν} {s after : Slot ν} (slot : a.slots[i]? = some s)
    (spent : after.spent = true) (same : after.outcome = s.outcome ∧ after.cancelled = s.cancelled)
    (first : s.spent = false → s.outcome = some o) :
    Heard ({ a with slots := a.slots.modify i fun _ => after }.log (.told i o)) := by
  have hother : ∀ j, i ≠ j → firstTold? (.told i o :: a.journal) j = firstTold? a.journal j := by
    intro j hij
    rw [firstTold?_cons, Occurrence.told?, if_neg hij, Option.or_none]
  have hown : firstTold? (.told i o :: a.journal) i = (firstTold? a.journal i).or (some o) := by
    rw [firstTold?_cons, Occurrence.told?, if_pos rfl]
  refine ⟨fun j s' hs' => ?_, fun j s' hs' => ?_, fun j s' o' hs' ho => ?_, fun j hj => ?_⟩
  · rw [log_journal, List.mem_cons, or_iff_right (by simp)]
    rcases modify_cases hs' with ⟨rfl, s, hs, rfl⟩ | ⟨-, hs'⟩
    · rw [slot] at hs
      cases hs
      rw [same.2]
      exact h.cancelled i _ slot
    · exact h.cancelled j s' hs'
  · rw [log_journal]
    rcases modify_cases hs' with ⟨rfl, s, hs, rfl⟩ | ⟨hij, hs'⟩
    · rw [hown, spent]
      simp
    · rw [hother j hij]
      exact h.spent j s' hs'
  · rw [log_journal] at ho
    rcases modify_cases hs' with ⟨rfl, s₀, hs, rfl⟩ | ⟨hij, hs'⟩
    · rw [hown] at ho
      rw [same.1]
      cases hf : firstTold? a.journal i with
      | some o₀ =>
        rw [hf] at ho
        exact (h.first i s o₀ slot hf).trans ho
      | none =>
        rw [hf] at ho
        have hunspent : s.spent = false := by
          cases hspent : s.spent with
          | false => rfl
          | true =>
            have := (h.spent i s slot).mp hspent
            rw [hf] at this
            cases this
        exact (first hunspent).trans ho
    · rw [hother j hij] at ho
      exact h.first j s' o' hs' ho
  · have hj' : a.slots.length ≤ j := by simpa using hj
    have hij : i ≠ j := fun hij => Nat.lt_irrefl _ (Nat.lt_of_lt_of_le (List.getElem?_eq_some_iff.mp slot).1 (hij ▸ hj'))
    rw [log_journal, hother j hij, List.mem_cons, or_iff_right (by simp)]
    exact h.fresh j hj'

/-- Every entry keeps what the slots know. -/
theorem Heard.entry {b : Ledger σ ν} (h : Heard a) (e : Entry a b) : Heard b := by
  cases e with
  | sorted alive running ha hr => exact ⟨h.cancelled, h.spent, h.first, h.fresh⟩
  | woke m rest ha handle => exact ⟨h.cancelled, h.spent, h.first, h.fresh⟩
  | noted e plain =>
    refine h.log (fun i he => ?_) (fun i => ?_) rfl (Nat.le_refl _) follows_same
    · rw [he] at plain
      cases plain
    · cases e with
      | told => cases plain
      | _ => rfl
  | offered m sender hm => exact h.log (by simp) (fun _ => rfl) rfl (Nat.le_refl _) follows_same
  | issued m sender ticket handle => exact h.log (by simp) (fun _ => rfl) rfl (Nat.le_refl _) follows_same
  | submitted m sender ticket handle => exact h.log (by simp) (fun _ => rfl) rfl (by simp) follows_append
  | dropped m rest ha =>
    refine h.log (e := .dropped m.ticket) (by simp) (fun _ => rfl) (by simp) ?_ (follows_settle (a := { a with alive := rest }))
    exact Nat.le_of_eq (length_settle (a := { a with alive := rest }) ..).symm
  | skipped m rest ha handle s hh slot cancelled =>
    refine h.log (e := .skipped m.ticket) (by simp) (fun _ => rfl) (by simp) ?_ (follows_settle (a := { a with alive := rest }))
    exact Nat.le_of_eq (length_settle (a := { a with alive := rest }) ..).symm
  | began m rest ha free => exact h.log (by simp) (fun _ => rfl) rfl (Nat.le_refl _) follows_same
  | ended g rest how caught ha hc =>
    refine h.log (e := .ended g.ticket how caught) (by simp) (fun _ => rfl) (by simp) ?_
      (follows_settle (a := { a with running := rest }))
    exact Nat.le_of_eq (length_settle (a := { a with running := rest }) ..).symm
  | watched i f same =>
    refine h.carry (fun _ => .rfl) (fun _ => rfl) (by simp) fun j s' hs' => ?_
    rcases modify_cases hs' with ⟨rfl, s, hs, rfl⟩ | ⟨-, hs'⟩
    · exact .inl ⟨s, hs, (same s).2.2, (same s).2.1, fun o ho => (same s).1.trans ho⟩
    · exact follows_same j s' hs'
  | cancelled i lt => exact h.cancel lt
  | told i o s after slot spent same first => exact h.tell slot spent same first

/-! ## The order of a cancellation and of the life of the mail -/

/-- Submitted mail is skipped only after its sender asked for that, and begins only if its sender has not asked for that before. The
journal has its latest entry first. -/
structure Timely (a : Ledger σ ν) : Prop where
  skipped : ∀ m h, a.Offered m → m.handle? = some h → .skipped m.ticket ∈ a.journal →
    [.skipped m.ticket, .cancelled h].Sublist a.journal
  started : ∀ m h, a.Offered m → m.handle? = some h → ¬[.started m.ticket, .cancelled h].Sublist a.journal

/-- Two entries stand in this order in a journal with one entry more if they did before, or the new one is the first of them. -/
theorem pair_sublist_cons {α : Type} {x y e : α} {l : List α} :
    [x, y].Sublist (e :: l) ↔ [x, y].Sublist l ∨ (x = e ∧ y ∈ l) := by
  rw [List.sublist_cons_iff]
  refine or_congr .rfl ⟨?_, ?_⟩
  · rintro ⟨r, hr, hs⟩
    cases hr
    exact ⟨rfl, List.singleton_sublist.mp hs⟩
  · rintro ⟨rfl, hy⟩
    exact ⟨[y], rfl, List.singleton_sublist.mpr hy⟩

/-- The order is kept by an entry that skips no mail too early and begins none too late. -/
theorem Timely.log (h : Timely a) {b : Ledger σ ν} {e : Occurrence σ ν} (journal : b.journal = e :: a.journal)
    (offered : ∀ m, b.Offered m → a.Offered m ∨ a.life m.ticket = [])
    (skipped : ∀ m h, b.Offered m → m.handle? = some h → e = .skipped m.ticket → .cancelled h ∈ a.journal)
    (started : ∀ m h, b.Offered m → m.handle? = some h → e = .started m.ticket → .cancelled h ∉ a.journal) : Timely b where
  skipped m i hm hi hmem := by
    rw [journal] at hmem ⊢
    rcases List.mem_cons.mp hmem with he | hmem
    · exact pair_sublist_cons.mpr (.inr ⟨he, skipped m i hm hi he.symm⟩)
    · rcases offered m hm with hm | hlife
      · exact (h.skipped m i hm hi hmem).cons e
      · have hin := (mem_life (t := m.ticket) rfl).mpr hmem
        rw [hlife] at hin
        cases hin
  started m i hm hi hsub := by
    rw [journal] at hsub
    rcases pair_sublist_cons.mp hsub with hsub | ⟨he, hmem⟩
    · rcases offered m hm with hm | hlife
      · exact h.started m i hm hi hsub
      · have hin := (mem_life (t := m.ticket) rfl).mpr (hsub.subset List.mem_cons_self)
        rw [hlife] at hin
        cases hin
    · exact started m i hm hi he.symm hmem

/-- A new mail has neither begun nor been skipped. -/
theorem Timely.issue (h : Timely a) (hs : Sound a) {m : Letter σ ν} {slots : List (Slot ν)} (new : a.IsNew m slots)
    (sender : ThreadId) : Timely (a.issue m slots sender) := by
  refine h.log rfl (fun x hx => ?_) (by simp) (by simp)
  rcases offered_issue.mp hx with rfl | hx
  · exact .inr (new.life hs)
  · exact .inl hx

/-- A mail is skipped because the slot behind its handle is cancelled, and the journal says when that was. -/
theorem Timely.skip (h : Timely a) (hs : Sound a) (hh : Heard a) {m : Letter σ ν} {rest : List (Letter σ ν)}
    (ha : a.alive = m :: rest) {i : HandleId} {s : Slot ν} (hi : m.handle? = some i) (slot : a.slots[i]? = some s)
    (cancelled : s.cancelled = true) :
    Timely (({ a with alive := rest }.settle m.handle? (.error .closed)).log (.skipped m.ticket)) := by
  have hoff : ∀ x, (({ a with alive := rest }.settle m.handle? (.error .closed)).log (.skipped m.ticket)).Offered x →
      a.Offered x := fun x hx => (offered_settle_log (b := { a with alive := rest }) (t := m.ticket) rfl).mp hx
  refine h.log (e := .skipped m.ticket) (by simp) (fun x hx => .inl (hoff x hx)) (fun x i' hx hi' he => ?_) (by simp)
  have hxm : x = m := hs.ticket_inj x m (hoff x hx) (hs.offered m (ha ▸ List.mem_cons_self)) (Occurrence.skipped.inj he).symm
  rw [hxm, hi] at hi'
  cases hi'
  exact (hh.cancelled i s slot).mp cancelled

/-- The action of a mail begins because the slot behind its handle is not cancelled, so the journal has no word of that. -/
theorem Timely.began (h : Timely a) (hs : Sound a) (hh : Heard a) {m : Letter σ ν} {rest : List (Letter σ ν)}
    (ha : a.alive = m :: rest)
    (free : ∀ (i : HandleId) s, m.handle? = some i → a.slots[i]? = some s → s.cancelled = false) :
    Timely ({ a with alive := rest, running := m.tag :: a.running }.log (.started m.ticket)) := by
  have hoff : ∀ x, ({ a with alive := rest, running := m.tag :: a.running }.log (.started m.ticket)).Offered x → a.Offered x :=
    fun x hx => (offered_log_of_life (t := m.ticket) rfl).mp hx
  refine h.log rfl (fun x hx => .inl (hoff x hx)) (by simp) fun x i hx hi he hmem => ?_
  have hm : a.Offered m := hs.offered m (ha ▸ List.mem_cons_self)
  have hxm : x = m := hs.ticket_inj x m (hoff x hx) hm (Occurrence.started.inj he).symm
  rw [hxm] at hi
  obtain ⟨s, slot, -⟩ := hs.slot m i hm hi
  have hc := (hh.cancelled i s slot).mpr hmem
  rw [free i s hi slot] at hc
  cases hc

/-- Every entry keeps the order. -/
theorem Timely.entry {b : Ledger σ ν} (h : Timely a) (hs : Sound a) (hh : Heard a) (e : Entry a b) : Timely b := by
  cases e with
  | sorted | woke | watched => exact ⟨h.skipped, h.started⟩
  | noted e plain =>
    refine h.log rfl (fun m hm => .inl ((offered_log_of_plain plain).mp hm)) (fun m i _ _ he => ?_) fun m i _ _ he => ?_
    · rw [he] at plain
      cases plain
    · rw [he] at plain
      cases plain
  | offered m sender hm =>
    refine h.log rfl (fun x hx => .inl ?_) (by simp) (by simp)
    rcases offered_log.mp hx with ⟨_, he⟩ | hx
    · cases he
      exact hs.offered m hm
    · exact hx
  | issued m sender ticket handle => exact h.issue hs ⟨ticket, .inl ⟨handle, rfl⟩⟩ sender
  | submitted m sender ticket handle => exact h.issue hs ⟨ticket, .inr ⟨handle, rfl⟩⟩ sender
  | dropped m rest ha =>
    exact h.log (e := .dropped m.ticket) (by simp)
      (fun x hx => .inl ((offered_settle_log (b := { a with alive := rest }) (t := m.ticket) rfl).mp hx)) (by simp) (by simp)
  | skipped m rest ha i s hi slot cancelled => exact h.skip hs hh ha hi slot cancelled
  | began m rest ha free => exact h.began hs hh ha free
  | ended g rest how caught ha hc =>
    exact h.log (e := .ended g.ticket how caught) (by simp)
      (fun x hx => .inl ((offered_settle_log (b := { a with running := rest }) (t := g.ticket) rfl).mp hx)) (by simp) (by simp)
  | cancelled | told =>
    refine h.log rfl (fun x hx => .inl ?_) (by simp) (by simp)
    rcases offered_log.mp hx with ⟨_, he⟩ | hx
    · cases he
    · exact hx

end

/-- All that entries keep. -/
structure Good (a : Ledger σ ν) : Prop where
  sound : Sound a
  heard : Heard a
  timely : Timely a

/-- A ledger in which nothing stands yet is good. -/
theorem good_of_blank {a : Ledger σ ν} (alive : a.alive = []) (running : a.running = []) (slots : a.slots = [])
    (journal : a.journal = []) : Good a := by
  have hoff : ∀ m, ¬a.Offered m := by
    rintro m ⟨sender, hs⟩
    rw [journal] at hs
    cases hs
  refine ⟨⟨by simp [alive, running], by simp [alive], by simp [running], ?_, ?_, ?_, ?_, by simp [alive], by simp [running], ?_, ?_⟩,
    ⟨by simp [slots], by simp [slots], by simp [slots], by simp [journal, firstTold?]⟩, ⟨?_, ?_⟩⟩
  · exact fun m _ hm => absurd hm (hoff m)
  · exact fun m _ _ hm => absurd hm (hoff m)
  · exact fun m hm => absurd hm (hoff m)
  · exact fun t _ => by simp [life, journal]
  · exact fun m hm => absurd hm (hoff m)
  · exact fun m _ hm => absurd hm (hoff m)
  · exact fun m _ hm => absurd hm (hoff m)
  · exact fun m _ hm => absurd hm (hoff m)

/-- All of this is kept by entries in a row. -/
theorem Good.entries {a b : Ledger σ ν} (h : Good a) (e : Entries a b) : Good b := by
  induction e with
  | none => exact h
  | and _ e ih => exact ⟨ih.sound.entry e, ih.heard.entry e, ih.timely.entry ih.sound ih.heard e⟩

end Ledger

end Mailroom
