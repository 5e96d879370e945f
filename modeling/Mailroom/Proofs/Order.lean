import Mailroom.Proofs.Delivery
import Mailroom.Proofs.Reference

/-!
# The order in which mail is taken

What a history of puts, takes and the closing leaves queued is one line, in the order of the puts (`lineAfter`). At every moment of every
run that line is what the mailbox holds, and each take was due (`taken_in_turn`): urgent mail goes first and in its order, and a mail
that is not urgent is overtaken only by a yield that may not take it.
-/

namespace Mailroom

variable {α σ ν : Type}

/-! ## The line -/

/-- The mail that is queued after what a history tells, latest entry first, in the order in which it was put. -/
def lineAfter : List (Occurrence σ ν) → List (Letter σ ν)
  | [] => []
  | .accepted m _ :: earlier => lineAfter earlier ++ [m]
  | .taken m _ _ :: earlier => (lineAfter earlier).eraseP fun x => x.ticket == m.ticket
  | .cleared _ :: _ => []
  | _ :: earlier => lineAfter earlier

/-- The take of a mail was due, from a line of queued mail. -/
structure Due (queue : List (Letter σ ν)) (choice : Choice) (m : Letter σ ν) : Prop where
  stands : m ∈ queue
  /-- Mail that is not urgent is taken when no urgent mail is queued. -/
  calm : m.isUrgent = false → ∀ x ∈ queue, x.isUrgent = false
  /-- Urgent mail that was put before is not queued any more when urgent mail is taken. -/
  urgent : m.isUrgent = true → ∀ x, x.isUrgent = true → ¬[x, m].Sublist queue
  /-- Mail that is not urgent and was put before is passed over by a yield only, which may not take it. -/
  passed : m.isUrgent = false → ∀ x, x.isUrgent = false → [x, m].Sublist queue →
    ∃ p, choice = .eligible p ∧ (x.isDeferrable = true ∨ x.priority < p) ∧ m.isDeferrable = false ∧ p ≤ m.priority
  /-- Mail that is deferrable and not urgent is taken as the main loop takes mail. -/
  deferrable : m.isUrgent = false → m.isDeferrable = true → choice = .oldest

/-! ## One take -/

namespace Reference

theorem pickFirst_split {β : Type} {p : β → Bool} {l rest : List β} {b : β} (h : pickFirst p l = some (b, rest)) :
    ∃ before after, l = before ++ b :: after ∧ rest = before ++ after ∧ p b = true ∧ ∀ x ∈ before, p x = false := by
  obtain ⟨b', hf, hb⟩ := Option.map_eq_some_iff.mp h
  cases hb
  obtain ⟨hp, before, after, rfl, hbefore⟩ := List.find?_eq_some_iff_append.mp hf
  have hbefore : ∀ x ∈ before, ¬p x = true := by simpa using hbefore
  refine ⟨before, after, rfl, ?_, hp, by simpa using hbefore⟩
  rw [List.eraseP_append_right _ hbefore, List.eraseP_cons_of_pos hp]

/-- The mail that a take chooses, with what stands before it in the queue: all of that was passed over. -/
inductive Chosen (choice : Choice) (before : List (Mail α)) (m : Mail α) (after : List (Mail α)) : Prop where
  | urgent (h : m.isUrgent = true) (hbefore : ∀ x ∈ before, x.isUrgent = false)
  | oldest (h : ∀ x ∈ before ++ m :: after, x.isUrgent = false) (hchoice : choice = .oldest) (hbefore : before = [])
  | eligible (h : ∀ x ∈ before ++ m :: after, x.isUrgent = false) (p : Priority) (hchoice : choice = .eligible p)
    (hm : isOpen p m = true) (hbefore : ∀ x ∈ before, isOpen p x = false)

theorem choose_eq_some {queue rest : List (Mail α)} {choice : Choice} {m : Mail α} (h : choose queue choice = some (m, rest)) :
    ∃ before after, queue = before ++ m :: after ∧ rest = before ++ after ∧ Chosen choice before m after := by
  unfold choose at h
  cases hu : pickFirst (fun x : Mail α => x.isUrgent) queue with
  | some chosen =>
    rw [hu] at h
    cases h
    obtain ⟨before, after, hq, hr, hm, hbefore⟩ := pickFirst_split hu
    exact ⟨before, after, hq, hr, .urgent hm hbefore⟩
  | none =>
    rw [hu] at h
    have hcalm : ∀ x ∈ queue, x.isUrgent = false := by
      simpa [pickFirst, List.find?_eq_none] using hu
    cases choice with
    | oldest =>
      obtain ⟨before, after, rfl, hr, -, hbefore⟩ := pickFirst_split h
      refine ⟨before, after, rfl, hr, .oldest hcalm rfl ?_⟩
      exact List.eq_nil_iff_forall_not_mem.mpr fun x hx => absurd (hbefore x hx) (by simp)
    | eligible p =>
      obtain ⟨before, after, rfl, hr, hm, hbefore⟩ := pickFirst_split h
      exact ⟨before, after, rfl, hr, .eligible hcalm p rfl hm hbefore⟩

end Reference

/-- What stands before an element that a list has once, stands before it there. -/
theorem mem_of_pair_sublist {x m : Letter σ ν} {before after : List (Letter σ ν)}
    (distinct : ((before ++ m :: after).map Mail.ticket).Nodup) (h : [x, m].Sublist (before ++ m :: after)) : x ∈ before := by
  have hm : m ∉ after := by
    intro hm
    rw [List.map_append, List.nodup_append] at distinct
    exact (List.nodup_cons.mp distinct.2.1).1 (List.mem_map_of_mem hm)
  rw [List.append_cons] at h
  have hpair : [x, m].Sublist (before ++ [m]) := pair_sublist_of_append h hm
  have hx : [x].Sublist before := by
    have hdrop := hpair.reverse
    simp only [List.reverse_cons, List.reverse_nil, List.nil_append, List.reverse_append, List.singleton_append] at hdrop
    simpa using (List.cons_sublist_cons.mp hdrop).reverse
  exact List.singleton_sublist.mp hx

/-- What the reference chooses was due. -/
theorem Reference.Chosen.due {choice : Choice} {before after : List (Letter σ ν)} {m : Letter σ ν}
    (h : Chosen choice before m after) (distinct : ((before ++ m :: after).map Mail.ticket).Nodup) :
    Due (before ++ m :: after) choice m := by
  have stands : m ∈ before ++ m :: after := by simp
  cases h with
  | urgent hm hbefore =>
    refine ⟨stands, fun hc => ?_, fun _ x hx hpair => ?_, fun hc => ?_, fun hc => ?_⟩
    · rw [hm] at hc
      cases hc
    · rw [hbefore x (mem_of_pair_sublist distinct hpair)] at hx
      cases hx
    · rw [hm] at hc
      cases hc
    · rw [hm] at hc
      cases hc
  | oldest hcalm hchoice hbefore =>
    refine ⟨stands, fun _ => hcalm, fun hu => ?_, fun _ x _ hpair => ?_, fun _ _ => hchoice⟩
    · rw [hcalm m stands] at hu
      cases hu
    · have hx := mem_of_pair_sublist distinct hpair
      rw [hbefore] at hx
      cases hx
  | eligible hcalm p hchoice hm hbefore =>
    obtain ⟨hdefer, hprio⟩ : m.isDeferrable = false ∧ p ≤ m.priority := by simpa [isOpen] using hm
    refine ⟨stands, fun _ => hcalm, fun hu => ?_, fun _ x _ hpair => ⟨p, hchoice, ?_, hdefer, hprio⟩, fun _ hd => ?_⟩
    · rw [hcalm m stands] at hu
      cases hu
    · have hx := hbefore x (mem_of_pair_sublist distinct hpair)
      cases hd : x.isDeferrable with
      | true => exact .inl rfl
      | false => exact .inr (by simpa [isOpen, hd] using hx)
    · rw [hdefer] at hd
      cases hd

/-! ## Every step -/

section

variable {a b : Task σ ν}

/-- What a task has queued is the line of its history, each mail in its lane. -/
def Lined (w : Task σ ν) : Prop := Represents w.mailbox ⟨lineAfter w.traffic, w.mailbox.status, w.mailbox.capacity⟩

namespace Lined

/-- Another task with the same lanes and the same line. -/
theorem congr (h : Lined a) (lanes : b.mailbox.lanes = a.mailbox.lanes) (same : lineAfter b.traffic = lineAfter a.traffic) :
    Lined b := by
  refine ⟨?_, ?_, rfl, rfl⟩
  · rw [lanes, same]
    exact h.urgent
  · rw [lanes, same]
    exact h.normal

/-- The line is what is queued. -/
theorem perm (h : Lined a) : (lineAfter a.traffic).Perm a.queued := by
  rw [Task.queued, Represents.toList h]
  exact (List.filter_append_perm _ _).symm

theorem entered (h : Lined a) {m : Letter σ ν} {me : ThreadId} {n : Nat} (hc : a.mailbox.lanes.Counted n) (hn : n < 2 ^ 64)
    (mailbox : b.mailbox.wakeAll = { a.mailbox.wakeAll with lanes := a.mailbox.lanes.push m })
    (journal : b.traffic = .accepted m me :: a.traffic) : Lined b := by
  have hpush := Represents.push h hc hn m []
  have hlanes : b.mailbox.lanes = a.mailbox.lanes.push m := Mailbox.lanes_of_wakeAll mailbox
  refine ⟨?_, ?_, rfl, rfl⟩
  · rw [hlanes, journal]
    exact hpush.urgent
  · rw [hlanes, journal]
    exact hpush.normal

/-- A take takes the mail out of the line, and was due. -/
theorem left (h : Lined a) (hw : a.mailbox.lanes.WellFormed) (distinct : (a.queued.map Mail.ticket).Nodup) {m : Letter σ ν}
    {choice : Choice} {purpose : Purpose} {l : Lanes (Job σ ν)} (pop : a.mailbox.lanes.pop choice = some (m, l))
    (mailbox : b.mailbox.wakeAll = { a.mailbox.wakeAll with lanes := l })
    (journal : b.traffic = .taken m choice purpose :: a.traffic) : Lined b ∧ Due (lineAfter a.traffic) choice m := by
  obtain ⟨rest, hchoose, hurgent, hnormal⟩ := Represents.choose_of_pop_eq_some h hw pop
  obtain ⟨before, after, hline, hrest, hchosen⟩ := Reference.choose_eq_some hchoose
  have hline : lineAfter a.traffic = before ++ m :: after := hline
  have hdistinct : ((before ++ m :: after).map Mail.ticket).Nodup := by
    rw [← hline]
    exact (h.perm.map _).nodup_iff.mpr distinct
  have hnext : lineAfter b.traffic = rest := by
    rw [journal, hrest, lineAfter, hline, List.eraseP_append_right, List.eraseP_cons_of_pos (by simp)]
    intro x hx hxm
    rw [List.map_append, List.map_cons, List.nodup_append] at hdistinct
    exact hdistinct.2.2 x.ticket (List.mem_map_of_mem hx) m.ticket List.mem_cons_self (by simpa using hxm)
  have hlanes : b.mailbox.lanes = l := Mailbox.lanes_of_wakeAll mailbox
  refine ⟨⟨?_, ?_, rfl, rfl⟩, ?_⟩
  · rw [hlanes, hnext]
    exact hurgent
  · rw [hlanes, hnext]
    exact hnormal
  · rw [hline]
    exact hchosen.due hdistinct

end Lined

end

/-! ## Every run -/

/-- The line holds mail in the order in which it was accepted. -/
theorem lineAfter_sublist (journal : List (Occurrence σ ν)) :
    List.Sublist (lineAfter journal) ((history Occurrence.acceptance? journal).map (·.1)) := by
  induction journal with
  | nil => exact List.Sublist.refl _
  | cons e journal ih =>
    rw [history_cons, List.map_append]
    have hgrow := ih.trans (List.sublist_append_left _ ((e.acceptance?.toList).map (·.1)))
    cases e with
    | accepted m sender => exact ih.append (List.Sublist.refl [m])
    | taken m choice purpose => exact List.eraseP_sublist.trans hgrow
    | cleared ms => exact List.nil_sublist _
    | _ => exact hgrow

namespace World

variable {w a b : World σ ν}

/-- No mail is queued twice at a time. -/
theorem Possible.queued_distinct (h : Possible w) : (w.task.queued.map Mail.ticket).Nodup := by
  have hall : ((w.ledger.alive ++ []).map Mail.ticket).Nodup := by
    rw [List.append_nil]
    exact (List.nodup_append.mp h.good.sound.distinct).1
  have hsub : List.Sublist w.task.queued (w.ledger.alive ++ []) := by
    rw [List.append_nil]
    exact (List.sublist_append_left _ _).trans (List.sublist_append_right _ _)
  exact (hsub.map _).nodup hall

/-- A step leaves the queue in line with the history, and a take that it makes was due. -/
theorem Stepped.lined {t : ThreadId} {pick : Nat} {th : Thread σ ν} {n : Next σ ν} (hs : Stepped a t pick th n b)
    (possible : Possible a) (few : a.task.accepted.countP (fun put => !put.1.isUrgent) < 2 ^ 64) (h : Lined a.task) :
    Lined b.task ∧ (b.task.traffic = a.task.traffic ∨ ∃ e, b.task.traffic = e :: a.task.traffic ∧
      ∀ m choice purpose, e = .taken m choice purpose → Due (lineAfter a.task.traffic) choice m) := by
  have same : b.task.mailbox.wakeAll = a.task.mailbox.wakeAll → b.task.mailbox.lanes = a.task.mailbox.lanes :=
    fun mailbox => (Mailbox.lanes_of_wakeAll mailbox).trans rfl
  cases hs.traffic with
  | quiet mailbox journal => exact ⟨h.congr (same mailbox) (by rw [journal]), .inl journal⟩
  | quiesced was mailbox journal => exact ⟨h.congr ((Mailbox.lanes_of_wakeAll mailbox).trans rfl) (by rw [journal]), .inl journal⟩
  | begun m mailbox journal => exact ⟨h.congr (same mailbox) (by rw [journal]; rfl), .inr ⟨_, journal, nofun⟩⟩
  | refused m mailbox journal => exact ⟨h.congr (same mailbox) (by rw [journal]; rfl), .inr ⟨_, journal, nofun⟩⟩
  | entered m was room mailbox journal =>
    exact ⟨h.entered (possible.flow few).counted few mailbox journal, .inr ⟨_, journal, nofun⟩⟩
  | left m choice purpose l was pop mailbox journal =>
    obtain ⟨hlined, hdue⟩ := h.left possible.orderly.wellFormed possible.queued_distinct pop mailbox journal
    refine ⟨hlined, .inr ⟨_, journal, fun m' choice' purpose' heq => ?_⟩⟩
    cases heq
    exact hdue
  | emptied was mailbox journal =>
    have hlanes : b.task.mailbox.lanes = a.task.mailbox.lanes.cleared := Mailbox.lanes_of_wakeAll mailbox
    refine ⟨⟨?_, ?_, rfl, rfl⟩, .inr ⟨_, journal, nofun⟩⟩
    · rw [hlanes, journal]
      rfl
    · rw [hlanes, journal]
      rfl

/-- What the history of a world says of the order in which mail was taken. -/
structure InTurn (w : World σ ν) : Prop where
  /-- At every moment of the history the line is what the mailbox held then, in the order in which it was put. -/
  moment : ∀ earlier, earlier <:+ w.task.traffic → ∃ a : World σ ν, a.Possible ∧ Reach a w ∧ a.task.traffic = earlier ∧
    (lineAfter earlier).Perm a.task.queued ∧ List.Sublist (lineAfter earlier) (a.task.accepted.map (·.1))
  /-- Every take was due. -/
  due : ∀ m choice purpose earlier, .taken m choice purpose :: earlier <:+ w.task.traffic → Due (lineAfter earlier) choice m
  /-- Mail that is deferrable and not urgent leaves by a take of the main loop's kind, or when the mailbox is closed. -/
  leaves : ∀ x e earlier, e :: earlier <:+ w.task.traffic → x.isUrgent = false → x.isDeferrable = true →
    x ∈ lineAfter earlier → x ∉ lineAfter (e :: earlier) → (∃ purpose, e = .taken x .oldest purpose) ∨ ∃ ms, e = .cleared ms
  /-- Mail of one kind was taken in the order in which it was put. -/
  fifo : ∀ κ, ofKind κ (w.task.accepted.map (·.1)) =
    ofKind κ (w.task.taken.map (·.1)) ++ ofKind κ w.task.discarded ++ ofKind κ w.task.queued

/-- The queue is in line with the history all the time, and every take was due. -/
theorem Possible.lined (h : Possible w) (few : w.task.accepted.countP (fun put => !put.1.isUrgent) < 2 ^ 64) :
    Lined w.task ∧ (∀ earlier, earlier <:+ w.task.traffic →
      ∃ a : World σ ν, a.Possible ∧ Reach a w ∧ a.task.traffic = earlier ∧ Lined a.task) ∧
    ∀ m choice purpose earlier, .taken m choice purpose :: earlier <:+ w.task.traffic → Due (lineAfter earlier) choice m := by
  have hinv := h.invariant (P := fun w => w.task.accepted.countP (fun put => !put.1.isUrgent) < 2 ^ 64 → Lined w.task ∧
      (∀ earlier, earlier <:+ w.task.traffic →
        ∃ a : World σ ν, a.Possible ∧ Reach a w ∧ a.task.traffic = earlier ∧ Lined a.task) ∧
      ∀ m choice purpose earlier, .taken m choice purpose :: earlier <:+ w.task.traffic → Due (lineAfter earlier) choice m)
    ?_ ?_ ?_
  · exact hinv few
  · intro config owner defaultAction handler client programs _
    have hlined : Lined (Task.new config owner defaultAction handler client) := ⟨rfl, rfl, rfl, rfl⟩
    refine ⟨hlined, fun earlier hearlier => ?_, fun m choice purpose earlier hearlier => ?_⟩
    · exact ⟨_, ⟨config, owner, defaultAction, handler, client, programs, .here⟩, .here, (List.suffix_nil.mp hearlier).symm, hlined⟩
    · exact absurd (List.suffix_nil.mp hearlier) (List.cons_ne_nil _ _)
  · intro a t pick th n b possible ih hs few
    have hless := Nat.lt_of_le_of_lt (Possible.accepted_step hs) few
    obtain ⟨hlined, hmoment, hdue⟩ := ih hless
    have hstep : Reach a b := Reach.here.step hs.step?_eq
    obtain ⟨hlined', htraffic⟩ := hs.lined possible hless hlined
    refine ⟨hlined', ?_, ?_⟩
    · intro earlier hearlier
      by_cases hnow : earlier = b.task.traffic
      · exact ⟨b, possible.reach hstep, .here, hnow.symm, hlined'⟩
      · have hbefore : earlier <:+ a.task.traffic := by
          rcases htraffic with heq | ⟨e, heq, -⟩
          · exact heq ▸ hearlier
          · rw [heq] at hearlier hnow
            exact (List.suffix_cons_iff.mp hearlier).resolve_left hnow
        obtain ⟨x, hx, hxa, htx, hlx⟩ := hmoment earlier hbefore
        exact ⟨x, hx, hxa.trans hstep, htx, hlx⟩
    · intro m choice purpose earlier hearlier
      rcases htraffic with heq | ⟨e, heq, htaken⟩
      · exact hdue m choice purpose earlier (heq ▸ hearlier)
      · rw [heq] at hearlier
        rcases List.suffix_cons_iff.mp hearlier with hnow | hbefore
        · obtain ⟨rfl, rfl⟩ := List.cons.inj hnow
          exact htaken m choice purpose rfl
        · exact hdue m choice purpose earlier hbefore
  · intro a t _ ih few
    obtain ⟨hlined, hmoment, hdue⟩ := ih few
    refine ⟨hlined.congr rfl rfl, fun earlier hearlier => ?_, hdue⟩
    obtain ⟨x, hx, hxa, htx, hlx⟩ := hmoment earlier hearlier
    exact ⟨x, hx, hxa.next (.stir t) rfl, htx, hlx⟩

end World

/-- In every run from a new task, mail is taken in turn, as `InTurn` says: whatever puts, takes of both kinds and closings there are,
at whatever thresholds, by whatever threads and however deep in other mail. This holds as long as fewer than `2 ^ 64` mails that are
not urgent were accepted. -/
theorem taken_in_turn {w : World σ ν} (h : w.Possible) (few : w.task.accepted.countP (fun put => !put.1.isUrgent) < 2 ^ 64) :
    World.InTurn w := by
  obtain ⟨-, hmoment, hdue⟩ := h.lined few
  refine ⟨fun earlier hearlier => ?_, hdue, fun x e earlier hearlier hu hd hx hgone => ?_, (h.flow few).fifo⟩
  · obtain ⟨a, ha, haw, rfl, hlined⟩ := hmoment earlier hearlier
    exact ⟨a, ha, haw, rfl, hlined.perm, lineAfter_sublist _⟩
  · cases e with
    | accepted m sender => exact absurd (List.mem_append_left [m] hx) hgone
    | cleared ms => exact .inr ⟨ms, rfl⟩
    | taken m choice purpose =>
      have htaken := hdue m choice purpose earlier hearlier
      have hxm : x.ticket = m.ticket := by
        by_contra hne
        exact hgone ((List.mem_eraseP_of_neg (by simpa using hne)).mpr hx)
      obtain ⟨a, ha, -, rfl, hlined⟩ := hmoment earlier ((List.suffix_cons _ _).trans hearlier)
      have hdistinct := (hlined.perm.map Mail.ticket).nodup_iff.mpr ha.queued_distinct
      obtain rfl : x = m := List.inj_on_of_nodup_map hdistinct hx htaken.stands hxm
      rw [htaken.deferrable hu hd]
      exact .inl ⟨purpose, rfl⟩
    | _ => exact absurd hx hgone

/-- A task whose only thread sends two mails, and takes one as a yield with threshold 2 does and one as the main loop does. -/
def twoTakes : World Unit Nat :=
  .start (.new ⟨2⟩ 0 none (fun _ => .finish (.returned 0)) ())
    [.post ⟨⟨"low", []⟩, .empty, 0⟩ (.finish (.returned 0)) fun _ =>
      .post ⟨⟨"high", []⟩, .empty, 3⟩ (.finish (.returned 0)) fun _ =>
        .call false (.take (.eligible 2) false) fun _ => .call false (.take .oldest false) fun _ => .finish (.returned 0)]

theorem taken_in_turn_of_two_takes : ∃ w : World Unit Nat, twoTakes.moves (List.replicate 11 (.step 0 0)) = some w ∧
    w.task.accepted.map (·.1.priority) = [0, 3] ∧ w.task.taken.map (·.1.priority) = [3, 0] ∧ World.InTurn w := by
  have possible : twoTakes.Possible := ⟨⟨2⟩, 0, none, _, (), _, .here⟩
  refine ⟨_, rfl, rfl, rfl, taken_in_turn (possible.reach ?_) ?_⟩
  · exact .of_moves (List.replicate 11 (.step 0 0)) rfl
  · decide

end Mailroom
