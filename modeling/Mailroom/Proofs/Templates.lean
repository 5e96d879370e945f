import Mailroom.Description

/-!
# What a template says

A template is read from left to right: where the next two characters form a pair (`Pair`), they are read together, and where they do not,
the next character is read for itself (`Reads`). Every template has exactly one reading, and a description is rendered by it
(`Description.RendersAs`): the literals stand as they are, the hole with number `k` holds the text of argument `k`, and a hole that is left
over holds its own two braces. A text is brought into a template by doubling its braces; what is written so is read back as it was meant.
The main statement is `rendering_is_exact`.
-/

namespace Mailroom

/-- A piece of a template: a text that stands for itself, or a hole. -/
inductive Segment where
  | literal (text : List Char)
  | hole
deriving DecidableEq, Repr

namespace Segment

/-- A character as a template spells it: a brace is written twice. -/
def spell (c : Char) : List Char := if Rendering.isBrace c then [c, c] else [c]

/-- The segment as it is written in a template. -/
def encode : Segment → List Char
  | literal text => text.flatMap spell
  | hole => ['{', '}']

/-- The segment as it is read: a literal comes as one segment for each character. -/
def letters : Segment → List Segment
  | literal text => text.map fun c => literal [c]
  | hole => [hole]

/-- How many holes there are. -/
def holes (segments : List Segment) : Nat := segments.count hole

/-- The literals with the texts in the holes, the first of which has number `k`: a hole without a text holds its own braces. -/
def filledFrom (texts : List (List Char)) : Nat → List Segment → List Char
  | _, [] => []
  | k, literal text :: rest => text ++ filledFrom texts k rest
  | k, hole :: rest => texts.getD k ['{', '}'] ++ filledFrom texts (k + 1) rest

/-- A literal that is read character by character fills no hole. -/
theorem filledFrom_literals (texts : List (List Char)) (k : Nat) (text : List Char) (segments : List Segment) :
    filledFrom texts k (text.map (fun c => literal [c]) ++ segments) = text ++ filledFrom texts k segments := by
  induction text with
  | nil => rfl
  | cons c text ih => exact congrArg (c :: ·) ih

/-- A literal that is read character by character says the same. -/
theorem filledFrom_letters (texts : List (List Char)) (k : Nat) (segments : List Segment) :
    filledFrom texts k (segments.flatMap letters) = filledFrom texts k segments := by
  induction segments generalizing k with
  | nil => rfl
  | cons s segments ih =>
    rw [List.flatMap_cons]
    cases s with
    | literal text =>
      rw [letters, filledFrom_literals, ih]
      rfl
    | hole => exact congrArg (texts.getD k ['{', '}'] ++ ·) (ih (k + 1))

/-- A literal is no hole. -/
theorem holes_cons_literal (text : List Char) (segments : List Segment) : holes (literal text :: segments) = holes segments :=
  List.count_cons_of_ne (by simp)

theorem holes_cons_hole (segments : List Segment) : holes (hole :: segments) = holes segments + 1 := List.count_cons_self

/-- To read the literals character by character changes no hole. -/
theorem holes_letters (segments : List Segment) : holes (segments.flatMap letters) = holes segments := by
  induction segments with
  | nil => rfl
  | cons s segments ih =>
    rw [List.flatMap_cons]
    cases s with
    | literal text =>
      have hnone : (text.map fun c => literal [c]).count hole = 0 := by
        refine List.count_eq_zero.mpr fun hmem => ?_
        obtain ⟨c, _, hc⟩ := List.mem_map.mp hmem
        cases hc
      rw [holes_cons_literal, ← ih, holes, letters, List.count_append, hnone, Nat.zero_add, holes]
    | hole => rw [letters, List.singleton_append, holes_cons_hole, holes_cons_hole, ih]

end Segment

/-- Two characters that a template reads together. -/
inductive Pair : Char → Char → Segment → Prop where
  | opening : Pair '{' '{' (.literal ['{'])
  | closing : Pair '}' '}' (.literal ['}'])
  | hole : Pair '{' '}' .hole

/-- The reading of a text from left to right: the next two characters together if they form a pair, and otherwise one character. -/
inductive Reads : List Char → List Segment → Prop where
  | done : Reads [] []
  | pair {c d : Char} {s : Segment} (hp : Pair c d s) {rest : List Char} {segments : List Segment} (h : Reads rest segments) :
      Reads (c :: d :: rest) (s :: segments)
  | single {c : Char} {rest : List Char} (hn : ∀ d tail s, rest = d :: tail → ¬ Pair c d s) {segments : List Segment}
      (h : Reads rest segments) : Reads (c :: rest) (.literal [c] :: segments)

/-! ## Every text has one reading -/

/-- A pair begins with a brace. -/
theorem Pair.isBrace {c d : Char} {s : Segment} (h : Pair c d s) : Rendering.isBrace c = true := by cases h <;> rfl

/-- A pair means one thing. -/
theorem Pair.unique {c d : Char} {s s' : Segment} (h : Pair c d s) (h' : Pair c d s') : s' = s := by
  cases h <;> cases h' <;> rfl

/-- The cases are those of the scan, which looks for the pairs first. -/
theorem Reads.exists (text : List Char) : ∃ segments, Reads text segments := by
  induction text, ([] : List Rendering) using Rendering.scan.induct with
  | case1 rest _ ih => exact ih.imp' _ fun _ h => .pair .opening h
  | case2 rest _ ih => exact ih.imp' _ fun _ h => .pair .closing h
  | case3 rest ih => exact ih.imp' _ fun _ h => .pair .hole h
  | case4 rest _ _ ih => exact ih.imp' _ fun _ h => .pair .hole h
  | case5 c rest args h1 h2 h3 h4 ih =>
    refine ih.imp' _ fun _ h => .single ?_ h
    intro d tail s hrest hp
    cases hp with
    | opening => exact h1 tail rfl hrest
    | closing => exact h2 tail rfl hrest
    | hole =>
      cases args with
      | nil => exact h3 tail rfl rfl hrest
      | cons a args => exact h4 tail a args rfl rfl hrest
  | case6 => exact ⟨[], .done⟩

/-- A text is read in one way, since at each character it is decided whether that begins a pair. -/
theorem Reads.unique {text : List Char} {segments : List Segment} (h : Reads text segments) {other : List Segment}
    (h' : Reads text other) : other = segments := by
  induction h generalizing other with
  | done => cases h'; rfl
  | pair hp _ ih =>
    cases h' with
    | pair hp' h' => rw [hp.unique hp', ih h']
    | single hn => exact absurd hp (hn _ _ _ rfl)
  | single hn _ ih =>
    cases h' with
    | pair hp => exact absurd hp (hn _ _ _ rfl)
    | single _ h' => rw [ih h']

/-- To be a reading of a text is to be the one that it has. -/
theorem Reads.iff {text : List Char} {segments : List Segment} (h : Reads text segments) (other : List Segment) :
    Reads text other ↔ other = segments :=
  ⟨h.unique, fun heq => heq ▸ h⟩

/-! ## What is written with doubled braces is read back -/

/-- A character that is spelled out is read as itself, whatever follows it: a brace finds its double next to it, and no other character
begins a pair. -/
theorem Reads.spell (c : Char) {rest : List Char} {segments : List Segment} (h : Reads rest segments) :
    Reads (Segment.spell c ++ rest) (.literal [c] :: segments) := by
  unfold Segment.spell
  split
  · next hc =>
    rcases (Bool.or_eq_true _ _).mp hc with hc | hc <;> obtain rfl := of_decide_eq_true hc
    · exact .pair .opening h
    · exact .pair .closing h
  · next hc => exact .single (fun _ _ _ _ hp => hc hp.isBrace) h

/-- A literal that is spelled out is read back character by character. -/
theorem Reads.literal (text : List Char) {rest : List Char} {segments : List Segment} (h : Reads rest segments) :
    Reads (text.flatMap Segment.spell ++ rest) (text.map (fun c => Segment.literal [c]) ++ segments) := by
  induction text with
  | nil => exact h
  | cons c text ih =>
    rw [List.flatMap_cons, List.append_assoc]
    exact ih.spell c

/-- What is written from segments is read back as these segments, the literals character by character. -/
theorem Reads.encode (segments : List Segment) : Reads (segments.flatMap Segment.encode) (segments.flatMap Segment.letters) := by
  induction segments with
  | nil => exact .done
  | cons s segments ih =>
    rw [List.flatMap_cons, List.flatMap_cons]
    cases s with
    | literal text => exact ih.literal text
    | hole => exact .pair .hole ih

/-! ## The scan follows the reading -/

namespace Rendering

/-- The literals with the renderings of the arguments in the holes, the first of which has number `k`; one name for each time that a
counted argument is formatted. -/
def filling (args : List Rendering) (k : Nat) (segments : List Segment) : Rendering :=
  ⟨Segment.filledFrom (args.map Rendering.text) k segments, ((args.drop k).take (Segment.holes segments)).flatMap Rendering.names⟩

/-- A literal stands for itself. -/
theorem filling_literal (args : List Rendering) (k : Nat) (c : Char) (segments : List Segment) :
    filling args k (.literal [c] :: segments) = (filling args k segments).cons c := by
  rw [filling, Segment.holes_cons_literal]
  rfl

/-- A hole whose number has an argument. -/
theorem filling_hole_of_lt {args : List Rendering} {k : Nat} (hk : k < args.length) (segments : List Segment) :
    filling args k (.hole :: segments) = args[k].append (filling args (k + 1) segments) := by
  rw [filling, Segment.holes_cons_hole, Segment.filledFrom, List.drop_eq_getElem_cons hk, List.take_succ_cons, List.flatMap_cons,
    List.getD_eq_getElem?_getD, List.getElem?_map, List.getElem?_eq_getElem hk]
  rfl

/-- A hole that is left over. -/
theorem filling_hole_of_le {args : List Rendering} {k : Nat} (hk : args.length ≤ k) (segments : List Segment) :
    filling args k (.hole :: segments) = ((filling args (k + 1) segments).cons '}').cons '{' := by
  rw [filling, Segment.filledFrom, List.getD_eq_getElem?_getD, List.getElem?_map, List.getElem?_eq_none hk, List.drop_eq_nil_of_le hk,
    filling, List.drop_eq_nil_of_le (Nat.le_succ_of_le hk), List.take_nil, List.take_nil]
  rfl

/-- A character that begins no pair is copied. -/
theorem scan_single {c : Char} {rest : List Char} (hn : ∀ d tail s, rest = d :: tail → ¬ Pair c d s) (args : List Rendering) :
    scan (c :: rest) args = (scan rest args).cons c := by
  refine scan.eq_5 args c rest ?_ ?_ ?_ ?_
  · rintro tail rfl hrest
    exact hn _ _ _ hrest .opening
  · rintro tail rfl hrest
    exact hn _ _ _ hrest .closing
  · rintro tail - rfl hrest
    exact hn _ _ _ hrest .hole
  · rintro tail a args' - rfl hrest
    exact hn _ _ _ hrest .hole

/-- The scan that has come to the hole with number `k` has the arguments from there on left. -/
theorem scan_drop {text : List Char} {segments : List Segment} (h : Reads text segments) (args : List Rendering) (k : Nat) :
    scan text (args.drop k) = filling args k segments := by
  induction h generalizing k with
  | done => rfl
  | pair hp _ ih =>
    cases hp with
    | opening => rw [scan, ih, filling_literal]
    | closing => rw [scan, ih, filling_literal]
    | hole =>
      rcases Nat.lt_or_ge k args.length with hk | hk
      · rw [filling_hole_of_lt hk, ← ih, List.drop_eq_getElem_cons hk, scan]
      · rw [filling_hole_of_le hk, ← ih, List.drop_eq_nil_of_le hk, List.drop_eq_nil_of_le (Nat.le_succ_of_le hk), scan]
  | single hn _ ih => rw [scan_single hn, ih, filling_literal]

/-- The scan of a template fills the holes of its reading. -/
theorem scan_eq_filling {text : List Char} {segments : List Segment} (h : Reads text segments) (args : List Rendering) :
    scan text args = filling args 0 segments := scan_drop h args 0

/-- A text without braces is copied. -/
theorem scan_of_not_any_isBrace {text : List Char} (h : text.any isBrace = false) (args : List Rendering) :
    scan text args = ⟨text, []⟩ := by
  induction text with
  | nil => rfl
  | cons c text ih =>
    rw [List.any_cons, Bool.or_eq_false_iff] at h
    rw [scan_single (fun _ _ _ _ hp => by rw [hp.isBrace] at h; cases h.1), ih h.2]
    rfl

/-- The template that is taken as it stands is one that the scan would copy. -/
theorem ofTemplate_eq_scan (template : String) (args : List Rendering) : ofTemplate template args = scan template.toList args := by
  unfold ofTemplate
  split
  · next h =>
    rw [Bool.and_eq_true, Bool.not_eq_true'] at h
    rw [scan_of_not_any_isBrace h.2, ofText]
  · rfl

end Rendering

/-! ## Descriptions -/

/-- The arguments are rendered one by one. -/
theorem Argument.renderAll_eq_map (arguments : List Argument) : Argument.renderAll arguments = arguments.map Argument.render := by
  induction arguments with
  | nil => rfl
  | cons a arguments ih => rw [Argument.renderAll, ih, List.map_cons]

/-- A description in a hole is rendered like any other. -/
theorem Argument.render_nested (template : String) (arguments : List Argument) :
    (Argument.nested template arguments).render = (⟨template, arguments⟩ : Description).render := by
  rw [Argument.render, Description.render]

/-- The description is rendered as its template says when it is made of these segments: every hole holds the text of its argument as it
is, and the arguments that have a hole are formatted once, in order, and no others. -/
structure Description.RendersAs (d : Description) (segments : List Segment) : Prop where
  display : d.display = String.ofList (Segment.filledFrom (d.arguments.map fun a => a.render.text) 0 segments)
  formatted : d.formatted = (d.arguments.take (min (Segment.holes segments) d.arguments.length)).flatMap fun a => a.render.names

/-- What a rendering shows and what it formats are read off the filling. -/
theorem Description.rendersAs_of_render {d : Description} {segments : List Segment}
    (h : d.render = .filling (d.arguments.map Argument.render) 0 segments) : d.RendersAs segments where
  display := by
    rw [Description.display, h, Rendering.toString, Rendering.filling, List.map_map]
    rfl
  formatted := by
    rw [Description.formatted, h, Rendering.filling, List.drop_zero, ← List.map_take, List.flatMap_map, List.take_eq_take_min]

/-- A description is rendered from the reading of its template. -/
theorem Description.render_eq_filling {d : Description} {segments : List Segment} (h : Reads d.template.toList segments) :
    d.render = .filling (d.arguments.map Argument.render) 0 segments := by
  rw [Description.render, Rendering.ofTemplate_eq_scan, Argument.renderAll_eq_map, Rendering.scan_eq_filling h]

/-- Rendering is exact. A template that is written from segments, by doubling the braces of the literals and writing an empty pair of
braces for a hole, is rendered from these segments, whatever the literals and the arguments are; and every other template has one reading
and is rendered from that. The template that is taken as it stands is rendered like any other, and so is a description in a hole. -/
theorem rendering_is_exact :
    (∀ (segments : List Segment) (arguments : List Argument),
      (⟨String.ofList (segments.flatMap Segment.encode), arguments⟩ : Description).RendersAs segments) ∧
    (∀ d : Description, ∃ segments, (∀ other, Reads d.template.toList other ↔ other = segments) ∧ d.RendersAs segments) ∧
    (∀ (template : String) (args : List Rendering), Rendering.ofTemplate template args = .scan template.toList args) ∧
    ∀ (template : String) (arguments : List Argument),
      (Argument.nested template arguments).render = (⟨template, arguments⟩ : Description).render := by
  refine ⟨fun segments arguments => ?_, fun d => ?_, Rendering.ofTemplate_eq_scan, Argument.render_nested⟩
  · generalize hd : (⟨String.ofList (segments.flatMap Segment.encode), arguments⟩ : Description) = d
    have hread : Reads d.template.toList (segments.flatMap Segment.letters) := by
      rw [← hd, String.toList_ofList]
      exact .encode segments
    refine Description.rendersAs_of_render ?_
    rw [Description.render_eq_filling hread, Rendering.filling, Segment.filledFrom_letters, Segment.holes_letters]
    rfl
  · obtain ⟨segments, hread⟩ := Reads.exists d.template.toList
    exact ⟨segments, hread.iff, Description.rendersAs_of_render (Description.render_eq_filling hread)⟩

/-- A hole between doubled braces: three braces in a row are a pair and then a hole, and what comes into the hole is not read again. -/
example : (⟨"\x7b\x7b\x7b\x7d\x7d\x7d", [.text "\x7b\x7d"]⟩ : Description).display = "\x7b\x7b\x7d\x7d" := by decide

end Mailroom
