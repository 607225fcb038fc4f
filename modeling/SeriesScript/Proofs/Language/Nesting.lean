import SeriesScript.Proofs.Language.Parts
import SeriesScript.Proofs.Language.Places
import SeriesScript.Proofs.Language.Spans
import SeriesScript.Proofs.Language.Stretches

/-!
# Spans nest

The spans of a program that is read with positions lie in each other as the parts of the program do,
and point at the text that was read: that of a reference at its name, that of a call from its name
to its closing bracket, that of an operation from its left operand to its right one.
-/
namespace SeriesScript

def Related (r : Span → Span → Prop) (a b : Option Span) : Prop :=
  ∃ s t, a = some s ∧ b = some t ∧ r s t

/-- The tokens of a call of a function among the tokens of a text. What stands between its brackets
opens and closes brackets of its own only, so that the last bracket closes the first one. -/
structure IsCall (source : String) (tokens : List Located) (function : String)
    (name opens : Located) (inner : List Located) (closes : Located) : Prop where
  among : name :: opens :: (inner ++ [closes]) <:+: tokens
  callee : name.token = .identifier function
  left : opens.token = .leftParen
  balanced : Derivation.Balanced inner
  right : closes.token = .rightParen
  texts : name.span.chars source = function.toList ∧ opens.span.chars source = ['('] ∧
    closes.span.chars source = [')']

def Expr.PointsAt (source : String) (tokens : List Located) : Expr → Prop
  | .literal value span =>
    ∃ t ∈ tokens, Parser.literalOf? t.token = some value ∧ span = some t.span
  | .reference name span => ∃ s, span = some s ∧ s.chars source = name.toList
  | .binary _ left right span =>
    ∃ a b, left.span = some a ∧ right.span = some b ∧ span = some ⟨a.start, b.stop⟩
  | .call function _ span =>
    ∃ name opens inner closes, IsCall source tokens function name opens inner closes ∧
      span = some ⟨name.span.start, closes.span.stop⟩

/-- The span of an expression points at its text, and the spans of its children lie in it, from left
to right. -/
structure Expr.Fits (source : String) (tokens : List Located) (e : Expr) : Prop where
  filled : ∃ s, e.span = some s ∧ s.Filled
  within : ∀ c ∈ e.children, Related Span.Within c.span e.span
  ordered : e.children.Pairwise fun a b => Related Span.Precedes a.span b.span
  points : e.PointsAt source tokens

/-- The span of a statement holds that of its value, whose parts fit all. -/
structure Statement.Fits (source : String) (tokens : List Located) (s : Statement) : Prop where
  filled : ∃ span, s.span = some span ∧ span.Filled
  within : Related Span.Within s.value.span s.span
  parts : ∀ path part, s.value.at? path = some part → part.Fits source tokens

namespace Derivation

variable {source : String} {ts us : List Located} {a b : Option Span} {s : Span} {e : Expr}

/-! ## Spans among tokens -/

/-- The span is recorded and not empty, and lies between the ends of some of these tokens. -/
def Held (ts : List Located) (a : Option Span) : Prop :=
  ∃ s, a = some s ∧ s.Filled ∧ (∃ t ∈ ts, t.span.start ≤ s.start) ∧ ∃ t ∈ ts, s.stop ≤ t.span.stop

theorem Held.mono (h : Held ts a) (sub : ts ⊆ us) : Held us a := by
  obtain ⟨s, rfl, filled, ⟨t, ht, low⟩, ⟨u, hu, high⟩⟩ := h
  exact ⟨s, rfl, filled, ⟨t, sub ht, low⟩, ⟨u, sub hu, high⟩⟩

theorem Held.filled (h : Held ts a) : ∃ s, a = some s ∧ s.Filled := by
  obtain ⟨s, rfl, filled, -⟩ := h
  exact ⟨s, rfl, filled⟩

theorem Held.token {t : Located} (h : t.span.Filled) : Held [t] (some t.span) :=
  ⟨t.span, rfl, h, ⟨t, List.mem_singleton_self t, le_rfl⟩, ⟨t, List.mem_singleton_self t, le_rfl⟩⟩

theorem Held.precedes (h : Held ts a) (h' : Held us b)
    (across : ∀ t ∈ ts, ∀ u ∈ us, t.span.Precedes u.span) : Related Span.Precedes a b := by
  obtain ⟨s, rfl, -, -, ⟨t, ht, high⟩⟩ := h
  obtain ⟨s', rfl, -, ⟨u, hu, low⟩, -⟩ := h'
  exact ⟨s, s', rfl, rfl, high.trans ((across t ht u hu).trans low)⟩

def Covers (ts : List Located) (s : Span) : Prop :=
  ∃ first rest, ts = first :: rest ∧ s.start = first.span.start ∧ EndsAt ts s.stop

theorem Held.within (h : Held ts a) (laid : LaidOut source ts) (covers : Covers ts s) :
    Related Span.Within a (some s) := by
  obtain ⟨s', rfl, -, ⟨t, ht, low⟩, ⟨u, hu, high⟩⟩ := h
  obtain ⟨first, rest, starts, start, init, last, ends, stop⟩ := covers
  refine ⟨s', s, rfl, rfl, ?_, ?_⟩
  · rw [start]
    exact ((starts ▸ laid).start_le t (starts ▸ ht)).trans low
  · rw [← stop]
    exact high.trans ((ends ▸ laid).le_stop u (ends ▸ hu))

theorem Covers.held (laid : LaidOut source ts) (covers : Covers ts s) : Held ts (some s) := by
  obtain ⟨first, rest, starts, start, init, last, ends, stop⟩ := covers
  have firstMem : first ∈ ts := starts ▸ List.mem_cons_self
  have lastMem : last ∈ ts := ends ▸ List.mem_append_right init (List.mem_singleton_self last)
  have filled : s.start < s.stop := by
    rw [start, ← stop]
    exact (laid.filled first firstMem).trans_le ((ends ▸ laid).le_stop first (ends ▸ firstMem))
  exact ⟨s, rfl, filled, ⟨first, firstMem, start.ge⟩, ⟨last, lastMem, stop.ge⟩⟩

theorem covers_call (name opens closes : Located) (inner : List Located) :
    Covers (name :: opens :: (inner ++ [closes])) ⟨name.span.start, closes.span.stop⟩ :=
  ⟨name, _, rfl, rfl, name :: opens :: inner, closes, rfl, rfl⟩

/-! ## Expressions -/

theorem fits_mono (h : e.Fits source ts) (inside : ts <:+: us) : e.Fits source us := by
  refine ⟨h.filled, h.within, h.ordered, ?_⟩
  have points := h.points
  cases e with
  | literal value span =>
    obtain ⟨t, mem, token, rfl⟩ := points
    exact ⟨t, inside.subset mem, token, rfl⟩
  | reference => exact points
  | binary => exact points
  | call function args span =>
    obtain ⟨name, opens, inner, closes, call, rfl⟩ := points
    exact ⟨name, opens, inner, closes, { call with among := call.among.trans inside }, rfl⟩

/-- The span of the expression lies among these tokens, and all its parts fit. -/
structure Settled (source : String) (ts : List Located) (e : Expr) : Prop where
  held : Held ts e.span
  parts : ∀ path part, e.at? path = some part → part.Fits source ts

theorem Settled.mono (h : Settled source ts e) (inside : ts <:+: us) : Settled source us e where
  held := h.held.mono inside.subset
  parts path part found := fits_mono (h.parts path part found) inside

theorem settled_of_children (held : Held ts e.span)
    (within : ∀ c ∈ e.children, Related Span.Within c.span e.span)
    (ordered : e.children.Pairwise fun a b => Related Span.Precedes a.span b.span)
    (points : e.PointsAt source ts) (children : ∀ c ∈ e.children, Settled source ts c) :
    Settled source ts e := by
  refine ⟨held, fun path part found => ?_⟩
  cases path with
  | nil =>
    cases found
    exact ⟨held.filled, within, ordered, points⟩
  | cons i path =>
    obtain ⟨c, child, found⟩ := Option.bind_eq_some_iff.mp found
    exact (children c (List.mem_of_getElem? child)).parts path part found

theorem settled_leaf (leaf : e.children = []) (held : Held ts e.span)
    (points : e.PointsAt source ts) : Settled source ts e := by
  refine settled_of_children held ?_ ?_ points ?_
  · exact leaf ▸ List.forall_mem_nil _
  · exact leaf ▸ .nil
  · exact leaf ▸ List.forall_mem_nil _

theorem mergeSpans_of_precedes (h : Related Span.Precedes a b) (held : Held ts a)
    (held' : Held us b) :
    ∃ s t, a = some s ∧ b = some t ∧ s.start ≤ t.start ∧ s.stop ≤ t.stop ∧
      Expr.mergeSpans a b = some ⟨s.start, t.stop⟩ := by
  obtain ⟨s, t, rfl, rfl, precedes⟩ := h
  obtain ⟨_, same, filled⟩ := held.filled
  cases same
  obtain ⟨_, same, filled'⟩ := held'.filled
  cases same
  have starts : s.start ≤ t.start := filled.le.trans precedes
  have stops : s.stop ≤ t.stop := precedes.trans filled'.le
  refine ⟨s, t, rfl, rfl, starts, stops, ?_⟩
  rw [Expr.mergeSpans, Span.merge, Position.earlier_of_le starts, Position.later_of_le stops]

theorem settled_join {sign : Located} {left right : Expr} {op : BinaryOp}
    (laid : LaidOut source (ts ++ sign :: us)) (first : Settled source ts left)
    (second : Settled source us right) :
    Settled source (ts ++ sign :: us) (left.join op right) := by
  have across : ∀ t ∈ ts, ∀ u ∈ us, t.span.Precedes u.span :=
    fun t ht u hu => laid.across t ht u (List.mem_cons_of_mem sign hu)
  have precedes := first.held.precedes second.held across
  obtain ⟨a, b, spanA, spanB, starts, stops, merged⟩ :=
    mergeSpans_of_precedes precedes first.held second.held
  have span : (left.join op right).span = some ⟨a.start, b.stop⟩ := merged
  have first : Settled source (ts ++ sign :: us) left :=
    first.mono (List.prefix_append _ _).isInfix
  have second : Settled source (ts ++ sign :: us) right := second.mono ⟨ts ++ [sign], [], by simp⟩
  refine settled_of_children ?_ ?_ ?_ ⟨a, b, spanA, spanB, merged⟩ ?_
  · obtain ⟨_, same, filled, low, -⟩ := first.held
    cases spanA.symm.trans same
    obtain ⟨_, same, -, -, high⟩ := second.held
    cases spanB.symm.trans same
    exact ⟨_, span, filled.trans_le stops, low, high⟩
  · rw [span]
    refine List.forall_mem_cons.mpr ⟨⟨a, _, spanA, rfl, le_rfl, stops⟩, ?_⟩
    exact List.forall_mem_singleton.mpr ⟨b, _, spanB, rfl, starts, le_rfl⟩
  · exact List.pairwise_pair.mpr precedes
  · exact List.forall_mem_cons.mpr ⟨first, List.forall_mem_singleton.mpr second⟩

theorem ordered_of_listed {parts : List Part} (args : Listed parts ts) (laid : LaidOut source ts)
    (each : ∀ part ∈ parts, Held part.tokens part.tree.span) :
    (parts.map (·.tree)).Pairwise fun a b => Related Span.Precedes a.span b.span := by
  have order := List.pairwise_flatMap.mp (laid.sublist args.sublist).ordered
  refine List.pairwise_map.mpr (order.2.imp_of_mem fun {p q} hp hq across => ?_)
  exact (each p hp).precedes (each q hq) across

theorem settled_call {name opens closes : Located} {inner : List Located} {function : String}
    {parts : List Part} (laid : LaidOut source (name :: opens :: (inner ++ [closes])))
    (callee : name.token = .identifier function) (left : opens.token = .leftParen)
    (args : Listed parts inner) (balanced : Balanced inner) (right : closes.token = .rightParen)
    (each : ∀ part ∈ parts, Settled source part.tokens part.tree) :
    Settled source (name :: opens :: (inner ++ [closes]))
      (.call function (parts.map (·.tree)) (some ⟨name.span.start, closes.span.stop⟩)) := by
  have inside : inner <:+: name :: opens :: (inner ++ [closes]) := ⟨[name, opens], [closes], rfl⟩
  have covers := covers_call name opens closes inner
  have children : ∀ c ∈ parts.map (·.tree),
      Settled source (name :: opens :: (inner ++ [closes])) c := by
    refine List.forall_mem_map.mpr fun part mem => ?_
    exact (each part mem).mono ((args.isInfix part mem).trans inside)
  refine settled_of_children (covers.held laid) (fun c mem => ?_) ?_ ?_ children
  · exact (children c mem).held.within laid covers
  · exact ordered_of_listed args (laid.sublist inside.sublist) fun part mem => (each part mem).held
  · have first := laid.written name List.mem_cons_self
    have second := laid.written opens (by simp)
    have last := laid.written closes (by simp)
    refine ⟨name, opens, inner, closes, ?_, rfl⟩
    refine ⟨List.infix_rfl, callee, left, balanced, right, first _ ?_, second _ ?_, last _ ?_⟩
    · rw [callee, Token.lexeme?]
    · rw [left, Token.lexeme?]
    · rw [right, Token.lexeme?]

/-- Tokens that are laid out in a text give an expression whose parts fit that text. -/
theorem Derives.settled (h : Derives ts e) (laid : LaidOut source ts) : Settled source ts e := by
  induction h with
  | @literal t value literal =>
    have held := Held.token (laid.filled t (List.mem_singleton_self t))
    exact settled_leaf rfl held ⟨t, List.mem_singleton_self t, literal, rfl⟩
  | @reference t name named =>
    have held := Held.token (laid.filled t (List.mem_singleton_self t))
    have text := laid.written t (List.mem_singleton_self t) name.toList
    exact settled_leaf rfl held ⟨t.span, rfl, text (by rw [named, Token.lexeme?])⟩
  | @group opens closes ts e left inner right ih =>
    -- brackets are no part of the span, which lies among the tokens between them
    have inside : ts <:+: opens :: (ts ++ [closes]) := ⟨[opens], [closes], rfl⟩
    exact (ih (laid.sublist inside.sublist)).mono inside
  | @operation ts us sign e f op left operator right ihLeft ihRight =>
    have behind : LaidOut source us := laid.right.sublist (List.sublist_cons_self sign us)
    exact settled_join laid (ihLeft laid.left) (ihRight behind)
  | @call name opens closes function parts inner callee left args each right ih =>
    have inside : inner <:+: name :: opens :: (inner ++ [closes]) := ⟨[name, opens], [closes], rfl⟩
    have balanced := args.balanced fun part mem => (each part mem).balanced
    refine settled_call laid callee left args balanced right fun part mem => ?_
    exact ih part mem (laid.sublist ((args.isInfix part mem).trans inside).sublist)

/-! ## Statements -/

variable {stmt : Statement} {p : Program} {tokens : List Located}

/-- The span of a statement covers its tokens, and among them are those of its value. -/
theorem DerivesLine.covers (h : DerivesLine ts stmt) :
    ∃ span us, stmt.span = some span ∧ Covers ts span ∧ us <:+: ts ∧ Derives us stmt.value := by
  cases h with
  | @declare word target sign ts name e stop keyword named assign value ends =>
    have behind : ts <:+: word :: target :: sign :: ts := ⟨[word, target, sign], [], by simp⟩
    exact ⟨_, ts, rfl, ⟨word, _, rfl, rfl, ends.behind [word, target, sign]⟩, behind, value⟩
  | @assign target sign ts name e stop named assign value ends =>
    have behind : ts <:+: target :: sign :: ts := ⟨[target, sign], [], by simp⟩
    exact ⟨_, ts, rfl, ⟨target, _, rfl, rfl, ends.behind [target, sign]⟩, behind, value⟩
  | @print word opens closes ts e keyword left value right =>
    have inside : ts <:+: word :: opens :: (ts ++ [closes]) := ⟨[word, opens], [closes], rfl⟩
    exact ⟨_, ts, rfl, covers_call word opens closes ts, inside, value⟩

theorem DerivesLine.fits (h : DerivesLine ts stmt) (laid : LaidOut source ts)
    (inside : ts <:+: tokens) : Held ts stmt.span ∧ stmt.Fits source tokens := by
  obtain ⟨span, us, recorded, covers, within, value⟩ := h.covers
  have settled := (value.settled (laid.sublist within.sublist)).mono within
  have held := recorded ▸ covers.held laid
  refine ⟨held, held.filled, ?_, (settled.mono inside).parts⟩
  rw [recorded]
  exact settled.held.within laid covers

/-- The statements of laid out lines fit the text, one behind the other. -/
theorem DerivesLines.fit (h : DerivesLines ts p) (laid : LaidOut source ts)
    (inside : ts <:+: tokens) :
    (∀ s ∈ p, Held ts s.span ∧ s.Fits source tokens) ∧
      p.Pairwise fun a b => Related Span.Precedes a.span b.span := by
  induction h with
  | none => exact ⟨List.forall_mem_nil _, .nil⟩
  | last line =>
    exact ⟨List.forall_mem_singleton.mpr (line.fits laid inside), List.pairwise_singleton _ _⟩
  | @blank newline ts p ends rest ih =>
    have behind : ts <:+ newline :: ts := List.suffix_cons newline ts
    obtain ⟨each, ordered⟩ := ih (laid.sublist behind.sublist) (behind.isInfix.trans inside)
    exact ⟨fun s mem => ⟨(each s mem).1.mono behind.subset, (each s mem).2⟩, ordered⟩
  | @line newline ts us s p line ends rest ih =>
    have first : ts <+: ts ++ newline :: us := List.prefix_append _ _
    have behind : us <:+ ts ++ newline :: us := ⟨ts ++ [newline], by simp⟩
    obtain ⟨held, fits⟩ := line.fits laid.left (first.isInfix.trans inside)
    obtain ⟨each, ordered⟩ := ih (laid.sublist behind.sublist) (behind.isInfix.trans inside)
    refine ⟨List.forall_mem_cons.mpr ⟨⟨held.mono first.subset, fits⟩, fun s mem => ?_⟩, ?_⟩
    · exact ⟨(each s mem).1.mono behind.subset, (each s mem).2⟩
    · refine .cons (fun s mem => held.precedes (each s mem).1 fun t ht u hu => ?_) ordered
      exact laid.across t ht u (List.mem_cons_of_mem newline hu)

end Derivation

/-- The spans of a program that is read with positions are all recorded and not empty. They nest as
its parts do, from left to right, and point at the texts that write these parts. -/
theorem Program.parse_spans_nest (source : String) (program : Program)
    (h : Program.parse source true = .ok program) :
    ∃ tokens, Lexer.tokenize source = .ok tokens ∧ (∀ s ∈ program, s.Fits source tokens) ∧
      program.Pairwise fun a b => Related Span.Precedes a.span b.span := by
  rw [Program.parse] at h
  cases read : Lexer.tokenize source with
  | error e => simp [read] at h
  | ok tokens =>
    rw [read] at h
    obtain ⟨body, stop, rfl, ends, inside, laid⟩ := Lexer.tokenize_laidOut read
    have lines := Derivation.derivesLines_of_parse inside ends h
    obtain ⟨each, ordered⟩ := lines.fit laid (List.prefix_append body [stop]).isInfix
    exact ⟨body ++ [stop], rfl, fun s mem => (each s mem).2, ordered⟩

def bracketed : String := "var x = (a + f((b), 'c d')) * 2 # twice\n\nprint(x)"

theorem Program.parse_spans_nest_bracketed :
    ∃ program, Program.parse bracketed true = .ok program ∧
      program.spans = [some ⟨⟨1, 0⟩, ⟨1, 31⟩⟩, some ⟨⟨1, 9⟩, ⟨1, 31⟩⟩, some ⟨⟨1, 9⟩, ⟨1, 26⟩⟩,
        some ⟨⟨1, 9⟩, ⟨1, 10⟩⟩, some ⟨⟨1, 13⟩, ⟨1, 26⟩⟩, some ⟨⟨1, 16⟩, ⟨1, 17⟩⟩,
        some ⟨⟨1, 20⟩, ⟨1, 25⟩⟩, some ⟨⟨1, 30⟩, ⟨1, 31⟩⟩, some ⟨⟨3, 0⟩, ⟨3, 8⟩⟩,
        some ⟨⟨3, 6⟩, ⟨3, 7⟩⟩] ∧
      ∃ tokens, Lexer.tokenize bracketed = .ok tokens ∧
        (∀ s ∈ program, s.Fits bracketed tokens) ∧
        program.Pairwise fun a b => Related Span.Precedes a.span b.span := by
  have spans : (Program.parse bracketed true).toOption.map Program.spans =
      some [some ⟨⟨1, 0⟩, ⟨1, 31⟩⟩, some ⟨⟨1, 9⟩, ⟨1, 31⟩⟩, some ⟨⟨1, 9⟩, ⟨1, 26⟩⟩,
        some ⟨⟨1, 9⟩, ⟨1, 10⟩⟩, some ⟨⟨1, 13⟩, ⟨1, 26⟩⟩, some ⟨⟨1, 16⟩, ⟨1, 17⟩⟩,
        some ⟨⟨1, 20⟩, ⟨1, 25⟩⟩, some ⟨⟨1, 30⟩, ⟨1, 31⟩⟩, some ⟨⟨3, 0⟩, ⟨3, 8⟩⟩,
        some ⟨⟨3, 6⟩, ⟨3, 7⟩⟩] := by
    decide +kernel
  cases read : Program.parse bracketed true with
  | error e =>
    rw [read] at spans
    cases spans
  | ok program =>
    rw [read] at spans
    exact ⟨program, rfl, Option.some.inj spans, Program.parse_spans_nest bracketed program read⟩

end SeriesScript
