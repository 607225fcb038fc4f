import SeriesScript.Proofs.Language.Newline
import SeriesScript.Proofs.Language.Relocation

/-!
# Scripts of several lines

A script below another one is read as it is on its own, further down. The newline between them
leaves the reader where it starts, with the program of the script above; and what is below has its
places moved by the lines above, columns unchanged.
-/
namespace SeriesScript

/-! ## Further down -/

def Position.shiftLines (n : Nat) (p : Position) : Position := ⟨p.line + n, p.column⟩

def Span.shiftLines (n : Nat) (s : Span) : Span := ⟨s.start.shiftLines n, s.stop.shiftLines n⟩

def Located.shiftLines (n : Nat) (t : Located) : Located := ⟨t.token, t.span.shiftLines n⟩

def SyntaxError.shiftLines (n : Nat) (e : SyntaxError) : SyntaxError :=
  ⟨e.fault, e.position.shiftLines n⟩

def Program.shiftLines (n : Nat) (program : Program) : Program :=
  program.mapSpans (Option.map (Span.shiftLines n))

namespace Position

variable (n : Nat) (p q : Position)

theorem advance_shiftLines (c : Char) :
    (p.shiftLines n).advance c = (p.advance c).shiftLines n := by
  rw [advance, advance]
  split
  · simp only [shiftLines, Nat.add_right_comm]
  · rfl

theorem after_shiftLines (text : List Char) :
    (p.shiftLines n).after text = (p.after text).shiftLines n := by
  induction text generalizing p with
  | nil => rfl
  | cons c text ih => rw [after_cons, advance_shiftLines, ih, after_cons]

theorem atMost_shiftLines : (p.shiftLines n).atMost (q.shiftLines n) = p.atMost q := by
  have moved : (p.shiftLines n).atMost (q.shiftLines n) =
      (p.line + n < q.line + n || (p.line + n == q.line + n && p.column ≤ q.column)) := rfl
  rw [moved, Bool.eq_iff_iff]
  simp [atMost]

theorem earlier_shiftLines :
    (p.shiftLines n).earlier (q.shiftLines n) = (p.earlier q).shiftLines n := by
  rw [earlier, atMost_shiftLines, earlier, apply_ite (shiftLines n)]

theorem later_shiftLines :
    (p.shiftLines n).later (q.shiftLines n) = (p.later q).shiftLines n := by
  rw [later, atMost_shiftLines, later, apply_ite (shiftLines n)]

/-- A newline behind a text leads to the start of a line, as many lines down as there were
newlines. -/
theorem after_newline (text : List Char) :
    start.after (text ++ ['\n']) = start.shiftLines (text.count '\n' + 1) := by
  rw [after_append, after_start, shiftLines, Nat.add_comm start.line]
  rfl

end Position

theorem Span.merge_shiftLines (n : Nat) (a b : Span) :
    (a.shiftLines n).merge (b.shiftLines n) = (a.merge b).shiftLines n := by
  simp only [merge, shiftLines, Position.earlier_shiftLines, Position.later_shiftLines]

/-! ## Tokens -/

namespace Lexer

theorem span_shiftLines (n : Nat) (p : Position) (piece : Piece) :
    piece.span (p.shiftLines n) = (piece.span p).shiftLines n := by
  rw [Piece.span, Piece.span, Position.after_shiftLines]
  split <;> rfl

theorem locate_shiftLines (n : Nat) (p : Position) (pieces : List Piece) (last : List Char) :
    locate (p.shiftLines n) pieces last = (locate p pieces last).map (Located.shiftLines n) := by
  induction pieces generalizing p with
  | nil =>
    rw [locate, Position.after_shiftLines]
    rfl
  | cons piece pieces ih =>
    simp only [locate, Position.after_shiftLines, span_shiftLines, ih, List.map_cons]
    rfl

/-- The tokens of a text, but for its end, stand before a newline and the tokens of the text
below. -/
theorem tokenize_above {a : String} {tokens : List Located} (h : tokenize a = .ok tokens) :
    ∃ body stop newline, tokens = body ++ [stop] ∧ stop.token = .eof ∧ newline.token = .newline ∧
      (∀ t ∈ body, t.token ≠ .eof) ∧
      ∀ b, tokenize (a ++ "\n" ++ b) =
        ((tokenize b).map fun below =>
          body ++ newline :: below.map (Located.shiftLines (a.toList.count '\n' + 1))).mapError
            (SyntaxError.shiftLines (a.toList.count '\n' + 1)) := by
  unfold tokenize at h
  split at h
  case h_2 => cases h
  rename_i pieces last hc
  cases h
  obtain ⟨whole, -, lexemes⟩ := cut_partition hc
  let behind := (Position.start.after (textOf pieces)).after last
  have nextLine : behind.after ['\n'] = .shiftLines (a.toList.count '\n' + 1) .start := by
    simp only [behind, ← Position.after_append, whole, Position.after_newline]
  have split := locate_append .start pieces [] last
  rw [List.append_nil] at split
  refine ⟨locateLexemes .start pieces, ⟨.eof, ⟨behind, behind⟩⟩,
    ⟨.newline, (Piece.newline last).span behind⟩, split, rfl, rfl, fun t mem => ?_, fun b => ?_⟩
  · obtain ⟨piece, mem, same⟩ := token_mem_of_mem_locateLexemes mem
    rw [same]
    exact (lexemes piece mem).2.1
  · have text : (a ++ "\n" ++ b).toList = a.toList ++ '\n' :: b.toList := by simp
    rw [tokenize, tokenize, text, cut_above hc]
    cases cut b.toList with
    | ok found =>
      obtain ⟨below, end'⟩ := found
      have tokens := locate_shiftLines (a.toList.count '\n' + 1) .start below end'
      rw [← nextLine] at tokens
      rw [foldr_before_ok, List.append_assoc, List.singleton_append]
      exact congrArg Except.ok ((locate_append _ _ _ _).trans (congrArg (fun ts =>
        locateLexemes .start pieces ++ ⟨.newline, (Piece.newline last).span behind⟩ :: ts) tokens))
    | error failure =>
      have place : Position.start.after (textOf (pieces ++ [Piece.newline last]) ++ failure.read) =
          (Position.start.after failure.read).shiftLines (a.toList.count '\n' + 1) := by
        rw [← Position.after_shiftLines, ← nextLine]
        simp only [behind, Piece.newline, Piece.text, textOf_append, textOf_cons, textOf_nil,
          List.append_nil, Position.after_append]
      rw [foldr_before_error]
      exact congrArg (fun p => Except.error (SyntaxError.mk failure.fault p)) place

end Lexer

/-! ## Statements -/

namespace Parser

def Relocation.down (tagged : Bool) (n : Nat) : Relocation tagged tagged where
  position := Position.shiftLines n
  span := Option.map (Span.shiftLines n)
  tag start stop := by cases tagged <;> rfl
  merge a b := by
    cases a <;> cases b <;> try rfl
    exact congrArg some (Span.merge_shiftLines n _ _)

variable {tagged : Bool} {mode : Mode}

/-- A statement does not depend on those before it. -/
theorem read_below (tagged : Bool) (p q : Program) (mode : Mode) (ts : List Located) :
    read tagged ⟨p ++ q, mode⟩ ts = (read tagged ⟨q, mode⟩ ts).map (p ++ ·) := by
  induction ts generalizing q mode with
  | nil =>
    simp only [read]
    cases mode.endLine? tagged with
    | none => rfl
    | some done => exact congrArg Except.ok (List.append_assoc p q done)
  | cons t ts ih =>
    rcases read_cases tagged mode t with ⟨eof, done, ended⟩ | ⟨newline, done, ended⟩ |
      ⟨next, taken⟩ | ⟨taken, ended⟩
    · rw [read_cons_eof eof ended, read_cons_eof eof ended, List.append_assoc]
      rfl
    · rw [read_cons_newline newline ended, read_cons_newline newline ended, List.append_assoc, ih]
    · rw [read_cons_taken taken, read_cons_taken taken, ih]
    · rw [read_cons_refused taken ended, read_cons_refused taken ended]
      rfl

theorem read_above {p q : Program} {body : List Located} {stop newline : Located}
    (inner : ∀ t ∈ body, t.token ≠ .eof) (ends : stop.token = .eof)
    (line : newline.token = .newline) (h : read tagged ⟨p, mode⟩ (body ++ [stop]) = .ok q)
    (below : List Located) :
    read tagged ⟨p, mode⟩ (body ++ newline :: below) = read tagged ⟨q, .lineStart⟩ below := by
  induction body generalizing p mode with
  | nil =>
    rcases read_cons_ok h with ⟨-, done, ended, rfl⟩ | ⟨newline, -⟩ | ⟨next, taken, -⟩
    · exact read_cons_newline line ended
    · simp [ends] at newline
    · simp [Mode.take?_end (.inr ends)] at taken
  | cons t body ih =>
    obtain ⟨first, others⟩ := List.forall_mem_cons.mp inner
    rcases read_cons_ok h with ⟨eof, -⟩ | ⟨newline, done, ended, rest⟩ | ⟨next, taken, rest⟩
    · exact absurd eof first
    · rw [List.cons_append, read_cons_newline newline ended, ih others rest]
    · rw [List.cons_append, read_cons_taken taken, ih others rest]

end Parser

/-- Scripts are read line by line: below a script that can be read, a text is read as it is on its
own, as many lines further down as the script has. If it can be read as well, its statements stand
behind those of the script; if not, its fault is the fault of the whole. -/
theorem Program.parse_above {a : String} {p : Program} {tagged : Bool}
    (h : Program.parse a tagged = .ok p) (b : String) :
    (∀ q, Program.parse b tagged = .ok q →
      Program.parse (a ++ "\n" ++ b) tagged =
        .ok (p ++ q.shiftLines (a.toList.count '\n' + 1))) ∧
    ∀ e, Program.parse b tagged = .error e →
      Program.parse (a ++ "\n" ++ b) tagged =
        .error (e.shiftLines (a.toList.count '\n' + 1)) := by
  rw [Program.parse] at h
  cases tokens : Lexer.tokenize a with
  | error e => simp [tokens] at h
  | ok ts =>
    rw [tokens] at h
    obtain ⟨body, stop, newline, rfl, ends, line, inner, joined⟩ := Lexer.tokenize_above tokens
    rw [Program.parse, Program.parse, joined b]
    cases below : Lexer.tokenize b with
    | error e => exact ⟨nofun, fun e' same => by cases same; rfl⟩
    | ok ts =>
      let down := Parser.Relocation.down tagged (a.toList.count '\n' + 1)
      have whole : Parser.parse tagged (body ++ newline :: ts.map down.located) =
          (down.outcome (Parser.parse tagged ts)).map (p ++ ·) := by
        -- the text below is read behind `p`, and that is to read it alone, moved down
        have above := Parser.read_above inner ends line h (ts.map down.located)
        have moved := down.read [] .lineStart (Lexer.exists_eof_of_tokenize below)
        have behind := Parser.read_below tagged p [] .lineStart (ts.map down.located)
        rw [List.append_nil] at behind
        exact (above.trans behind).trans (congrArg (Except.map (p ++ ·)) moved)
      constructor
      · intro q read
        exact whole.trans (congrArg (fun o => (down.outcome o).map (p ++ ·)) read)
      · intro e read
        exact whole.trans (congrArg (fun o => (down.outcome o).map (p ++ ·)) read)

def commented : String := "x = 1.5 # a half\nprint('a\\\nb')"

theorem Program.parse_above_commented :
    ∃ p q, Program.parse commented true = .ok p ∧ Program.parse "print(x)" true = .ok q ∧
      Program.parse (commented ++ "\n" ++ "print(x)") true = .ok (p ++ q.shiftLines 3) ∧
      q.spans = [some ⟨⟨1, 0⟩, ⟨1, 8⟩⟩, some ⟨⟨1, 6⟩, ⟨1, 7⟩⟩] ∧
      (q.shiftLines 3).spans = [some ⟨⟨4, 0⟩, ⟨4, 8⟩⟩, some ⟨⟨4, 6⟩, ⟨4, 7⟩⟩] := by
  have upper : (Program.parse commented true).toOption.isSome = true := by decide +kernel
  have lower : (Program.parse "print(x)" true).toOption.map
      (fun q => (q.spans, (q.shiftLines 3).spans)) =
      some ([some ⟨⟨1, 0⟩, ⟨1, 8⟩⟩, some ⟨⟨1, 6⟩, ⟨1, 7⟩⟩],
        [some ⟨⟨4, 0⟩, ⟨4, 8⟩⟩, some ⟨⟨4, 6⟩, ⟨4, 7⟩⟩]) := by
    decide +kernel
  cases above : Program.parse commented true with
  | error e => simp [above, Except.toOption] at upper
  | ok p =>
    cases below : Program.parse "print(x)" true with
    | error e =>
      rw [below] at lower
      cases lower
    | ok q =>
      rw [below] at lower
      obtain ⟨here, there⟩ := Prod.mk.inj (Option.some.inj lower)
      exact ⟨p, q, rfl, rfl, (Program.parse_above above "print(x)").1 q below, here, there⟩

end SeriesScript
