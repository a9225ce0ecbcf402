import GraphQLTokens.Cursor.Scan

/-! Programs that drive a cursor. Snapshots are kept in numbered slots for the whole run; those
taken inside an attempt that fails stay valid. -/

namespace GraphQLTokens.Cursor

inductive Step where
  | peek
  | peekNth (n : Nat)
  | peekMany (n : Nat)
  | startsWith (t : Text)
  | advance
  | advanceMany (n : Nat)
  | eat (x : Char)
  | eatIf (p : Char → Bool)
  | eatWhile (p : Char → Bool)
  | isAtEnd
  | source
  | remaining
  | sliceFrom (start : Nat)
  | snapshot
  | restore (slot : Nat)
  | recognize (r : Recognizer)
  /-- Runs its steps, and goes back to where it began unless it succeeds. -/
  | attempt (steps : List Step) (succeeds : Bool)
  | refuse (reason : Text)

inductive Reply where
  | scalar (x : Option Char)
  | text (t : Option Text)
  | flag (b : Bool)
  | count (n : Nat)
  | kind (k : Option TokenKind)
  | done
  | overflow
  | outOfRange
  | noSuchSlot
  | attempted (kept : Bool) (replies : List (Reply × Nat))
  | refused (reason : Text)

structure Run where
  cursor : Cursor
  slots : List Snapshot

namespace Run

def start (t : Text) : Run :=
  ⟨ofText t, []⟩

def moved (r : Run) (c : Cursor) : Run :=
  { r with cursor := c }

end Run

def look (c : Cursor) : Step → Option Reply
  | .peek => some (.scalar c.peek)
  | .peekNth n =>
    match c.peekNth n with
    | .ok x => some (.scalar x)
    | .error .overflow => some .overflow
  | .peekMany n => some (.text (c.peekMany n))
  | .startsWith t => some (.flag (c.startsWith t))
  | .isAtEnd => some (.flag c.isAtEnd)
  | .source => some (.text (some c.source))
  | .remaining => some (.text (some c.remaining))
  | .sliceFrom start => some (((c.sliceFrom? start).map fun t => .text (some t)).getD .outOfRange)
  | .refuse reason => some (.refused reason)
  | _ => none

mutual

def perform (r : Run) : Step → Reply × Run
  | .advance => let (x, c) := r.cursor.advance; (.scalar x, r.moved c)
  | .advanceMany n => let (count, c) := r.cursor.advanceMany n; (.count count, r.moved c)
  | .eat x => let (eaten, c) := r.cursor.eat x; (.flag eaten, r.moved c)
  | .eatIf p => let (x, c) := r.cursor.eatIf p; (.scalar x, r.moved c)
  | .eatWhile p => let (count, c) := r.cursor.eatWhile p; (.count count, r.moved c)
  | .recognize recognizer =>
    let (kind, c) := r.cursor.recognize recognizer
    (.kind kind, r.moved c)
  | .snapshot => (.count r.slots.length, { r with slots := r.slots ++ [r.cursor.snapshot] })
  | .restore slot =>
    match r.slots[slot]? with
    | some saved => (.done, r.moved (r.cursor.restore saved))
    | none => (.noSuchSlot, r)
  | .attempt steps succeeds =>
    let (replies, after) := performAll r steps
    (.attempted succeeds replies,
      if succeeds then after else after.moved (after.cursor.restore r.cursor.snapshot))
  | step => ((r.cursor.look step).getD .done, r)

def performAll (r : Run) : List Step → List (Reply × Nat) × Run
  | [] => ([], r)
  | step :: steps =>
    let (reply, after) := perform r step
    let (replies, final) := performAll after steps
    ((reply, after.cursor.position) :: replies, final)

end

def replies (t : Text) (steps : List Step) : List (Reply × Nat) :=
  (performAll (Run.start t) steps).1

end GraphQLTokens.Cursor
